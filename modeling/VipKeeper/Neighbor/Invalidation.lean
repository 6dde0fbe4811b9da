import VipKeeper.Fault
import VipKeeper.Neighbor.Entry

/-! Removal of the neighbor entries for addresses that this node has taken over. -/

namespace VipKeeper.Neighbor

/-- What a pass over the table found and did. -/
structure Tally where
  matched : Nat
  removed : Nat
  failed : Nat
  deriving DecidableEq

namespace Tally

def zero : Tally := ⟨0, 0, 0⟩

def count (tally : Tally) (succeeded : Bool) : Tally :=
  if succeeded then ⟨tally.matched + 1, tally.removed + 1, tally.failed⟩
  else ⟨tally.matched + 1, tally.removed, tally.failed + 1⟩

end Tally

/-- Access to a neighbor table. -/
structure Table (m : Type → Type) where
  entries : m (Except Fault (List Entry))
  remove : Entry → m (Except Fault Unit)

variable {m : Type → Type} [Monad m]

/-- Tries to remove entries one after the other; a failure does not stop the rest. -/
def removeAll (table : Table m) : List Entry → Tally → m Tally
  | [], tally => pure tally
  | entry :: rest, tally => do
    match ← table.remove entry with
    | .ok () => removeAll table rest (tally.count true)
    | .error _ => removeAll table rest (tally.count false)

/-- Removes every entry for an owned address. The table is read once, and not at all if nothing is owned. -/
def invalidate (table : Table m) (owned : List Address) : m (Except Fault Tally) :=
  if owned.isEmpty then pure (.ok Tally.zero)
  else do
    match ← table.entries with
    | .error fault => return .error fault
    | .ok entries =>
      return .ok (← removeAll table (entries.filter (fun entry => decide (entry.address ∈ owned))) Tally.zero)

end VipKeeper.Neighbor
