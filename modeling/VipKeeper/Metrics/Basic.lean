import VipKeeper.Decimal.Binary
import VipKeeper.Ordered
import VipKeeper.Time.Span

/-! What the program counts about its own work. -/

namespace VipKeeper

/-- Durations that were observed: their sum in seconds, their number, and for each bound how many were at most
as long. -/
structure Histogram where
  sum : Binary
  count : Nat
  within : List Nat
  deriving DecidableEq

namespace Histogram

/-- The bounds double from a millisecond to about sixteen seconds. -/
def bounds : List Span :=
  (List.range 15).map (fun k => Span.ofMillis (Nat.pow 2 k))

def empty : Histogram :=
  ⟨.zero, 0, bounds.map (fun _ => 0)⟩

/-- A span in seconds, as a number of double precision: its whole seconds and the rest are rounded apart. -/
def inSeconds (span : Span) : Binary :=
  Binary.sum Binary.double (Binary.nearest Binary.double span.seconds 1)
    (Binary.nearest Binary.double span.subsecond Span.perSecond)

def observe (histogram : Histogram) (span : Span) : Histogram :=
  ⟨Binary.sum Binary.double histogram.sum (inSeconds span), histogram.count + 1,
    List.zipWith (fun bound count => if span ≤ bound then count + 1 else count) bounds histogram.within⟩

end Histogram

/-- Counts by a name: nothing is counted for a name that is missing. -/
abbrev Tallies := OrderedMap String Nat

namespace Tallies

def count (tallies : Tallies) (name : String) : Tallies :=
  tallies.alter name (fun earlier => earlier.getD 0 + 1)

/-- All that was counted. -/
def total (tallies : Tallies) : Nat :=
  tallies.entries.foldr (fun entry rest => entry.2 + rest) 0

end Tallies

/-- Passes are counted by their outcome, errors by their kind, and changes of role by the role. The depth is the
number of keys that were last seen to wait. -/
structure Metrics where
  passes : Tallies
  durations : Histogram
  reloads : Nat
  errors : Tallies
  transitions : Tallies
  invalidations : Nat
  depth : Nat
  deriving DecidableEq

namespace Metrics

def zero : Metrics :=
  ⟨.empty, .empty, 0, .empty, .empty, 0, 0⟩

instance : Inhabited Metrics := ⟨zero⟩

def countPass (metrics : Metrics) (outcome : String) (span : Span) : Metrics :=
  { metrics with
    passes := Tallies.count metrics.passes outcome
    durations := metrics.durations.observe span }

def countReload (metrics : Metrics) : Metrics :=
  { metrics with reloads := metrics.reloads + 1 }

def countError (metrics : Metrics) (kind : String) : Metrics :=
  { metrics with errors := Tallies.count metrics.errors kind }

def countTransition (metrics : Metrics) (role : String) : Metrics :=
  { metrics with transitions := Tallies.count metrics.transitions role }

def countInvalidations (metrics : Metrics) (removed : Nat) : Metrics :=
  { metrics with invalidations := metrics.invalidations + removed }

def withDepth (metrics : Metrics) (depth : Nat) : Metrics :=
  { metrics with depth := depth }

end Metrics

end VipKeeper
