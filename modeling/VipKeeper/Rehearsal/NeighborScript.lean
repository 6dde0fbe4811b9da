import VipKeeper.Failover

/-! Rehearsals of changes of role, on a neighbor table that is kept in memory and can be made to fail. -/

namespace VipKeeper.Rehearsal

/-- A table that counts how often it is read and keeps the entries that were removed. The removal of an entry
fails if its device or its address is among the stuck ones. -/
structure Shelf where
  entries : List Neighbor.Entry
  stuck : List String
  unreadable : Bool
  breaking : Bool
  reads : Nat
  removed : List Neighbor.Entry

namespace Shelf

def isStuck (shelf : Shelf) (entry : Neighbor.Entry) : Bool :=
  shelf.stuck.contains entry.device || shelf.stuck.contains entry.address.text

/-- Removing an entry removes all that are equal to it. -/
def table : Neighbor.Table (StateM Shelf) where
  entries := do
    modify (fun shelf => { shelf with reads := shelf.reads + 1 })
    let shelf ← get
    return if shelf.unreadable then .error (.neighbor "permission denied") else .ok shelf.entries
  remove entry := do
    let shelf ← get
    if shelf.isStuck entry then return .error (.neighbor "operation not permitted")
    else
      set { shelf with
        entries := shelf.entries.filter (fun other => !decide (other = entry))
        removed := shelf.removed ++ [entry] }
      return .ok ()

/-- Removes the entries for owned addresses. A breaking table breaks off when it is read. -/
def invalidation (owned : List Address) : StateM Shelf (Except Mishap Neighbor.Tally) := do
  if (← get).breaking && !owned.isEmpty then
    modify (fun shelf => { shelf with reads := shelf.reads + 1 })
    return .error (.panic "the table broke")
  else
    return match ← Neighbor.invalidate table owned with
      | .ok tally => .ok tally
      | .error fault => .error (.fault fault)

/-- Forgets which entries were removed. -/
def fresh (shelf : Shelf) : Shelf :=
  { shelf with removed := [] }

end Shelf

/-- A node that owns addresses, beside a table. -/
structure Watch where
  shelf : Shelf
  owned : List Address
  metrics : Metrics

inductive WatchStep where
  | owned (addresses : List Address)
  | entries (entries : List Neighbor.Entry)
  | unreadable (holds : Bool)
  | breaking (holds : Bool)
  | stuck (names : List String)
  | transition (transition : Transition)
  | all (transitions : List Transition)

namespace Watch

/-- What a step does, and the tally of the invalidation that it leads to. -/
def act (watch : Watch) : WatchStep → Watch × Option Neighbor.Tally
  | .owned addresses => ({ watch with owned := addresses }, none)
  | .entries entries => ({ watch with shelf := { watch.shelf with entries := entries } }, none)
  | .unreadable holds => ({ watch with shelf := { watch.shelf with unreadable := holds } }, none)
  | .breaking holds => ({ watch with shelf := { watch.shelf with breaking := holds } }, none)
  | .stuck names => ({ watch with shelf := { watch.shelf with stuck := names } }, none)
  | .transition transition =>
    let ((metrics, tally), shelf) :=
      (Failover.handle (Shelf.invalidation watch.owned) watch.metrics transition).run watch.shelf
    (⟨shelf, watch.owned, metrics⟩, tally)
  | .all transitions =>
    let (metrics, shelf) :=
      (Failover.handleAll (Shelf.invalidation watch.owned) watch.metrics transitions).run watch.shelf
    (⟨shelf, watch.owned, metrics⟩, none)

def perform (watch : Watch) (step : WatchStep) : Watch × Option Neighbor.Tally :=
  act { watch with shelf := watch.shelf.fresh } step

end Watch

end VipKeeper.Rehearsal
