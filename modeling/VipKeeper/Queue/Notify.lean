/-! How waiting workers are notified of work. -/

namespace VipKeeper

/-- A notification that no worker waits for is kept as a permit for the next one that comes, but there is only one such
permit. Workers wait in the order in which they came. -/
structure Notify (ω : Type) where
  permit : Bool
  waiters : List ω
  deriving DecidableEq

namespace Notify

variable {ω : Type}

def empty : Notify ω := ⟨false, []⟩

instance : Inhabited (Notify ω) := ⟨empty⟩

/-- Notifies the worker that has waited longest. -/
def notifyOne (notify : Notify ω) : Notify ω × Option ω :=
  match notify.waiters with
  | [] => ({ notify with permit := true }, none)
  | worker :: rest => ({ notify with waiters := rest }, some worker)

/-- Notifies all who wait. -/
def notifyWaiters (notify : Notify ω) : Notify ω × List ω :=
  ({ notify with waiters := [] }, notify.waiters)

/-- A worker that looks for work uses up the permit. -/
def takePermit (notify : Notify ω) : Notify ω :=
  { notify with permit := false }

def enlist (notify : Notify ω) (worker : ω) : Notify ω :=
  { notify with waiters := notify.waiters ++ [worker] }

/-- A worker stops waiting. -/
def remove [DecidableEq ω] (notify : Notify ω) (worker : ω) : Notify ω :=
  { notify with waiters := notify.waiters.filter (fun other => !decide (other = worker)) }

end Notify

end VipKeeper
