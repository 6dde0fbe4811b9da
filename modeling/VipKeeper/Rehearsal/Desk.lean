import VipKeeper.Queue.Notify
import VipKeeper.Queue.WorkQueue

/-! A rehearsal in counted time: who has something to do, who waits to be notified, and the alarms that are set.

Time is counted in milliseconds and moves only when nobody has anything to do. Alarms of one moment go off in
the order in which they were set. -/

namespace VipKeeper.Rehearsal

/-- Who can be called: the script of the rehearsal, or one of the tasks that go on beside it. -/
inductive Party (τ : Type) where
  | script
  | task (task : τ)
  deriving DecidableEq

/-- `called` are the tasks that have something to do, in the order in which they were called. The script is
called apart from them, because it moves only when they wait. -/
structure Desk (τ : Type) where
  now : Nat
  notify : Notify (Party τ)
  alarms : List (Nat × Party τ)
  called : List τ
  scriptCalled : Bool

namespace Desk

variable {τ : Type}

def start : Desk τ :=
  ⟨0, .empty, [], [], false⟩

def call (desk : Desk τ) (party : Party τ) : Desk τ :=
  match party with
  | .script => { desk with scriptCalled := true }
  | .task task => { desk with called := desk.called ++ [task] }

def notifyOne (desk : Desk τ) : Desk τ :=
  let (notify, party) := desk.notify.notifyOne
  match party with
  | none => { desk with notify := notify }
  | some party => { desk with notify := notify }.call party

def notifyIf (desk : Desk τ) (notifies : Bool) : Desk τ :=
  if notifies then desk.notifyOne else desk

def notifyWaiters (desk : Desk τ) : Desk τ :=
  let (notify, parties) := desk.notify.notifyWaiters
  parties.foldl call { desk with notify := notify }

/-- Sets an alarm behind all others of the same moment. -/
def setAlarm (desk : Desk τ) (moment : Nat) (party : Party τ) : Desk τ :=
  { desk with
    alarms := desk.alarms.takeWhile (fun alarm => decide (alarm.1 ≤ moment)) ++
      (moment, party) :: desk.alarms.dropWhile (fun alarm => decide (alarm.1 ≤ moment)) }

/-- Sets an alarm for the end of a span, of which a begun millisecond counts as a whole. -/
def setAfter (desk : Desk τ) (span : Span) (party : Party τ) : Desk τ :=
  desk.setAlarm (desk.now + span.millisUp) party

/-- The task that was called first. -/
def next? (desk : Desk τ) : Option (τ × Desk τ) :=
  match desk.called with
  | [] => none
  | task :: rest => some (task, { desk with called := rest })

/-- The next moment at which an alarm goes off. -/
def nextAlarm? (desk : Desk τ) : Option Nat :=
  desk.alarms.head?.map Prod.fst

/-- Moves time forward and calls everybody whose alarm goes off. -/
def moveTo (desk : Desk τ) (moment : Nat) : Desk τ :=
  let due := desk.alarms.takeWhile (fun alarm => decide (alarm.1 ≤ moment))
  due.foldl (fun desk alarm => desk.call alarm.2) { desk with
    now := max desk.now moment
    alarms := desk.alarms.dropWhile (fun alarm => decide (alarm.1 ≤ moment)) }

variable [DecidableEq τ]

/-- The script gives up waiting. A call that it has not followed goes to the next who waits. -/
def scriptLeaves (desk : Desk τ) : Desk τ :=
  let desk := { desk with notify := desk.notify.remove .script }
  if desk.scriptCalled then { desk with scriptCalled := false }.notifyOne else desk

end Desk

/-- What a worker finds when it looks for work. -/
inductive Found (κ : Type) where
  | key (key : κ)
  | closed
  | nothing

/-- A worker looks for work. If there is none it waits to be notified, unless the queue is closed. -/
def look {τ κ : Type} [DecidableEq κ] (desk : Desk τ) (queue : WorkQueue κ) (party : Party τ) :
    Desk τ × WorkQueue κ × Found κ :=
  let desk := { desk with notify := desk.notify.takePermit }
  match queue.take? with
  | some (key, queue) => (desk, queue, .key key)
  | none =>
    if queue.closed then (desk, queue, .closed)
    else ({ desk with notify := desk.notify.enlist party }, queue, .nothing)

end VipKeeper.Rehearsal
