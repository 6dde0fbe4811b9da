import VipKeeper.Proofs.Queue.SharedQueue
import VipKeeper.Proofs.Sync.Course
import VipKeeper.Proofs.Sync.Controller

/-! A controller with its workers, the notifications that reach it and the timers of its queue. -/

namespace VipKeeper

/-- What a notification says about the object under a key before and after a change. An update tells its version
apart from an earlier one. -/
def Change.Announces (change : Change) (key : ObjectKey) (before after : Option LoadBalancer) : Prop :=
  change.Concerns key ∧ match change with
    | .added balancer | .updated _ balancer => after = some balancer
    | .deleted balancer => before = some balancer ∧ after = none
    | .vanished _ _ => False

instance (change : Change) (key : ObjectKey) (before after : Option LoadBalancer) :
    Decidable (change.Announces key before after) :=
  match change with
  | .added _ | .updated _ _ => inferInstanceAs (Decidable (_ ∧ _ = _))
  | .deleted _ => inferInstanceAs (Decidable (_ ∧ _ = _ ∧ _ = _))
  | .vanished _ _ => inferInstanceAs (Decidable (_ ∧ False))

namespace Sync

/-! ### Workers and acts -/

/-- How far a worker is with the pass for a key. -/
inductive Turn where
  | idle
  | took (key : ObjectKey)
  | passing (key : ObjectKey) (course : Course (Record × Except Failure Outcome))
  | ended (key : ObjectKey) (result : Except Failure Outcome)
  | settled (key : ObjectKey)

def Turn.key? : Turn → Option ObjectKey
  | idle => none
  | took key | passing key _ | ended key _ | settled key => some key

theorem Turn.key?_eq_none_iff (turn : Turn) : turn.key? = none ↔ turn = .idle := by
  cases turn <;> simp [Turn.key?]

/-- The notices and the stirs are the notifications of changed objects and of a changed membership that are still
to be handled, and the calls those that are noted, but for which the target is still to be queued. -/
structure Control (ω : Type) where
  store : ObjectKey → Option LoadBalancer
  membership : Membership
  notices : List Change
  stirs : Nat
  calls : Nat
  controller : Controller
  record : Record
  alarms : List ObjectKey
  turns : ω → Turn

namespace Control

/-- What can happen to a controller. Its workers take keys, do passes and give keys back, each step apart. -/
inductive Act (ω : Type) where
  | declare (key : ObjectKey) (object : Option LoadBalancer) (notice : Change)
  | remark (notice : Change)
  | regroup (membership : Membership)
  | hear
  | stir
  | enqueue
  | take (worker : ω)
  | begin (worker : ω)
  | proceed (worker : ω) (mishap : Option Mishap)
  | conclude (worker : ω)
  | settle (worker : ω) (span : Span)
  | release (worker : ω)
  | ring (key : ObjectKey)
  | close

variable {ω : Type}

/-- Nothing is declared at first, so that every object is announced when it is. -/
def start (target : ObjectKey) (membership : Membership) : Control ω :=
  ⟨fun _ => none, membership, [], 0, 0, .start target, .empty, [], fun _ => .idle⟩

def facts (target : ObjectKey) (control : Control ω) : Facts :=
  ⟨control.store target, control.membership⟩

/-- The queue of a controller among its workers. -/
def shared (control : Control ω) : SharedQueue ObjectKey ω :=
  ⟨control.controller.queue, control.alarms, fun worker => (control.turns worker).key?.toList⟩

/-- The first notification is handled up to the point where the target is queued. -/
def hear (control : Control ω) : Control ω :=
  match control.notices with
  | [] => control
  | notice :: rest =>
    if notice.Concerns control.controller.target then
      { control with notices := rest, controller := control.controller.note notice, calls := control.calls + 1 }
    else { control with notices := rest }

def withQueue (control : Control ω) (queue : WorkQueue ObjectKey) : Control ω :=
  { control with controller := { control.controller with queue := queue } }

variable [DecidableEq ω]

/-- A worker gets on with its pass. -/
def turn (control : Control ω) (worker : ω) (next : Turn) : Control ω :=
  { control with turns := Function.update control.turns worker next }

def take (control : Control ω) (worker : ω) : Control ω :=
  match control.turns worker, control.controller.queue.take? with
  | .idle, some (key, queue) =>
    { control with controller := { control.controller with queue := queue }.withDepth }.turn worker (.took key)
  | _, _ => control

/-- The trigger and the record are read when the pass begins. -/
def begin (site : Site) (control : Control ω) (worker : ω) : Control ω :=
  match control.turns worker with
  | .took key =>
    control.turn worker
      (.passing key (pass Course.calls site control.record key (control.controller.triggerFor key)))
  | _ => control

def proceed (control : Control ω) (worker : ω) (mishap : Option Mishap) : Control ω :=
  match control.turns worker with
  | .passing key course => control.turn worker (.passing key (course.proceed control.store control.membership mishap))
  | _ => control

def conclude (control : Control ω) (worker : ω) : Control ω :=
  match control.turns worker with
  | .passing key (.done (record, result)) => { control with record := record }.turn worker (.ended key result)
  | _ => control

def settle (backoff : Backoff) (control : Control ω) (worker : ω) (span : Span) : Control ω :=
  match control.turns worker with
  | .ended key result =>
    let settled := control.controller.settle backoff key span result
    { control with
      controller := settled.1
      alarms := settled.2.toList.map (fun _ => key) ++ control.alarms }.turn worker (.settled key)
  | _ => control

def release (control : Control ω) (worker : ω) : Control ω :=
  match control.turns worker with
  | .settled key => { control with controller := (control.controller.release key none).controller }.turn worker .idle
  | _ => control

/-- What comes of an act. Nothing comes of one whose time has not come. -/
def perform (site : Site) (backoff : Backoff) (control : Control ω) : Act ω → Control ω
  | .declare key object notice =>
    if notice.Announces key (control.store key) object then
      { control with store := Function.update control.store key object, notices := control.notices ++ [notice] }
    else control
  | .remark notice =>
    if notice.Concerns control.controller.target then control
    else { control with notices := control.notices ++ [notice] }
  | .regroup membership => { control with membership := membership, stirs := control.stirs + 1 }
  | .hear => control.hear
  | .stir =>
    if control.stirs = 0 then control
    else { control with stirs := control.stirs - 1, calls := control.calls + 1 }
  | .enqueue =>
    if control.calls = 0 then control
    else { control with calls := control.calls - 1, controller := control.controller.enqueue.1 }
  | .take worker => control.take worker
  | .begin worker => control.begin site worker
  | .proceed worker mishap => control.proceed worker mishap
  | .conclude worker => control.conclude worker
  | .settle worker span => control.settle backoff worker span
  | .release worker => control.release worker
  | .ring key =>
    if key ∈ control.alarms then
      { control.withQueue (control.controller.queue.add key).1 with alarms := control.alarms.erase key }
    else control
  | .close => control.withQueue control.controller.queue.close

def after (site : Site) (backoff : Backoff) (control : Control ω) (acts : List (Act ω)) : Control ω :=
  acts.foldl (perform site backoff) control

/-- All that an act can come to, and when it does. -/
inductive Performed (site : Site) (backoff : Backoff) (control : Control ω) : Control ω → Prop where
  | nothing : Performed site backoff control control
  | declared (key : ObjectKey) (object : Option LoadBalancer) (notice : Change)
      (announces : notice.Announces key (control.store key) object) :
      Performed site backoff control
        { control with store := Function.update control.store key object, notices := control.notices ++ [notice] }
  | remarked (notice : Change) (apart : ¬ notice.Concerns control.controller.target) :
      Performed site backoff control { control with notices := control.notices ++ [notice] }
  | regrouped (membership : Membership) :
      Performed site backoff control { control with membership := membership, stirs := control.stirs + 1 }
  | heard (notice : Change) (rest : List Change) (pending : control.notices = notice :: rest)
      (concerns : notice.Concerns control.controller.target) :
      Performed site backoff control
        { control with notices := rest, controller := control.controller.note notice, calls := control.calls + 1 }
  | ignored (notice : Change) (rest : List Change) (pending : control.notices = notice :: rest)
      (apart : ¬ notice.Concerns control.controller.target) :
      Performed site backoff control { control with notices := rest }
  | stirred :
      Performed site backoff control { control with stirs := control.stirs - 1, calls := control.calls + 1 }
  | enqueued :
      Performed site backoff control
        { control with calls := control.calls - 1, controller := control.controller.enqueue.1 }
  | took (worker : ω) (key : ObjectKey) (queue : WorkQueue ObjectKey) (idle : control.turns worker = .idle)
      (found : control.controller.queue.take? = some (key, queue)) :
      Performed site backoff control
        ({ control with controller := { control.controller with queue := queue }.withDepth }.turn worker (.took key))
  | began (worker : ω) (key : ObjectKey) (now : control.turns worker = .took key) :
      Performed site backoff control
        (control.turn worker
          (.passing key (pass Course.calls site control.record key (control.controller.triggerFor key))))
  | proceeded (worker : ω) (key : ObjectKey) (course : Course (Record × Except Failure Outcome))
      (mishap : Option Mishap) (now : control.turns worker = .passing key course) :
      Performed site backoff control
        (control.turn worker (.passing key (course.proceed control.store control.membership mishap)))
  | concluded (worker : ω) (key : ObjectKey) (record : Record) (result : Except Failure Outcome)
      (now : control.turns worker = .passing key (.done (record, result))) :
      Performed site backoff control ({ control with record := record }.turn worker (.ended key result))
  | settled (worker : ω) (key : ObjectKey) (span : Span) (result : Except Failure Outcome)
      (now : control.turns worker = .ended key result) :
      Performed site backoff control
        ({ control with
          controller := (control.controller.settle backoff key span result).1
          alarms := (control.controller.settle backoff key span result).2.toList.map (fun _ => key) ++
            control.alarms }.turn worker (.settled key))
  | released (worker : ω) (key : ObjectKey) (now : control.turns worker = .settled key) :
      Performed site backoff control
        ({ control with controller := (control.controller.release key none).controller }.turn worker .idle)
  | rang (key : ObjectKey) (set : key ∈ control.alarms) :
      Performed site backoff control
        { control.withQueue (control.controller.queue.add key).1 with alarms := control.alarms.erase key }
  | closed : Performed site backoff control (control.withQueue control.controller.queue.close)

theorem performed (site : Site) (backoff : Backoff) (control : Control ω) (act : Act ω) :
    Performed site backoff control (control.perform site backoff act) := by
  cases act with
  | declare key object notice =>
    simp only [perform]
    split
    next announces => exact .declared key object notice announces
    next => exact .nothing
  | remark notice =>
    simp only [perform]
    split
    next => exact .nothing
    next apart => exact .remarked notice apart
  | regroup membership => exact .regrouped membership
  | hear =>
    simp only [perform, hear]
    split
    next => exact .nothing
    next notice rest pending =>
      split
      next concerns => exact .heard notice rest pending concerns
      next apart => exact .ignored notice rest pending apart
  | stir =>
    simp only [perform]
    split
    next => exact .nothing
    next => exact .stirred
  | enqueue =>
    simp only [perform]
    split
    next => exact .nothing
    next => exact .enqueued
  | take worker =>
    simp only [perform, take]
    split
    next key queue idle found => exact .took worker key queue idle found
    next => exact .nothing
  | begin worker =>
    simp only [perform, begin]
    split
    next key now => exact .began worker key now
    next => exact .nothing
  | proceed worker mishap =>
    simp only [perform, proceed]
    split
    next key course now => exact .proceeded worker key course mishap now
    next => exact .nothing
  | conclude worker =>
    simp only [perform, conclude]
    split
    next key record result now => exact .concluded worker key record result now
    next => exact .nothing
  | settle worker span =>
    simp only [perform, settle]
    split
    next key result now => exact .settled worker key span result now
    next => exact .nothing
  | release worker =>
    simp only [perform, release]
    split
    next key now => exact .released worker key now
    next => exact .nothing
  | ring key =>
    simp only [perform]
    split
    next set => exact .rang key set
    next => exact .nothing
  | close => exact .closed

/-! ### Steps that belong together -/

/-- A notification that concerns the target is handled by noting it and queueing the target. -/
theorem controller_hear_enqueue (site : Site) (backoff : Backoff) (control : Control ω) (notice : Change)
    (rest : List Change) (pending : control.notices = notice :: rest)
    (concerns : notice.Concerns control.controller.target) :
    (control.after site backoff [.hear, .enqueue]).controller = (control.controller.handle (.balancer notice)).1 := by
  rw [Controller.handle_balancer, if_pos concerns]
  simp [after, perform, hear, pending, concerns]

/-- A pass that is over is finished by settling it and giving its key back. -/
theorem controller_settle_release (site : Site) (backoff : Backoff) (control : Control ω) (worker : ω)
    (key : ObjectKey) (span : Span) (result : Except Failure Outcome) (now : control.turns worker = .ended key result) :
    (control.after site backoff [.settle worker span, .release worker]).controller =
      (control.controller.finish backoff key span result).controller := by
  rw [Controller.finish_eq]
  simp [after, perform, settle, release, now, turn, Controller.release]

end Control

end Sync

end VipKeeper
