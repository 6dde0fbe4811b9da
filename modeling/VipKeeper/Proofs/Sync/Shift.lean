import VipKeeper.Proofs.Queue.Failures
import VipKeeper.Proofs.Queue.SharedQueue
import VipKeeper.Proofs.Sync.Controller

/-! The workers of a controller on their shift. Any key may be queued at any time, and passes may end in any way. -/

namespace VipKeeper

namespace WorkQueue

variable {κ : Type} [DecidableEq κ] {queue next : WorkQueue κ} {key : κ}

/-- Nothing is done to a queue except that a key may be added to it. -/
def Joined (queue : WorkQueue κ) (key : κ) (next : WorkQueue κ) : Prop :=
  next = queue ∨ next = (queue.add key).1

theorem joined_add (queue : WorkQueue κ) (key : κ) : queue.Joined key (queue.add key).1 :=
  .inr rfl

namespace Joined

theorem coherent (joined : queue.Joined key next) (coherent : queue.Coherent) : next.Coherent := by
  rcases joined with rfl | rfl
  · exact coherent
  · exact coherent.add key

theorem held (joined : queue.Joined key next) : next.held = queue.held := by
  rcases joined with rfl | rfl
  · rfl
  · exact held_add queue key

theorem closed (joined : queue.Joined key next) : next.closed = queue.closed := by
  rcases joined with rfl | rfl
  · rfl
  · exact closed_add queue key

theorem requeues (joined : queue.Joined key next) (other : κ) : next.requeues other = queue.requeues other := by
  rcases joined with rfl | rfl
  · rfl
  · exact requeues_of_failures (failures_add queue key) other

theorem mem_dirty (joined : queue.Joined key next) {other : κ} (dirty : other ∈ queue.dirty) : other ∈ next.dirty := by
  rcases joined with rfl | rfl
  · exact dirty
  · exact (mem_dirty_add queue key other).2 (.inl dirty)

theorem of_mem_dirty (joined : queue.Joined key next) {other : κ} (dirty : other ∈ next.dirty) :
    other ∈ queue.dirty ∨ other = key := by
  rcases joined with rfl | rfl
  · exact .inl dirty
  · exact ((mem_dirty_add queue key other).1 dirty).imp_right And.left

end Joined

end WorkQueue

namespace Sync

/-- Whether the key of a pass is to be tried again. -/
def fails : Except Failure Outcome → Bool
  | .ok _ => false
  | .error failure => failure.isRetryable

/-- Besides success there is only what waiting does not mend: an invalid declaration, or a failed start. -/
theorem fails_eq_false_iff {result : Except Failure Outcome} :
    fails result = false ↔ (∃ outcome, result = .ok outcome) ∨ (∃ problems, result = .error (.invalid problems)) ∨
      ∃ detail, result = .error (.startup detail) := by
  cases result with
  | ok outcome => simp [fails]
  | error failure => cases failure <;> simp [fails, Failure.isRetryable]

/-! ### The end of a pass -/

namespace Controller

/-- The part of ending a pass that counts it, with the wait that is due to its failure. -/
def tally (controller : Controller) (backoff : Backoff) (key : ObjectKey) (span : Span)
    (result : Except Failure Outcome) : Controller × Option Span :=
  let counted := controller.count span result
  if fails result then
    ({ counted with queue := (counted.queue.fail backoff key).2 }, some (counted.queue.fail backoff key).1)
  else (counted.forget key, none)

/-- The part that has a key queued again, at once or by an alarm. -/
def defer (controller : Controller) (key : ObjectKey) (wait : Span) : Controller × Option Span :=
  if wait.nanoseconds = 0 then ({ controller with queue := (controller.queue.add key).1 }, none)
  else (controller, if controller.queue.closed then none else some wait)

variable (controller : Controller) (backoff : Backoff) (key : ObjectKey) (span : Span) (result : Except Failure Outcome)

theorem settle_eq :
    controller.settle backoff key span result =
      match controller.tally backoff key span result with
      | (tallied, none) => (tallied, none)
      | (tallied, some wait) => tallied.defer key wait := by
  unfold settle tally fails
  cases result with
  | ok outcome => rfl
  | error failure =>
    dsimp only
    split
    next => rfl
    next => rfl

theorem alike_tally : controller.Alike (controller.tally backoff key span result).1 := by
  unfold tally
  dsimp only
  split <;> exact ⟨rfl, rfl, rfl, rfl, rfl, rfl⟩

theorem metrics_tally :
    (controller.tally backoff key span result).1.metrics = (controller.count span result).metrics := by
  unfold tally
  dsimp only
  split <;> rfl

theorem wait_tally :
    (controller.tally backoff key span result).2 =
      if fails result then some (backoff.delay (controller.queue.requeues key)) else none := by
  unfold tally
  dsimp only
  split <;> rfl

theorem requeues_tally (other : ObjectKey) :
    (controller.tally backoff key span result).1.queue.requeues other =
      if other = key then
        if fails result then min (controller.queue.requeues key + 1) WorkQueue.mostFailures else 0
      else controller.queue.requeues other := by
  unfold tally
  dsimp only
  split
  next => exact WorkQueue.requeues_fail controller.queue backoff key other
  next => exact WorkQueue.requeues_forget controller.queue key other

theorem deferred (wait : Span) :
    controller.defer key wait = ({ controller with queue := (controller.queue.add key).1 }, none) ∨
      controller.defer key wait = (controller, if controller.queue.closed then none else some wait) := by
  unfold defer
  split
  · exact .inl rfl
  · exact .inr rfl

theorem joined_defer (wait : Span) : controller.queue.Joined key (controller.defer key wait).1.queue := by
  rcases controller.deferred key wait with same | same
  · exact .inr (congrArg (fun deferred => deferred.1.queue) same)
  · exact .inl (congrArg (fun deferred => deferred.1.queue) same)

theorem joined_handle (event : Event) : controller.queue.Joined controller.target (controller.handle event).1.queue := by
  cases event with
  | membership => exact .inr rfl
  | balancer change =>
    rw [handle_balancer]
    split
    · exact .inr rfl
    · exact .inl rfl

end Controller

/-- A pass that has ended, and the wait that is due before the next attempt. -/
structure Ended where
  key : ObjectKey
  result : Except Failure Outcome
  wait : Option Span
  deriving DecidableEq

/-! ### The workers and what they do -/

/-- How far a worker is with a key: the pass is under way, its failure is counted, or only the key is to be given back. -/
inductive Duty where
  | idle
  | passing (key : ObjectKey)
  | retrying (key : ObjectKey) (wait : Span)
  | leaving (key : ObjectKey)
  deriving DecidableEq

def Duty.key? : Duty → Option ObjectKey
  | idle => none
  | passing key | retrying key _ | leaving key => some key

/-- A worker that still has to look after the retry of its key, or may have to. -/
def Duty.minds? : Duty → Option ObjectKey
  | passing key | retrying key _ => some key
  | idle | leaving _ => none

def Duty.ended (key : ObjectKey) : Option Span → Duty
  | none => leaving key
  | some wait => retrying key wait

/-- The alarms are the keys that are to be queued again, each with the wait that it was set for. -/
structure Shift (ω : Type) where
  controller : Controller
  alarms : List (ObjectKey × Span)
  duties : ω → Duty
  log : List Ended

namespace Shift

/-- What can happen on a shift. A pass ends in one step, and its key is queued again and given back in two others. -/
inductive Act (ω : Type) where
  | hear (event : Event)
  | add (key : ObjectKey)
  | take (worker : ω)
  | conclude (worker : ω) (span : Span) (result : Except Failure Outcome)
  | schedule (worker : ω)
  | release (worker : ω)
  | ring (key : ObjectKey) (wait : Span)
  | close

variable {ω : Type}

def start (target : ObjectKey) : Shift ω :=
  ⟨.start target, [], fun _ => .idle, []⟩

def withQueue (shift : Shift ω) (queue : WorkQueue ObjectKey) : Shift ω :=
  { shift with controller := { shift.controller with queue := queue } }

/-- The queue of the controller among its workers. -/
def shared (shift : Shift ω) : SharedQueue ObjectKey ω :=
  ⟨shift.controller.queue, shift.alarms.map Prod.fst, fun worker => (shift.duties worker).key?.toList⟩

variable [DecidableEq ω]

def assign (shift : Shift ω) (worker : ω) (duty : Duty) : Shift ω :=
  { shift with duties := Function.update shift.duties worker duty }

def take (shift : Shift ω) (worker : ω) : Shift ω :=
  match shift.duties worker, shift.controller.queue.take? with
  | .idle, some (key, queue) =>
    { shift with controller := { shift.controller with queue := queue }.withDepth }.assign worker (.passing key)
  | _, _ => shift

def conclude (backoff : Backoff) (shift : Shift ω) (worker : ω) (span : Span) (result : Except Failure Outcome) :
    Shift ω :=
  match shift.duties worker with
  | .passing key =>
    let (controller, wait) := shift.controller.tally backoff key span result
    { shift with controller := controller, log := ⟨key, result, wait⟩ :: shift.log }.assign worker (.ended key wait)
  | _ => shift

def schedule (shift : Shift ω) (worker : ω) : Shift ω :=
  match shift.duties worker with
  | .retrying key wait =>
    let (controller, alarm) := shift.controller.defer key wait
    { shift with controller := controller, alarms := alarm.toList.map (fun wait => (key, wait)) ++ shift.alarms }.assign
      worker (.leaving key)
  | _ => shift

def release (shift : Shift ω) (worker : ω) : Shift ω :=
  match shift.duties worker with
  | .leaving key => { shift with controller := (shift.controller.release key none).controller }.assign worker .idle
  | _ => shift

/-- What comes of an act. Nothing comes of one whose time has not come. -/
def perform (backoff : Backoff) (shift : Shift ω) : Act ω → Shift ω
  | .hear event => { shift with controller := (shift.controller.handle event).1 }
  | .add key => shift.withQueue (shift.controller.queue.add key).1
  | .take worker => shift.take worker
  | .conclude worker span result => shift.conclude backoff worker span result
  | .schedule worker => shift.schedule worker
  | .release worker => shift.release worker
  | .ring key wait =>
    if (key, wait) ∈ shift.alarms then
      { shift.withQueue (shift.controller.queue.add key).1 with alarms := shift.alarms.erase (key, wait) }
    else shift
  | .close => shift.withQueue shift.controller.queue.close

def after (backoff : Backoff) (shift : Shift ω) (acts : List (Act ω)) : Shift ω :=
  acts.foldl (perform backoff) shift

def reached (backoff : Backoff) (target : ObjectKey) (acts : List (Act ω)) : Shift ω :=
  (start target).after backoff acts

/-- The end of a pass that nothing comes between is settled as a controller settles it. -/
theorem after_settle (backoff : Backoff) {shift : Shift ω} {worker : ω} {key : ObjectKey}
    (now : shift.duties worker = .passing key) (span : Span) (result : Except Failure Outcome) :
    shift.after backoff [.conclude worker span result, .schedule worker] =
      { shift with
        controller := (shift.controller.settle backoff key span result).1
        alarms := (shift.controller.settle backoff key span result).2.toList.map (fun wait => (key, wait)) ++
          shift.alarms
        log := ⟨key, result, (shift.controller.tally backoff key span result).2⟩ :: shift.log }.assign worker
        (.leaving key) := by
  rw [Controller.settle_eq]
  simp only [after, List.foldl_cons, List.foldl_nil, perform, conclude, now]
  cases tallied : shift.controller.tally backoff key span result with
  | mk controller wait => cases wait <;> simp [schedule, assign, Duty.ended]

/-- A pass that nothing comes between is finished as a controller finishes it. -/
theorem after_finish (backoff : Backoff) {shift : Shift ω} {worker : ω} {key : ObjectKey}
    (now : shift.duties worker = .passing key) (span : Span) (result : Except Failure Outcome) :
    (shift.after backoff [.conclude worker span result, .schedule worker, .release worker]).controller =
        (shift.controller.finish backoff key span result).controller ∧
      (shift.after backoff [.conclude worker span result, .schedule worker, .release worker]).alarms =
        (shift.controller.finish backoff key span result).retry.toList.map (fun wait => (key, wait)) ++ shift.alarms := by
  have released : shift.after backoff [.conclude worker span result, .schedule worker, .release worker] =
      (shift.after backoff [.conclude worker span result, .schedule worker]).release worker := rfl
  rw [released, after_settle backoff now, Controller.finish_eq]
  simp [release, assign, Controller.release]

/-- All that an act can come to, and when it does. -/
inductive Performed (backoff : Backoff) (shift : Shift ω) : Act ω → Shift ω → Prop where
  | nothing (act : Act ω) : Performed backoff shift act shift
  | heard (event : Event) :
      Performed backoff shift (.hear event) { shift with controller := (shift.controller.handle event).1 }
  | added (key : ObjectKey) :
      Performed backoff shift (.add key) (shift.withQueue (shift.controller.queue.add key).1)
  | took (worker : ω) (key : ObjectKey) (queue : WorkQueue ObjectKey) (idle : shift.duties worker = .idle)
      (found : shift.controller.queue.take? = some (key, queue)) :
      Performed backoff shift (.take worker)
        ({ shift with controller := { shift.controller with queue := queue }.withDepth }.assign worker (.passing key))
  | concluded (worker : ω) (key : ObjectKey) (span : Span) (result : Except Failure Outcome)
      (now : shift.duties worker = .passing key) :
      Performed backoff shift (.conclude worker span result)
        ({ shift with
          controller := (shift.controller.tally backoff key span result).1
          log := ⟨key, result, (shift.controller.tally backoff key span result).2⟩ :: shift.log }.assign worker
          (.ended key (shift.controller.tally backoff key span result).2))
  | scheduled (worker : ω) (key : ObjectKey) (wait : Span) (now : shift.duties worker = .retrying key wait) :
      Performed backoff shift (.schedule worker)
        ({ shift with
          controller := (shift.controller.defer key wait).1
          alarms := (shift.controller.defer key wait).2.toList.map (fun wait => (key, wait)) ++ shift.alarms }.assign
          worker (.leaving key))
  | released (worker : ω) (key : ObjectKey) (now : shift.duties worker = .leaving key) :
      Performed backoff shift (.release worker)
        ({ shift with controller := (shift.controller.release key none).controller }.assign worker .idle)
  | rang (key : ObjectKey) (wait : Span) (set : (key, wait) ∈ shift.alarms) :
      Performed backoff shift (.ring key wait)
        { shift.withQueue (shift.controller.queue.add key).1 with alarms := shift.alarms.erase (key, wait) }
  | closed : Performed backoff shift .close (shift.withQueue shift.controller.queue.close)

theorem performed (backoff : Backoff) (shift : Shift ω) (act : Act ω) :
    Performed backoff shift act (shift.perform backoff act) := by
  cases act with
  | hear event => exact .heard event
  | add key => exact .added key
  | take worker =>
    simp only [perform, take]
    split
    next key queue idle found => exact .took worker key queue idle found
    next => exact .nothing _
  | conclude worker span result =>
    simp only [perform, conclude]
    split
    next key now => exact .concluded worker key span result now
    next => exact .nothing _
  | schedule worker =>
    simp only [perform, schedule]
    split
    next key wait now => exact .scheduled worker key wait now
    next => exact .nothing _
  | release worker =>
    simp only [perform, release]
    split
    next key now => exact .released worker key now
    next => exact .nothing _
  | ring key wait =>
    simp only [perform]
    split
    next set => exact .rang key wait set
    next => exact .nothing _
  | close => exact .closed

/-! ### The keys in hands -/

theorem hands_assign {shift : Shift ω} {worker : ω} {duty : Duty} :
    (shift.assign worker duty).shared.hands = Function.update shift.shared.hands worker duty.key?.toList := by
  funext someone
  by_cases this : someone = worker
  · simp [shared, assign, this]
  · simp [shared, assign, this]

/-- As long as a worker keeps its key, it makes no difference how far it is. -/
theorem hands_assign_same {shift : Shift ω} {worker : ω} {duty : Duty} (same : duty.key? = (shift.duties worker).key?) :
    (shift.assign worker duty).shared.hands = shift.shared.hands := by
  rw [hands_assign, same]
  exact Function.update_eq_self worker _

omit [DecidableEq ω] in
theorem sound_of_joined {shift next : Shift ω} (sound : shift.shared.Sound) (hands : next.shared.hands = shift.shared.hands)
    {key : ObjectKey} (joined : shift.controller.queue.Joined key next.controller.queue) : next.shared.Sound :=
  sound.of_same (joined.coherent sound.coherent) joined.held hands

theorem sound_perform {shift : Shift ω} (sound : shift.shared.Sound) (backoff : Backoff) (act : Act ω) :
    (shift.perform backoff act).shared.Sound := by
  have comes := performed backoff shift act
  generalize shift.perform backoff act = next at comes
  cases comes with
  | nothing => exact sound
  | heard event => exact sound_of_joined sound rfl (shift.controller.joined_handle event)
  | added key | rang key wait set => exact sound_of_joined sound rfl (WorkQueue.joined_add shift.controller.queue key)
  | took worker key queue idle found =>
    have found : shift.shared.queue.take? = some (key, queue) := found
    have empty : shift.shared.hands worker = [] := by simp [shared, idle, Duty.key?]
    have taken := sound.take worker
    simp only [SharedQueue.take, found, empty] at taken
    exact taken.of_same taken.coherent rfl hands_assign
  | concluded worker key span result now =>
    -- However the pass has ended, its worker has not given back the key yet.
    have alike := shift.controller.alike_tally backoff key span result
    refine sound.of_same (sound.coherent.of_same alike.waiting alike.dirty alike.held) alike.held (hands_assign_same ?_)
    cases (shift.controller.tally backoff key span result).2 <;> simp [now, Duty.ended, Duty.key?]
  | scheduled worker key wait now =>
    have same : (Duty.leaving key).key? = (shift.duties worker).key? := by simp [now, Duty.key?]
    exact sound_of_joined sound (hands_assign_same same) (shift.controller.joined_defer key wait)
  | released worker key now =>
    have only : shift.shared.hands worker = [key] := by simp [shared, now, Duty.key?]
    have given := sound.giveBack worker key
    simp only [SharedQueue.giveBack, only, List.mem_singleton, if_true, List.erase_cons_head] at given
    exact given.of_same given.coherent rfl hands_assign
  | closed => exact sound.of_same (sound.coherent.of_same rfl rfl rfl) rfl rfl

theorem sound_after {shift : Shift ω} (sound : shift.shared.Sound) (backoff : Backoff) (acts : List (Act ω)) :
    (shift.after backoff acts).shared.Sound := by
  induction acts generalizing shift with
  | nil => exact sound
  | cons act rest ih => exact ih (sound_perform sound backoff act)

omit [DecidableEq ω] in
theorem alone {shift : Shift ω} (sound : shift.shared.Sound) {worker someone : ω} {key : ObjectKey}
    (has : (shift.duties worker).key? = some key) (other : someone ≠ worker) :
    (shift.duties someone).key? ≠ some key := by
  intro too
  exact other (sound.alone key someone worker (by simp [shared, too]) (by simp [shared, has]))

end Shift

end Sync

end VipKeeper
