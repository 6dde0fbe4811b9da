import VipKeeper.Proofs.Sync.Control
import VipKeeper.Proofs.Sync.Shift

/-! What the workers of a controller do call by call is what they do on some shift.

Of a notification the shift sees no more than that the target is queued, and of a pass no more than its beginning and
its end. So what holds of the queue, its alarms and its workers on every shift holds of them call by call. -/

namespace VipKeeper.Sync

/-- How far a worker is if nothing is known of the calls of its pass. -/
def Turn.duty : Turn → Duty
  | idle => .idle
  | took key | passing key _ | ended key _ => .passing key
  | settled key => .leaving key

theorem Turn.key?_duty (turn : Turn) : turn.duty.key? = turn.key? := by
  cases turn <;> rfl

namespace Controller

/-- A controller that knows of another object. -/
def withTrigger (controller : Controller) (trigger : Option String) : Controller :=
  { controller with trigger := trigger }

variable (controller : Controller) (trigger : Option String) (backoff : Backoff) (key : ObjectKey)

theorem retryLater_withTrigger :
    (controller.withTrigger trigger).retryLater backoff key =
      ((controller.retryLater backoff key).1.withTrigger trigger, (controller.retryLater backoff key).2) := by
  by_cases zero : (controller.queue.fail backoff key).1.nanoseconds = 0
  · simp [retryLater, withTrigger, zero]
  · simp [retryLater, withTrigger, zero]
    rfl

/-- What follows from the end of a pass does not depend on the trigger. -/
theorem settle_withTrigger (span : Span) (result : Except Failure Outcome) :
    (controller.withTrigger trigger).settle backoff key span result =
      ((controller.settle backoff key span result).1.withTrigger trigger,
        (controller.settle backoff key span result).2) := by
  cases result with
  | ok outcome => rfl
  | error failure =>
    have retried := (controller.count span (.error failure)).retryLater_withTrigger trigger backoff key
    by_cases retryable : failure.isRetryable = true
    · simp only [settle, retryable, if_true]
      exact retried
    · simp only [settle, retryable, Bool.false_eq_true, if_false]
      rfl

end Controller

namespace Control

variable {ω : Type}

/-- The queue, the alarms and the workers are the same on a shift. What was notified last may not have reached the
controller of the shift yet. -/
structure Matches (control : Control ω) (shift : Shift ω) : Prop where
  controller : ∃ trigger, shift.controller = control.controller.withTrigger trigger
  alarms : shift.alarms.map Prod.fst = control.alarms
  duties : ∀ worker, shift.duties worker = (control.turns worker).duty

/-- A shift without a past, of which the waits of the alarms are not known. -/
def asShift (control : Control ω) : Shift ω :=
  ⟨control.controller, control.alarms.map (fun key => (key, .zero)), fun worker => (control.turns worker).duty, []⟩

theorem matches_asShift (control : Control ω) : control.Matches control.asShift :=
  ⟨⟨control.controller.trigger, rfl⟩, by simp [asShift, Function.comp_def], fun _ => rfl⟩

theorem Matches.start (target : ObjectKey) (membership : Membership) :
    (Control.start target membership : Control ω).Matches (.start target) :=
  ⟨⟨none, rfl⟩, rfl, fun _ => rfl⟩

theorem Matches.shared {control : Control ω} {shift : Shift ω} (same : control.Matches shift) :
    shift.shared = control.shared := by
  obtain ⟨trigger, controller⟩ := same.controller
  unfold Shift.shared Control.shared
  rw [controller, same.alarms]
  congr 1
  funext worker
  rw [same.duties, Turn.key?_duty]

/-- The alarm for a key that goes off first is one of the alarms for it. -/
theorem exists_alarm {alarms : List (ObjectKey × Span)} {key : ObjectKey} (set : key ∈ alarms.map Prod.fst) :
    ∃ wait, (key, wait) ∈ alarms ∧ (alarms.erase (key, wait)).map Prod.fst = (alarms.map Prod.fst).erase key := by
  induction alarms with
  | nil => cases set
  | cons alarm rest ih =>
    obtain ⟨first, wait⟩ := alarm
    by_cases this : first = key
    · exact ⟨wait, by simp [this], by simp [this]⟩
    · have later : key ∈ rest.map Prod.fst := (List.mem_cons.1 set).resolve_left (Ne.symm this)
      obtain ⟨span, inside, erased⟩ := ih later
      exact ⟨span, List.mem_cons_of_mem _ inside, by simp [this, erased]⟩

variable [DecidableEq ω]

theorem Matches.assign {control : Control ω} {shift : Shift ω} (same : control.Matches shift) (worker : ω) {next : Turn}
    {duty : Duty} (now : duty = next.duty) : (control.turn worker next).Matches (shift.assign worker duty) := by
  refine ⟨same.controller, same.alarms, fun someone => ?_⟩
  by_cases this : someone = worker
  · simp [turn, Shift.assign, this, now]
  · simpa [turn, Shift.assign, this] using same.duties someone

/-- What the shift does not see leaves it as it is. -/
theorem Matches.turn {control : Control ω} {shift : Shift ω} (same : control.Matches shift) {worker : ω} {next : Turn}
    (now : (control.turns worker).duty = next.duty) : (control.turn worker next).Matches shift := by
  refine ⟨same.controller, same.alarms, fun someone => ?_⟩
  by_cases this : someone = worker
  · simpa [Control.turn, this, now] using same.duties worker
  · simpa [Control.turn, this] using same.duties someone

/-- What a controller does in a step, a shift does in some acts. -/
theorem Matches.perform {control : Control ω} {shift : Shift ω} (same : control.Matches shift) (site : Site)
    (backoff : Backoff) (act : Act ω) :
    ∃ acts, (control.perform site backoff act).Matches (shift.after backoff acts) := by
  have comes := performed site backoff control act
  generalize control.perform site backoff act = next at comes
  obtain ⟨trigger, controller⟩ := id same.controller
  cases comes with
  | nothing | declared | remarked | regrouped | heard | ignored | stirred =>
    exact ⟨[], ⟨trigger, controller⟩, same.alarms, same.duties⟩
  | enqueued =>
    have queued : (shift.controller.handle .membership).1 = control.controller.enqueue.1.withTrigger trigger := by
      rw [controller]
      rfl
    exact ⟨[.hear .membership], ⟨trigger, queued⟩, same.alarms, same.duties⟩
  | took worker key queue idle found =>
    have begins : shift.after backoff [.take worker] =
        { shift with controller := { shift.controller with queue := queue }.withDepth }.assign worker
          (.passing key) := by
      have free : shift.duties worker = .idle := by rw [same.duties, idle]; rfl
      have first : shift.controller.queue.take? = some (key, queue) := by rw [controller]; exact found
      simp [Shift.after, Shift.perform, Shift.take, free, first]
    refine ⟨[.take worker], ?_⟩
    rw [begins]
    have taken : Matches { control with controller := { control.controller with queue := queue }.withDepth }
        { shift with controller := { shift.controller with queue := queue }.withDepth } :=
      ⟨⟨trigger, by rw [controller]; rfl⟩, same.alarms, same.duties⟩
    exact taken.assign worker rfl
  | began worker key now | proceeded worker key course mishap now => exact ⟨[], same.turn (by rw [now]; rfl)⟩
  | concluded worker key record result now =>
    have recorded : Matches { control with record := record } shift := ⟨same.controller, same.alarms, same.duties⟩
    exact ⟨[], recorded.turn (by dsimp only; rw [now]; rfl)⟩
  | settled worker key span result now =>
    have passing : shift.duties worker = .passing key := by rw [same.duties, now]; rfl
    have settles := control.controller.settle_withTrigger trigger backoff key span result
    refine ⟨[.conclude worker span result, .schedule worker], ?_⟩
    rw [Shift.after_settle backoff passing, controller, settles]
    have settled : Matches
        { control with
          controller := (control.controller.settle backoff key span result).1
          alarms := (control.controller.settle backoff key span result).2.toList.map (fun _ => key) ++ control.alarms }
        { shift with
          controller := (control.controller.settle backoff key span result).1.withTrigger trigger
          alarms := (control.controller.settle backoff key span result).2.toList.map (fun wait => (key, wait)) ++
            shift.alarms
          log := ⟨key, result, ((control.controller.withTrigger trigger).tally backoff key span result).2⟩ ::
            shift.log } :=
      ⟨⟨trigger, rfl⟩, by simp [same.alarms, Function.comp_def], same.duties⟩
    exact settled.assign worker rfl
  | released worker key now =>
    have leaving : shift.duties worker = .leaving key := by rw [same.duties, now]; rfl
    have gives : shift.after backoff [.release worker] =
        { shift with controller := (shift.controller.release key none).controller }.assign worker .idle := by
      simp [Shift.after, Shift.perform, Shift.release, leaving]
    refine ⟨[.release worker], ?_⟩
    rw [gives, controller]
    have given : Matches { control with controller := (control.controller.release key none).controller }
        { shift with controller := ((control.controller.withTrigger trigger).release key none).controller } :=
      ⟨⟨trigger, rfl⟩, same.alarms, same.duties⟩
    exact given.assign worker rfl
  | rang key set =>
    obtain ⟨wait, inside, erased⟩ := exists_alarm (same.alarms ▸ set)
    have goes : shift.after backoff [.ring key wait] =
        { shift.withQueue (shift.controller.queue.add key).1 with alarms := shift.alarms.erase (key, wait) } := by
      simp [Shift.after, Shift.perform, inside]
    refine ⟨[.ring key wait], ?_⟩
    rw [goes]
    exact ⟨⟨trigger, by rw [Shift.withQueue, controller]; rfl⟩, erased.trans (by rw [same.alarms]), same.duties⟩
  | closed =>
    have shut : (shift.withQueue shift.controller.queue.close).controller =
        (control.withQueue control.controller.queue.close).controller.withTrigger trigger := by
      rw [Shift.withQueue, controller]
      rfl
    exact ⟨[.close], ⟨trigger, shut⟩, same.alarms, same.duties⟩

/-- Over every run of calls there is a shift that shows the same queue, the same alarms and the same workers. -/
theorem Matches.after {control : Control ω} {shift : Shift ω} (same : control.Matches shift) (site : Site)
    (backoff : Backoff) (acts : List (Act ω)) :
    ∃ seen, (control.after site backoff acts).Matches (shift.after backoff seen) := by
  induction acts generalizing control shift with
  | nil => exact ⟨[], same⟩
  | cons act rest ih =>
    obtain ⟨first, stepped⟩ := same.perform site backoff act
    obtain ⟨later, ended⟩ := ih stepped
    refine ⟨first ++ later, ?_⟩
    rw [Shift.after, List.foldl_append]
    exact ended

theorem exists_shift (site : Site) (backoff : Backoff) (target : ObjectKey) (membership : Membership)
    (acts : List (Act ω)) :
    ∃ seen, ((start target membership).after site backoff acts).Matches (Shift.reached backoff target seen) :=
  (Matches.start target membership).after site backoff acts

/-- What is sound on every shift stays sound call by call. -/
theorem sound_perform {control : Control ω} (sound : control.shared.Sound) (site : Site) (backoff : Backoff)
    (act : Act ω) : (control.perform site backoff act).shared.Sound := by
  have same := control.matches_asShift
  obtain ⟨acts, stepped⟩ := same.perform site backoff act
  rw [← stepped.shared]
  exact Shift.sound_after (same.shared ▸ sound) backoff acts

end Control

end VipKeeper.Sync
