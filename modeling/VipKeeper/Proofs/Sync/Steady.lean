import VipKeeper.Proofs.Sync.Simulation

/-! What is always so of a controller among its workers.

All that it queues is its target, only one worker is busy at a time, and the trigger follows the object whose
changes are announced. -/

namespace VipKeeper.Sync.Control

variable {ω : Type}

/-- Only the target is queued, or going to be, or in anybody's hands. -/
structure OnTarget (target : ObjectKey) (control : Control ω) : Prop where
  aims : control.controller.target = target
  dirty : ∀ key, key ∈ control.controller.queue.dirty → key = target
  alarms : ∀ key, key ∈ control.alarms → key = target
  hands : ∀ worker key, (control.turns worker).key? = some key → key = target

/-- The trigger after a notification, whether or not it concerns the target. -/
def triggerThen (target : ObjectKey) (trigger : Option String) (notice : Change) : Option String :=
  if notice.Concerns target then Controller.triggerAfter notice trigger else trigger

/-- When the pending notifications are handled, the trigger is that of the object that there is. -/
def Announced (target : ObjectKey) (control : Control ω) : Prop :=
  ∀ balancer, control.store target = some balancer →
    control.notices.foldl (triggerThen target) control.controller.trigger = some balancer.uid

structure Steady (target : ObjectKey) (control : Control ω) : Prop where
  sound : control.shared.Sound
  onTarget : control.OnTarget target
  announced : control.Announced target

theorem Steady.start (target : ObjectKey) (membership : Membership) :
    (Control.start target membership : Control ω).Steady target := by
  refine ⟨SharedQueue.Sound.start, ⟨rfl, ?_, ?_, ?_⟩, ?_⟩
  · simp [Control.start, Controller.start, WorkQueue.empty]
  · simp [Control.start]
  · simp [Control.start, Turn.key?]
  · simp [Control.start, Announced]

/-- Two workers that are busy would hold the same key. -/
theorem Steady.alone {target : ObjectKey} {control : Control ω} (steady : control.Steady target) {worker someone : ω}
    {key : ObjectKey} (holds : (control.turns worker).key? = some key) (other : someone ≠ worker) :
    control.turns someone = .idle := by
  have hands := steady.onTarget.hands
  cases busy : (control.turns someone).key? with
  | none => exact (Turn.key?_eq_none_iff _).1 busy
  | some another =>
    have same : another = key := (hands someone another busy).trans (hands worker key holds).symm
    have both : another ∈ control.shared.hands worker := by simp [shared, holds, same]
    exact absurd (steady.sound.alone another someone worker (by simp [shared, busy]) both) other

/-- While a key can be taken, nobody is busy. -/
theorem Steady.free {target : ObjectKey} {control : Control ω} (steady : control.Steady target) {key : ObjectKey}
    {queue : WorkQueue ObjectKey} (found : control.controller.queue.take? = some (key, queue)) (worker : ω) :
    control.turns worker = .idle := by
  cases busy : (control.turns worker).key? with
  | none => exact (Turn.key?_eq_none_iff _).1 busy
  | some another =>
    have this := steady.onTarget.dirty key (steady.sound.coherent.free_of_take found).1
    have same : another = key := (steady.onTarget.hands worker another busy).trans this.symm
    exact absurd (by simp [shared, busy, same]) (steady.sound.free found worker)

variable [DecidableEq ω]

/-! ### The target -/

theorem hands_turn {target : ObjectKey} {control : Control ω}
    (hands : ∀ worker key, (control.turns worker).key? = some key → key = target) (worker : ω) (next : Turn)
    (same : ∀ key, next.key? = some key → key = target) :
    ∀ someone key, ((control.turn worker next).turns someone).key? = some key → key = target := by
  intro someone key holds
  by_cases this : someone = worker
  · exact same key (by simpa [turn, this] using holds)
  · exact hands someone key (by simpa [turn, this] using holds)

theorem OnTarget.perform {target : ObjectKey} {control : Control ω} (onTarget : control.OnTarget target)
    (sound : control.shared.Sound) (site : Site) (backoff : Backoff) (act : Act ω) :
    (control.perform site backoff act).OnTarget target := by
  have comes := performed site backoff control act
  generalize control.perform site backoff act = next at comes
  obtain ⟨aims, dirty, alarms, hands⟩ := onTarget
  have added (key other : ObjectKey) (this : key = target)
      (inside : other ∈ (control.controller.queue.add key).1.dirty) : other = target := by
    rcases (WorkQueue.mem_dirty_add ..).1 inside with before | ⟨same, _⟩
    · exact dirty other before
    · exact same.trans this
  have only (key other : ObjectKey) (this : key = target) (same : some key = some other) : other = target :=
    (Option.some.inj same).symm.trans this
  cases comes with
  | nothing | declared | remarked | regrouped | heard | ignored | stirred | closed =>
    exact ⟨aims, dirty, alarms, hands⟩
  | enqueued => exact ⟨aims, fun other => added _ other aims, alarms, hands⟩
  | took worker key queue idle found =>
    have took := WorkQueue.took_of_take? found
    have this := dirty key (sound.coherent.free_of_take found).1
    refine ⟨aims, ?_, alarms, hands_turn hands worker _ (fun other => only key other this)⟩
    intro other inside
    exact dirty other ((took.dirty other).1 inside).1
  | began worker key now | proceeded worker key course mishap now | concluded worker key record result now =>
    have this := hands worker key (by simp [now, Turn.key?])
    exact ⟨aims, dirty, alarms, hands_turn hands worker _ (fun other => only key other this)⟩
  | settled worker key span result now =>
    have settled := control.controller.settled backoff key span result
    have this := hands worker key (by simp [now, Turn.key?])
    refine ⟨settled.target.trans aims, ?_, ?_, hands_turn hands worker _ (fun other => only key other this)⟩
    · intro other inside
      exact (settled.dirty other inside).elim (dirty other) (fun same => same.trans this)
    · intro other inside
      rcases List.mem_append.1 inside with new | old
      · obtain ⟨_, _, same⟩ := List.mem_map.1 new
        exact same.symm.trans this
      · exact alarms other old
  | released worker key now =>
    refine ⟨aims, ?_, alarms, hands_turn hands worker _ (fun other none => by cases none)⟩
    intro other inside
    exact dirty other (WorkQueue.dirty_done control.controller.queue key ▸ inside)
  | rang key set =>
    refine ⟨aims, fun other => added key other (alarms key set), ?_, hands⟩
    intro other inside
    exact alarms other (List.mem_of_mem_erase inside)

/-! ### The trigger -/

theorem triggerAfter_announced {change : Change} {key : ObjectKey} {before after : Option LoadBalancer}
    (announces : change.Announces key before after) {balancer : LoadBalancer} (present : after = some balancer)
    (trigger : Option String) : Controller.triggerAfter change trigger = some balancer.uid := by
  obtain ⟨_, carried⟩ := announces
  cases change with
  | added balancer | updated _ balancer =>
    cases carried.symm.trans present
    rfl
  | deleted balancer => cases carried.2.symm.trans present
  | vanished => exact carried.elim

theorem Announced.perform {target : ObjectKey} {control : Control ω} (announced : control.Announced target)
    (aims : control.controller.target = target) (site : Site) (backoff : Backoff) (act : Act ω) :
    (control.perform site backoff act).Announced target := by
  have comes := performed site backoff control act
  generalize control.perform site backoff act = next at comes
  intro balancer present
  cases comes with
  | nothing | regrouped | stirred | enqueued | took | began | proceeded | concluded | released | rang | closed =>
    exact announced balancer present
  | declared key object notice announces =>
    rw [List.foldl_append]
    -- What is announced of another object says nothing about the target.
    by_cases this : target = key
    · have after : object = some balancer := by simpa [this] using present
      have concerns : notice.Concerns target := this ▸ announces.1
      simp [triggerThen, concerns, triggerAfter_announced announces after]
    · have still : control.store target = some balancer := by simpa [this] using present
      have apart : ¬ notice.Concerns target := fun concerns => this (concerns.1.symm.trans announces.1.1)
      simpa [triggerThen, apart] using announced balancer still
  | remarked notice apart =>
    rw [aims] at apart
    simpa [triggerThen, apart] using announced balancer present
  | heard notice rest pending concerns =>
    rw [aims] at concerns
    simpa [pending, triggerThen, concerns, Controller.note] using announced balancer present
  | ignored notice rest pending apart =>
    rw [aims] at apart
    simpa [pending, triggerThen, apart] using announced balancer present
  | settled worker key span result now =>
    have same := (control.controller.settled backoff key span result).trigger
    simpa [turn, same] using announced balancer present

theorem Steady.perform {target : ObjectKey} {control : Control ω} (steady : control.Steady target) (site : Site)
    (backoff : Backoff) (act : Act ω) : (control.perform site backoff act).Steady target :=
  ⟨sound_perform steady.sound site backoff act, steady.onTarget.perform steady.sound site backoff act,
    steady.announced.perform steady.onTarget.aims site backoff act⟩

theorem Steady.after {target : ObjectKey} {control : Control ω} (steady : control.Steady target) (site : Site)
    (backoff : Backoff) (acts : List (Act ω)) : (control.after site backoff acts).Steady target := by
  induction acts generalizing control with
  | nil => exact steady
  | cons act rest ih => exact ih (steady.perform site backoff act)

end VipKeeper.Sync.Control
