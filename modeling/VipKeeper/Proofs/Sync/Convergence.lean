import VipKeeper.Proofs.Sync.Steady

/-! When nothing is left to be done, the record is that of the declared object in the cluster that there is.

Until then either something is outstanding that makes another pass begin, or the pass that is under way was begun
after all changes and ends with such a record, unless it fails and is tried again. -/

namespace VipKeeper.Sync.Control

variable {ω : Type}

/-- A notification, a call, work in the queue or an alarm from which another pass is to come. -/
def Outstanding (target : ObjectKey) (control : Control ω) : Prop :=
  (∃ notice, notice ∈ control.notices ∧ notice.Concerns target) ∨ control.stirs ≠ 0 ∨ control.calls ≠ 0 ∨
    control.controller.queue.dirty ≠ [] ∨ control.alarms ≠ []

/-- What the pass of a worker leaves at its end, if neither the object nor the membership changes. -/
def Promises (site : Site) (target : ObjectKey) (facts : Facts) (record : Record) : Turn → Prop
  | .idle | .took _ => True
  | .passing _ course => course.Leads target facts (Settles site target facts)
  | .ended _ result => Settles site target facts (record, result)
  | .settled _ => Reflects site target facts record

/-- A pass that is under way ends with a record that reflects the facts, and if there is none, it already does. -/
structure Current (site : Site) (target : ObjectKey) (control : Control ω) : Prop where
  promises : ∀ worker, Promises site target (control.facts target) control.record (control.turns worker)
  rests : (∀ worker, control.turns worker = .idle) → Reflects site target (control.facts target) control.record

def Served (site : Site) (target : ObjectKey) (control : Control ω) : Prop :=
  control.controller.queue.closed = false → control.Outstanding target ∨ control.Current site target

theorem Outstanding.imp {target : ObjectKey} {control next : Control ω} (outstanding : control.Outstanding target)
    (notices : ∀ notice, notice ∈ control.notices → notice.Concerns target → notice ∈ next.notices)
    (stirs : next.stirs = control.stirs) (calls : next.calls = control.calls)
    (dirty : ∀ key, key ∈ control.controller.queue.dirty → key ∈ next.controller.queue.dirty)
    (alarms : ∀ key, key ∈ control.alarms → key ∈ next.alarms) : next.Outstanding target := by
  rcases outstanding with ⟨notice, pending, concerns⟩ | stirred | called | work | set
  · exact .inl ⟨notice, notices notice pending concerns, concerns⟩
  · exact .inr (.inl (stirs ▸ stirred))
  · exact .inr (.inr (.inl (calls ▸ called)))
  · obtain ⟨key, inside⟩ := List.exists_mem_of_ne_nil _ work
    exact .inr (.inr (.inr (.inl (List.ne_nil_of_mem (dirty key inside)))))
  · obtain ⟨key, inside⟩ := List.exists_mem_of_ne_nil _ set
    exact .inr (.inr (.inr (.inr (List.ne_nil_of_mem (alarms key inside)))))

theorem Outstanding.of_dirty {target key : ObjectKey} {control : Control ω}
    (inside : key ∈ control.controller.queue.dirty) : control.Outstanding target :=
  .inr (.inr (.inr (.inl (List.ne_nil_of_mem inside))))

theorem Outstanding.of_alarm {target key : ObjectKey} {control : Control ω} (inside : key ∈ control.alarms) :
    control.Outstanding target :=
  .inr (.inr (.inr (.inr (List.ne_nil_of_mem inside))))

theorem Current.of_same {site : Site} {target : ObjectKey} {control next : Control ω}
    (current : control.Current site target) (facts : next.facts target = control.facts target)
    (record : next.record = control.record) (turns : next.turns = control.turns) : next.Current site target := by
  constructor
  · rw [facts, record, turns]
    exact current.promises
  · rw [facts, record, turns]
    exact current.rests

/-- Notices may be dropped that do not concern the target, and any may be added. -/
theorem Served.of_notices {site : Site} {target : ObjectKey} {control : Control ω} (served : control.Served site target)
    (store : ObjectKey → Option LoadBalancer) (notices : List Change) (same : store target = control.store target)
    (kept : ∀ notice, notice ∈ control.notices → notice.Concerns target → notice ∈ notices) :
    { control with store := store, notices := notices }.Served site target := by
  intro still
  rcases served still with outstanding | current
  · exact .inl (outstanding.imp kept rfl rfl (fun _ => id) (fun _ => id))
  · have facts : (⟨store target, control.membership⟩ : Facts) = control.facts target := by rw [same, Control.facts]
    exact .inr (current.of_same facts rfl rfl)

theorem Served.start (site : Site) (target : ObjectKey) (membership : Membership) :
    (Control.start target membership : Control ω).Served site target := by
  intro _
  refine .inr ⟨fun worker => trivial, fun _ => ⟨fun _ => rfl, ?_⟩⟩
  intro balancer draft found
  cases found

theorem foldl_triggerThen {target : ObjectKey} {notices : List Change}
    (quiet : ∀ notice, notice ∈ notices → ¬ notice.Concerns target) (trigger : Option String) :
    notices.foldl (triggerThen target) trigger = trigger := by
  induction notices with
  | nil => rfl
  | cons notice rest ih =>
    have apart := quiet notice List.mem_cons_self
    rw [List.foldl_cons, triggerThen, if_neg apart]
    exact ih (fun other inside => quiet other (List.mem_cons_of_mem notice inside))

/-- The trigger of a pass that begins now is that of the object that there is, unless notices are pending. -/
theorem Announced.agrees {target : ObjectKey} {control : Control ω} (announced : control.Announced target)
    (quiet : ∀ notice, notice ∈ control.notices → ¬ notice.Concerns target) (balancer : LoadBalancer)
    (present : control.store target = some balancer) : Agrees control.controller.trigger balancer := by
  have told := announced balancer present
  rw [foldl_triggerThen quiet] at told
  simp [Agrees, told]

/-! ### Nothing left to be done -/

/-- All notifications are handled, the queue is open and empty, no key is held and no alarm is set. -/
structure Quiet (control : Control ω) : Prop where
  opened : control.controller.queue.closed = false
  notices : control.notices = []
  stirs : control.stirs = 0
  calls : control.calls = 0
  waiting : control.controller.queue.waiting = []
  held : control.controller.queue.held = []
  alarms : control.alarms = []

theorem Quiet.idle {control : Control ω} (quiet : control.Quiet) (sound : control.shared.Sound) (worker : ω) :
    control.turns worker = .idle := by
  cases busy : (control.turns worker).key? with
  | none => exact (Turn.key?_eq_none_iff _).1 busy
  | some key =>
    have held : key ∈ control.controller.queue.held := (sound.held_iff key).2 ⟨worker, by simp [shared, busy]⟩
    rw [quiet.held] at held
    cases held

theorem Quiet.not_outstanding {target : ObjectKey} {control : Control ω} (quiet : control.Quiet)
    (sound : control.shared.Sound) : ¬ control.Outstanding target := by
  rintro (⟨notice, pending, _⟩ | stirred | called | work | set)
  · rw [quiet.notices] at pending
    cases pending
  · exact stirred quiet.stirs
  · exact called quiet.calls
  · obtain ⟨key, inside⟩ := List.exists_mem_of_ne_nil _ work
    have waits : key ∈ control.controller.queue.waiting :=
      (sound.coherent.waits_iff key).2 ⟨inside, by simp [shared, quiet.held]⟩
    rw [quiet.waiting] at waits
    cases waits
  · exact set quiet.alarms

/-! ### One act -/

variable [DecidableEq ω]

/-- While all others are idle, only the turn of one worker matters. -/
theorem Current.turn {site : Site} {target : ObjectKey} {control : Control ω} {worker : ω} {next : Turn}
    (alone : ∀ someone, someone ≠ worker → control.turns someone = .idle)
    (promise : Promises site target (control.facts target) control.record next)
    (rest : next = .idle → Reflects site target (control.facts target) control.record) :
    (control.turn worker next).Current site target := by
  constructor
  · intro someone
    change Promises site target (control.facts target) control.record
      (Function.update control.turns worker next someone)
    by_cases this : someone = worker
    · simpa [this] using promise
    · simp [this, alone someone this, Promises]
  · intro idle
    have rested : next = .idle := by simpa [Control.turn] using idle worker
    exact rest rested

theorem Served.began {site : Site} {target key : ObjectKey} {control : Control ω} (steady : control.Steady target)
    {worker : ω} (now : control.turns worker = .took key) :
    (control.turn worker
      (.passing key (pass Course.calls site control.record key (control.controller.triggerFor key)))).Served
      site target := by
  intro _
  have busy : (control.turns worker).key? = some key := by simp [now, Turn.key?]
  have this := steady.onTarget.hands worker key busy
  by_cases pending : ∃ notice, notice ∈ control.notices ∧ notice.Concerns target
  -- The trigger may be out of date, and the pass may leave the object alone, but another pass will follow.
  · exact .inl (.inl pending)
  · have agrees := steady.announced.agrees (fun notice inside concerns => pending ⟨notice, inside, concerns⟩)
    refine .inr (.turn (fun someone => steady.alone busy) ?_ (fun none => by cases none))
    subst this
    rw [Controller.triggerFor, if_pos steady.onTarget.aims.symm]
    exact leads_pass agrees control.record

/-- A pass that failed is outstanding again, and any other one has left what it promised. -/
theorem Served.settled {site : Site} {target key : ObjectKey} {control : Control ω}
    (served : control.Served site target) (steady : control.Steady target) {worker : ω}
    {result : Except Failure Outcome} (now : control.turns worker = .ended key result) (backoff : Backoff)
    (span : Span) :
    ({ control with
      controller := (control.controller.settle backoff key span result).1
      alarms := (control.controller.settle backoff key span result).2.toList.map (fun _ => key) ++
        control.alarms }.turn worker (.settled key)).Served site target := by
  intro still
  have busy : (control.turns worker).key? = some key := by simp [now, Turn.key?]
  have settled := control.controller.settled backoff key span result
  have before : control.controller.queue.closed = false := settled.closed.symm.trans still
  rcases served before with outstanding | current
  · exact .inl (outstanding.imp (fun _ pending _ => pending) rfl rfl settled.kept
      (fun other set => List.mem_append_right _ set))
  · have ends := current.promises worker
    rw [now] at ends
    rcases ends with ⟨failure, failed, retryable⟩ | reflects
    -- Without any wait the key is queued again, otherwise its alarm is set.
    · rcases settled.again failure failed retryable before with dirty | later
      · exact .inl (.of_dirty dirty)
      · obtain ⟨wait, retry⟩ := Option.ne_none_iff_exists'.1 later
        have set : key ∈ (control.controller.settle backoff key span result).2.toList.map (fun _ => key) := by
          simp [retry]
        exact .inl (.of_alarm (List.mem_append_left _ set))
    · exact .inr (.turn (fun someone => steady.alone busy) reflects (fun none => by cases none))

theorem Served.released {site : Site} {target key : ObjectKey} {control : Control ω}
    (served : control.Served site target) (steady : control.Steady target) {worker : ω}
    (now : control.turns worker = .settled key) :
    ({ control with controller := (control.controller.release key none).controller }.turn worker .idle).Served
      site target := by
  intro still
  have busy : (control.turns worker).key? = some key := by simp [now, Turn.key?]
  have before : control.controller.queue.closed = false := (WorkQueue.closed_done ..).symm.trans still
  rcases served before with outstanding | current
  · refine .inl (outstanding.imp (fun _ pending _ => pending) rfl rfl ?_ (fun _ => id))
    intro other inside
    exact (WorkQueue.dirty_done control.controller.queue key).symm ▸ inside
  · have reflects := current.promises worker
    rw [now] at reflects
    exact .inr (.turn (fun someone => steady.alone busy) trivial (fun _ => reflects))

theorem Served.perform {site : Site} {target : ObjectKey} {control : Control ω} (served : control.Served site target)
    (steady : control.Steady target) (backoff : Backoff) (act : Act ω) :
    (control.perform site backoff act).Served site target := by
  have comes := performed site backoff control act
  generalize control.perform site backoff act = next at comes
  have aims := steady.onTarget.aims
  have added (key : ObjectKey) (still : (control.controller.queue.add key).1.closed = false) :
      key ∈ (control.controller.queue.add key).1.dirty :=
    (WorkQueue.mem_dirty_add ..).2 (.inr ⟨rfl, (WorkQueue.closed_add ..).symm.trans still⟩)
  cases comes with
  | nothing => exact served
  | declared key object notice announces =>
    by_cases this : target = key
    · have concerns : notice.Concerns target := this ▸ announces.1
      exact fun _ => .inl (.inl ⟨notice, by simp, concerns⟩)
    · exact served.of_notices _ _ (Function.update_of_ne this ..) (fun _ pending _ => List.mem_append_left _ pending)
  | remarked notice apart => exact served.of_notices _ _ rfl (fun _ pending _ => List.mem_append_left _ pending)
  | ignored notice rest pending apart =>
    refine served.of_notices _ _ rfl ?_
    intro other inside concerns
    rcases List.mem_cons.1 (pending ▸ inside) with same | later
    · exact absurd (aims ▸ same ▸ concerns) apart
    · exact later
  | regrouped membership => exact fun _ => .inl (.inr (.inl (Nat.succ_ne_zero _)))
  | heard | stirred => exact fun _ => .inl (.inr (.inr (.inl (Nat.succ_ne_zero _))))
  | enqueued => exact fun still => .inl (.of_dirty (added control.controller.target still))
  | rang key set => exact fun still => .inl (.of_dirty (added key still))
  | took worker key queue idle found =>
    exact fun _ => .inr (.turn (fun someone _ => steady.free found someone) trivial (fun none => by cases none))
  | began worker key now => exact .began steady now
  | proceeded worker key course mishap now =>
    intro still
    have busy : (control.turns worker).key? = some key := by simp [now, Turn.key?]
    refine (served still).imp id ?_
    intro current
    have leads := current.promises worker
    rw [now] at leads
    exact .turn (fun someone => steady.alone busy) (leads.proceed mishap) (fun none => by cases none)
  | concluded worker key record result now =>
    intro still
    have busy : (control.turns worker).key? = some key := by simp [now, Turn.key?]
    refine (served still).imp id ?_
    intro current
    have ends := current.promises worker
    rw [now] at ends
    exact .turn (fun someone => steady.alone busy) ends (fun none => by cases none)
  | settled worker key span result now => exact served.settled steady now backoff span
  | released worker key now => exact served.released steady now
  | closed =>
    intro still
    cases still

/-! ### All runs -/

theorem Served.after {site : Site} {target : ObjectKey} {control : Control ω} (served : control.Served site target)
    (steady : control.Steady target) (backoff : Backoff) (acts : List (Act ω)) :
    (control.after site backoff acts).Served site target := by
  induction acts generalizing control with
  | nil => exact served
  | cons act rest ih => exact ih (served.perform steady backoff act) (steady.perform site backoff act)

/-- Whatever happened before, once nothing is left to be done, the record of the target is what validating,
resolving and compiling give for the object and the membership that there are, and it is empty if there is no
object. -/
theorem record_reflects_declared (site : Site) (backoff : Backoff) (target : ObjectKey) (membership : Membership)
    (acts : List (Act ω)) (quiet : ((start target membership).after site backoff acts).Quiet) :
    Reflects site target (((start target membership).after site backoff acts).facts target)
      ((start target membership).after site backoff acts).record := by
  have steady := (Steady.start target membership).after site backoff acts
  rcases (Served.start site target membership).after (.start target membership) backoff acts quiet.opened with
    outstanding | current
  · exact absurd outstanding (quiet.not_outstanding steady.sound)
  · exact current.rests (quiet.idle steady.sound)

/-- One worker installs a configuration that is not read, and when the alarm goes off another one does it again. -/
def retried : List (Act (Fin 2)) :=
  [.declare ⟨"kube-system", "lb"⟩ (some (.plain 100)) (.added (.plain 100)), .hear, .enqueue,
    .take 0, .begin 0, .proceed 0 none, .proceed 0 none, .proceed 0 none,
    .proceed 0 (some (.fault (.other "no process"))), .conclude 0, .settle 0 .zero, .release 0,
    .ring ⟨"kube-system", "lb"⟩,
    .take 1, .begin 1, .proceed 1 none, .proceed 1 none, .proceed 1 none, .proceed 1 none, .conclude 1,
    .settle 1 .zero, .release 1]

def afterRetry : Control (Fin 2) :=
  (start ⟨"kube-system", "lb"⟩ .empty).after ⟨none, none⟩ .default retried

theorem afterRetry_quiet : afterRetry.Quiet := by
  constructor <;> decide +kernel

theorem record_reflects_declared_afterRetry :
    afterRetry.Quiet ∧ afterRetry.store ⟨"kube-system", "lb"⟩ = some (.plain 100) ∧
      Reflects ⟨none, none⟩ ⟨"kube-system", "lb"⟩ (afterRetry.facts ⟨"kube-system", "lb"⟩) afterRetry.record := by
  refine ⟨afterRetry_quiet, by decide +kernel, ?_⟩
  exact record_reflects_declared ⟨none, none⟩ .default ⟨"kube-system", "lb"⟩ .empty retried afterRetry_quiet

end VipKeeper.Sync.Control
