import VipKeeper.Proofs.Sync.Shift

/-! How many keys are shown to wait, and how many do.

Whoever queues a key for an event looks at the length of the queue and then shows what it saw, and so does whoever takes
a key. Others can act after the change, and again after the look. Keys also come to wait by alarms, by retries without a
wait and when their passes end, and then nobody looks. -/

namespace VipKeeper

/-- Whether an event makes a controller queue its target. -/
def Event.Concerns (target : ObjectKey) : Event → Prop
  | .membership => True
  | .balancer change => change.Concerns target

instance (target : ObjectKey) (event : Event) : Decidable (event.Concerns target) :=
  match event with
  | .membership => inferInstanceAs (Decidable True)
  | .balancer change => inferInstanceAs (Decidable (change.Concerns target))

namespace Sync

/-- A look at a queue: how many keys wait, and how many have come to wait so far, for an event or without one, and how
many have been taken. -/
structure Reading where
  length : Nat
  told : Nat
  back : Nat
  taken : Nat
  deriving DecidableEq

namespace Reading

def zero : Reading := ⟨0, 0, 0, 0⟩

/-- The keys that have come to wait. -/
def come (reading : Reading) : Nat :=
  reading.told + reading.back

/-- A look whose length was right, and that is no later than another one. -/
structure Upto (reading now : Reading) : Prop where
  balanced : reading.length + reading.taken = reading.come
  told : reading.told ≤ now.told
  back : reading.back ≤ now.back
  taken : reading.taken ≤ now.taken

theorem Upto.trans {reading now later : Reading} (upto : reading.Upto now) (next : now.Upto later) :
    reading.Upto later :=
  ⟨upto.balanced, Nat.le_trans upto.told next.told, Nat.le_trans upto.back next.back,
    Nat.le_trans upto.taken next.taken⟩

end Reading

/-- What somebody who has changed the queue still owes to those who watch it. -/
inductive Look where
  | none
  | due
  | had (reading : Reading)
  deriving DecidableEq

/-- A shift whose length of the queue is shown. Everybody on it hears of events and does passes, one thing at a time.
The last look at the queue need not be the one that is shown. -/
structure Display (ω : Type) where
  shift : Shift ω
  looks : ω → Look
  told : Nat
  back : Nat
  taken : Nat
  latest : Reading
  shown : Reading

namespace Shift.Act

variable {ω : Type}

/-- After these the length is shown. -/
def isShown : Act ω → Bool
  | .hear _ | .take _ => true
  | _ => false

/-- Who goes on with a pass. -/
def worker? : Act ω → Option ω
  | .conclude worker _ _ | .schedule worker | .release worker => some worker
  | _ => none

end Shift.Act

namespace Display

/-- What can happen. Hearing of an event and taking a key end before the look, and showing it is a step of its own. -/
inductive Act (ω : Type) where
  | hear (party : ω) (event : Event)
  | take (party : ω)
  | look (party : ω)
  | write (party : ω)
  | beside (act : Shift.Act ω)

variable {ω : Type}

def start (target : ObjectKey) : Display ω :=
  ⟨.start target, fun _ => .none, 0, 0, 0, .zero, .zero⟩

/-- The number of keys that wait. -/
def waiting (display : Display ω) : Nat :=
  display.shift.controller.queue.waiting.length

/-- The number of keys that are shown to wait. -/
def depth (display : Display ω) : Nat :=
  display.shift.controller.metrics.depth

/-- What a look at the queue would find. -/
def now (display : Display ω) : Reading :=
  ⟨display.waiting, display.told, display.back, display.taken⟩

def IsFree (display : Display ω) (party : ω) : Prop :=
  display.looks party = .none ∧ display.shift.duties party = .idle

instance (display : Display ω) (party : ω) : Decidable (display.IsFree party) :=
  inferInstanceAs (Decidable (_ ∧ _))

/-- Nobody is handling an event or doing a pass. -/
def AtRest (display : Display ω) : Prop :=
  ∀ party, display.IsFree party

variable [DecidableEq ω]

def withLook (display : Display ω) (party : ω) (look : Look) : Display ω :=
  { display with looks := Function.update display.looks party look }

def hear (display : Display ω) (party : ω) (event : Event) : Display ω :=
  if display.IsFree party ∧ event.Concerns display.shift.controller.target then
    let (controller, notifies) := display.shift.controller.handle event
    { display with
      shift := { display.shift with controller := { controller with metrics := display.shift.controller.metrics } }
      told := display.told + notifies.toNat }.withLook party .due
  else display

def take (display : Display ω) (party : ω) : Display ω :=
  match display.shift.controller.queue.take? with
  | some (key, queue) =>
    if display.IsFree party then
      { display with
        shift := (display.shift.withQueue queue).assign party (.passing key)
        taken := display.taken + 1 }.withLook party .due
    else display
  | none => display

def look (display : Display ω) (party : ω) : Display ω :=
  if display.looks party = .due then { display with latest := display.now }.withLook party (.had display.now)
  else display

def write (display : Display ω) (party : ω) : Display ω :=
  match display.looks party with
  | .had reading =>
    let controller := display.shift.controller
    { display with
      shift := { display.shift with
        controller := { controller with metrics := controller.metrics.withDepth reading.length } }
      shown := reading }.withLook party .none
  | _ => display

/-- Whoever owes a look does not go on with a pass. -/
def beside (backoff : Backoff) (display : Display ω) (act : Shift.Act ω) : Display ω :=
  if act.isShown = false ∧ act.worker?.all (fun party => display.looks party = .none) then
    let next := display.shift.perform backoff act
    { display with
      shift := next
      back := display.back + (next.controller.queue.waiting.length - display.waiting) }
  else display

def perform (backoff : Backoff) (display : Display ω) : Act ω → Display ω
  | .hear party event => display.hear party event
  | .take party => display.take party
  | .look party => display.look party
  | .write party => display.write party
  | .beside act => display.beside backoff act

def after (backoff : Backoff) (display : Display ω) (acts : List (Act ω)) : Display ω :=
  acts.foldl (perform backoff) display

def reached (backoff : Backoff) (target : ObjectKey) (acts : List (Act ω)) : Display ω :=
  (start target).after backoff acts

/-! ### Uninterrupted calls -/

/-- An event that nothing comes between is handled as a controller handles it. -/
theorem after_hear (backoff : Backoff) {display : Display ω} {party : ω} (free : display.IsFree party) (event : Event) :
    (display.after backoff [.hear party event, .look party, .write party]).shift.controller =
      (display.shift.controller.handle event).1 := by
  simp only [after, List.foldl_cons, List.foldl_nil, perform]
  cases event with
  | membership =>
    simp [hear, look, write, withLook, free, Event.Concerns, Controller.handle, Controller.enqueue,
      Controller.withDepth, now, waiting]
  | balancer change =>
    by_cases concerns : change.Concerns display.shift.controller.target
    · simp [hear, look, write, withLook, free, Event.Concerns, concerns, Controller.handle_balancer,
        Controller.enqueue, Controller.note, Controller.withDepth, now, waiting]
    · simp [hear, look, write, Event.Concerns, concerns, Controller.handle_balancer, free.1]

/-- A key is taken as on any shift. -/
theorem after_take (backoff : Backoff) {display : Display ω} {party : ω} (free : display.IsFree party) :
    (display.after backoff [.take party, .look party, .write party]).shift = display.shift.take party := by
  simp only [after, List.foldl_cons, List.foldl_nil, perform]
  cases found : display.shift.controller.queue.take? with
  | none => simp [take, look, write, found, Shift.take, free.1]
  | some taken =>
    simp [take, look, write, withLook, found, free, Shift.take, free.2, Shift.assign, Shift.withQueue,
      Controller.withDepth, now, waiting]

/-! ### The length of the queue -/

omit [DecidableEq ω] in
theorem length_waiting_handle (controller : Controller) (event : Event) :
    (controller.handle event).1.queue.waiting.length =
      controller.queue.waiting.length + (controller.handle event).2.toNat := by
  have added (controller : Controller) : controller.enqueue.1.queue.waiting.length =
      controller.queue.waiting.length + controller.enqueue.2.toNat := by
    have waiting := WorkQueue.waiting_add controller.queue controller.target
    cases notifies : (controller.queue.add controller.target).2 <;>
      simp [Controller.enqueue, Controller.withDepth, waiting, notifies]
  cases event with
  | membership => exact added controller
  | balancer change =>
    rw [Controller.handle_balancer]
    split
    · exact added (controller.note change)
    · rfl

/-- Whatever is done beside, no key stops waiting and nothing else is shown. -/
structure Unshown (controller next : Controller) : Prop where
  grown : controller.queue.waiting.length ≤ next.queue.waiting.length
  depth : next.metrics.depth = controller.metrics.depth

omit [DecidableEq ω] in
theorem unshown_add (controller : Controller) (key : ObjectKey) :
    Unshown controller { controller with queue := (controller.queue.add key).1 } := by
  refine ⟨?_, rfl⟩
  simp [WorkQueue.waiting_add]

omit [DecidableEq ω] in
theorem unshown_tally (controller : Controller) (backoff : Backoff) (key : ObjectKey) (span : Span)
    (result : Except Failure Outcome) : Unshown controller (controller.tally backoff key span result).1 := by
  constructor
  · exact Nat.le_of_eq (congrArg List.length (controller.alike_tally backoff key span result).waiting.symm)
  · rw [Controller.metrics_tally]
    cases result <;> rfl

theorem unshown_perform (backoff : Backoff) (shift : Shift ω) {act : Shift.Act ω} (beside : act.isShown = false) :
    Unshown shift.controller (shift.perform backoff act).controller := by
  have comes := Shift.performed backoff shift act
  generalize shift.perform backoff act = next at comes
  cases comes with
  | nothing => exact ⟨Nat.le_refl _, rfl⟩
  | heard event => cases beside
  | took worker key queue idle found => cases beside
  | added key | rang key wait set => exact unshown_add shift.controller key
  | concluded worker key span result now => exact unshown_tally shift.controller backoff key span result
  | scheduled worker key wait now =>
    rcases shift.controller.deferred key wait with same | same
    · rw [same]
      exact unshown_add shift.controller key
    · rw [same]
      exact ⟨Nat.le_refl _, rfl⟩
  | released worker key now =>
    refine ⟨?_, rfl⟩
    simp [Shift.assign, Controller.release, WorkQueue.waiting_done]
  | closed => exact ⟨Nat.le_refl _, rfl⟩

/-! ### What every act keeps -/

/-- All that an act can come to. -/
inductive Performed (backoff : Backoff) (display : Display ω) : Act ω → Display ω → Prop where
  | nothing (act : Act ω) : Performed backoff display act display
  | heard (party : ω) (event : Event) :
      Performed backoff display (.hear party event)
        ({ display with
          shift := { display.shift with controller :=
            { (display.shift.controller.handle event).1 with metrics := display.shift.controller.metrics } }
          told := display.told + (display.shift.controller.handle event).2.toNat }.withLook party .due)
  | took (party : ω) (key : ObjectKey) (queue : WorkQueue ObjectKey)
      (found : display.shift.controller.queue.take? = some (key, queue)) :
      Performed backoff display (.take party)
        ({ display with
          shift := (display.shift.withQueue queue).assign party (.passing key)
          taken := display.taken + 1 }.withLook party .due)
  | looked (party : ω) (due : display.looks party = .due) :
      Performed backoff display (.look party)
        ({ display with latest := display.now }.withLook party (.had display.now))
  | wrote (party : ω) (reading : Reading) (had : display.looks party = .had reading) :
      Performed backoff display (.write party)
        ({ display with
          shift := { display.shift with controller :=
            { display.shift.controller with metrics := display.shift.controller.metrics.withDepth reading.length } }
          shown := reading }.withLook party .none)
  | beside (act : Shift.Act ω) (unshown : act.isShown = false) :
      Performed backoff display (.beside act)
        { display with
          shift := display.shift.perform backoff act
          back := display.back +
            ((display.shift.perform backoff act).controller.queue.waiting.length - display.waiting) }

theorem performed (backoff : Backoff) (display : Display ω) (act : Act ω) :
    Performed backoff display act (display.perform backoff act) := by
  cases act with
  | hear party event =>
    simp only [perform, hear]
    split
    next => exact .heard party event
    next => exact .nothing _
  | take party =>
    simp only [perform, take]
    split
    next key queue found =>
      split
      next => exact .took party key queue found
      next => exact .nothing _
    next => exact .nothing _
  | look party =>
    simp only [perform, look]
    split
    next due => exact .looked party due
    next => exact .nothing _
  | write party =>
    simp only [perform, write]
    split
    next reading had => exact .wrote party reading had
    next => exact .nothing _
  | beside act =>
    simp only [perform, beside]
    split
    next allowed => exact .beside act allowed.1
    next => exact .nothing _

/-- All looks were right when they were made, and as long as nobody owes one, no key has come for an event or been taken
since the last. -/
structure Kept (display : Display ω) : Prop where
  now : display.now.Upto display.now
  latest : display.latest.Upto display.now
  shown : display.shown.Upto display.now
  had : ∀ party reading, display.looks party = .had reading → reading.Upto display.now
  depth : display.depth = display.shown.length
  seen : (∃ party, display.looks party = .due) ∨
    display.latest.told = display.told ∧ display.latest.taken = display.taken

omit [DecidableEq ω] in
theorem kept_start (target : ObjectKey) : (start target : Display ω).Kept := by
  have zero : Reading.zero.Upto Reading.zero := ⟨rfl, Nat.le_refl _, Nat.le_refl _, Nat.le_refl _⟩
  refine ⟨zero, zero, zero, ?_, rfl, .inr ⟨rfl, rfl⟩⟩
  intro party reading had
  cases had

omit [DecidableEq ω] in
/-- A change of the queue makes no look wrong. -/
theorem Kept.later {display next : Display ω} (kept : display.Kept) (upto : display.now.Upto next.now)
    (balanced : next.now.length + next.now.taken = next.now.come) (latest : next.latest = display.latest)
    (shown : next.shown = display.shown) (depth : next.depth = display.depth)
    (had : ∀ party reading, next.looks party = .had reading → display.looks party = .had reading)
    (seen : (∃ party, next.looks party = .due) ∨ next.latest.told = next.told ∧ next.latest.taken = next.taken) :
    next.Kept where
  now := ⟨balanced, Nat.le_refl _, Nat.le_refl _, Nat.le_refl _⟩
  latest := latest ▸ kept.latest.trans upto
  shown := shown ▸ kept.shown.trans upto
  had party reading found := (kept.had party reading (had party reading found)).trans upto
  depth := by rw [depth, shown, kept.depth]
  seen := seen

theorem had_of_update {looks : ω → Look} {party someone : ω} {look : Look} {reading : Reading}
    (other : ∀ reading, look ≠ .had reading) (had : Function.update looks party look someone = .had reading) :
    looks someone = .had reading := by
  by_cases same : someone = party
  · rw [same, Function.update_self] at had
    exact absurd had (other reading)
  · rwa [Function.update_of_ne same] at had

theorem kept_perform {display : Display ω} (kept : display.Kept) (backoff : Backoff) (act : Act ω) :
    (display.perform backoff act).Kept := by
  have comes := performed backoff display act
  generalize display.perform backoff act = next at comes
  have balanced := kept.now.balanced
  cases comes with
  | nothing => exact kept
  | heard party event =>
    have length := length_waiting_handle display.shift.controller event
    refine kept.later ⟨balanced, Nat.le_add_right _ _, Nat.le_refl _, Nat.le_refl _⟩ ?_ rfl rfl rfl ?_ ?_
    · simp only [now, withLook, waiting, Reading.come, length] at balanced ⊢
      omega
    · intro someone reading had
      exact had_of_update (by simp) had
    · exact .inl ⟨party, Function.update_self ..⟩
  | took party key queue found =>
    have length := congrArg List.length (WorkQueue.took_of_take? found).waiting
    refine kept.later ⟨balanced, Nat.le_refl _, Nat.le_refl _, Nat.le_succ _⟩ ?_ rfl rfl rfl ?_ ?_
    · simp only [now, withLook, waiting, Reading.come, Shift.assign, Shift.withQueue, List.length_cons]
        at balanced length ⊢
      omega
    · intro someone reading had
      exact had_of_update (by simp) had
    · exact .inl ⟨party, Function.update_self ..⟩
  | looked party due =>
    refine ⟨kept.now, kept.now, kept.shown, ?_, kept.depth, .inr ⟨rfl, rfl⟩⟩
    intro someone reading had
    by_cases same : someone = party
    · simp only [withLook, same, Function.update_self, Look.had.injEq] at had
      exact had ▸ kept.now
    · simp only [withLook, Function.update_of_ne same] at had
      exact kept.had someone reading had
  | wrote party reading had =>
    refine ⟨kept.now, kept.latest, kept.had party reading had, ?_, rfl, ?_⟩
    · intro someone other found
      exact kept.had someone other (had_of_update (by simp) found)
    · -- Who shows a look does not owe one.
      refine kept.seen.imp_left ?_
      intro owed
      obtain ⟨someone, due⟩ := owed
      have apart : someone ≠ party := by
        intro same
        rw [same, had] at due
        cases due
      exact ⟨someone, (Function.update_of_ne apart ..).trans due⟩
  | beside act unshown =>
    have unshown := unshown_perform backoff display.shift unshown
    have grown := unshown.grown
    refine kept.later ⟨balanced, Nat.le_refl _, Nat.le_add_right _ _, Nat.le_refl _⟩ ?_ rfl rfl unshown.depth ?_
      kept.seen
    · simp only [now, waiting, Reading.come] at balanced ⊢
      omega
    · intro someone reading had
      exact had

theorem kept_reached (backoff : Backoff) (target : ObjectKey) (acts : List (Act ω)) :
    (reached backoff target acts).Kept := by
  have kept (display : Display ω) (before : display.Kept) : (display.after backoff acts).Kept := by
    induction acts generalizing display with
    | nil => exact before
    | cons act rest ih => exact ih _ (kept_perform before backoff act)
  exact kept _ (kept_start target)

/-! ### What is shown -/

/-- The number that is shown is right exactly if as many keys have come to wait as have been taken since the look that
it is from. If that was the last look and nobody is at work, it falls short by the keys that have come to wait since
then without an event. -/
theorem depth_exact_iff (backoff : Backoff) (target : ObjectKey) (acts : List (Act ω)) :
    let display := reached backoff target acts
    (display.depth = display.waiting ↔
      display.now.come - display.shown.come = display.now.taken - display.shown.taken) ∧
    (display.AtRest → display.shown = display.latest →
      display.waiting = display.depth + (display.now.back - display.latest.back)) := by
  intro display
  have kept : display.Kept := kept_reached backoff target acts
  have depth := kept.depth
  have now : display.waiting + display.now.taken = display.now.come := kept.now.balanced
  constructor
  · have shown := kept.shown.balanced
    have taken := kept.shown.taken
    have come : display.shown.come ≤ display.now.come := Nat.add_le_add kept.shown.told kept.shown.back
    omega
  · intro rest last
    have seen : display.latest.told = display.told ∧ display.latest.taken = display.taken := by
      apply kept.seen.resolve_left
      intro owed
      obtain ⟨party, due⟩ := owed
      rw [(rest party).1] at due
      cases due
    have latest := kept.latest.balanced
    have back := kept.latest.back
    rw [last] at depth
    simp only [Reading.come, Display.now] at now latest back ⊢
    omega

/-- A pass for an event, after which nothing waits and nothing is shown to wait. -/
def quiet : Display Unit :=
  reached .default ⟨"kube-system", "lb"⟩
    [.hear () .membership, .look (), .write (), .take (), .look (), .write (),
      .beside (.conclude () .zero (.ok .installed)), .beside (.release ())]

theorem depth_exact_iff_quiet :
    quiet.AtRest ∧ quiet.shown = quiet.latest ∧
      quiet.waiting = quiet.depth + (quiet.now.back - quiet.latest.back) := by
  have rest : quiet.AtRest := by
    intro party
    cases party
    decide
  have last : quiet.shown = quiet.latest := by decide
  exact ⟨rest, last, (depth_exact_iff .default ⟨"kube-system", "lb"⟩ _).2 rest last⟩

/-- An event that comes during a pass finds no key to wait and shows that. The key waits again as soon as the pass has
ended, and that is not shown. -/
theorem requeued_unshown :
    let display : Display Bool := reached .default ⟨"kube-system", "lb"⟩
      [.hear false .membership, .look false, .write false, .take true, .look true, .write true,
        .hear false .membership, .look false, .write false,
        .beside (.conclude true .zero (.ok .installed)), .beside (.release true)]
    display.AtRest ∧ display.waiting = 1 ∧ display.depth = 0 := by
  unfold AtRest
  decide

end Display

end Sync

end VipKeeper
