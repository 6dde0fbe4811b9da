import VipKeeper.Proofs.Sync.Shift

/-! What a controller owes to keys whose passes fail: the failures of a key in a row are counted, it waits the longer the
more there are, and it is not given up while the queue is open. -/

namespace VipKeeper.Sync

/-! ### The passes of a key -/

namespace Ended

/-- The passes of a key in a list of passes, of which the last comes first. -/
def ofKey (log : List Ended) (key : ObjectKey) : List Ended :=
  log.filter (fun ended => decide (ended.key = key))

def last? (log : List Ended) (key : ObjectKey) : Option Ended :=
  (ofKey log key).head?

/-- The failures of a key since a pass for it ended otherwise. -/
def streak (log : List Ended) (key : ObjectKey) : Nat :=
  ((ofKey log key).takeWhile (fun ended => fails ended.result)).length

theorem streak_cons (ended : Ended) (log : List Ended) (key : ObjectKey) :
    streak (ended :: log) key =
      if ended.key = key then if fails ended.result then streak log key + 1 else 0 else streak log key := by
  unfold streak ofKey
  rw [List.filter_cons]
  by_cases same : ended.key = key
  · by_cases failed : fails ended.result = true <;> simp [same, failed]
  · simp [same]

theorem last?_cons (ended : Ended) (log : List Ended) (key : ObjectKey) :
    last? (ended :: log) key = if ended.key = key then some ended else last? log key := by
  unfold last? ofKey
  rw [List.filter_cons]
  by_cases same : ended.key = key <;> simp [same]

/-- A key is in a row of failures if and only if its last pass has failed. -/
theorem streak_pos_iff {log : List Ended} {key : ObjectKey} :
    0 < streak log key ↔ ∃ ended, last? log key = some ended ∧ fails ended.result = true := by
  unfold streak last?
  cases ofKey log key with
  | nil => simp
  | cons ended earlier => by_cases failed : fails ended.result = true <;> simp [failed]

/-- The wait that is due after each pass goes by the failures that came before it in a row. -/
def Accounted (backoff : Backoff) : List Ended → Prop
  | [] => True
  | ended :: earlier =>
    ended.wait = (if fails ended.result then some (backoff.delay (streak earlier ended.key)) else none) ∧
      Accounted backoff earlier

theorem Accounted.of_append {backoff : Backoff} {later earlier : List Ended}
    (accounted : Accounted backoff (later ++ earlier)) : Accounted backoff earlier := by
  induction later with
  | nil => exact accounted
  | cons ended rest ih => exact ih accounted.2

theorem Accounted.wait_le {backoff : Backoff} {log : List Ended} (accounted : Accounted backoff log) {ended : Ended}
    (inside : ended ∈ log) {wait : Span} (due : ended.wait = some wait) : wait ≤ backoff.limit := by
  obtain ⟨later, earlier, rfl⟩ := List.append_of_mem inside
  have paid := accounted.of_append.1
  rw [due] at paid
  by_cases failed : fails ended.result = true
  · rw [if_pos failed] at paid
    rw [Option.some.inj paid]
    exact backoff.delay_le_limit _
  · rw [if_neg failed] at paid
    cases paid

theorem streak_le_append (between : List Ended) (earlier : List Ended) (key : ObjectKey)
    (row : ∀ ended ∈ between, ended.key = key → fails ended.result = true) :
    streak earlier key ≤ streak (between ++ earlier) key := by
  induction between with
  | nil => exact Nat.le_refl _
  | cons ended rest ih =>
    have rest := ih (fun other inside => row other (List.mem_cons_of_mem _ inside))
    rw [List.cons_append, streak_cons]
    split
    next same =>
      rw [if_pos (row ended List.mem_cons_self same)]
      exact Nat.le_succ_of_le rest
    next => exact rest

/-- In a row of failures of a key, the later one is followed by no shorter wait. -/
theorem Accounted.wait_mono {backoff : Backoff} {later between earlier : List Ended} {second first : Ended}
    (accounted : Accounted backoff (later ++ second :: (between ++ first :: earlier))) (same : second.key = first.key)
    (failed : fails second.result = true) (before : fails first.result = true)
    (row : ∀ ended ∈ between, ended.key = first.key → fails ended.result = true) :
    ∃ short long, first.wait = some short ∧ second.wait = some long ∧ short ≤ long := by
  obtain ⟨long, rest⟩ := accounted.of_append
  have short := rest.of_append.1
  rw [if_pos failed, same] at long
  rw [if_pos before] at short
  refine ⟨_, _, short, long, backoff.delay_mono ?_⟩
  -- The row that the later one ends has the earlier one in it, besides all that came before that.
  have more := streak_le_append between (first :: earlier) first.key row
  rw [streak_cons, if_pos rfl, if_pos before] at more
  exact Nat.le_of_succ_le more

theorem mem_of_last? {log : List Ended} {key : ObjectKey} {ended : Ended} (last : last? log key = some ended) :
    ended ∈ log ∧ ended.key = key := by
  have inside := List.mem_filter.1 (List.mem_of_mem_head? last)
  exact ⟨inside.1, of_decide_eq_true inside.2⟩

end Ended

namespace Shift

variable {ω : Type} [DecidableEq ω]

/-! ### The accounts -/

/-- Whether somebody has seen to it, or will, that a key is tried again. -/
def Pending (shift : Shift ω) (key : ObjectKey) : Prop :=
  key ∈ shift.controller.queue.dirty ∨ (∃ wait, (key, wait) ∈ shift.alarms) ∨
    ∃ worker, (shift.duties worker).minds? = some key

/-- A worker that is about to have a key queued again has done the last pass for it, and that has failed. -/
def Owed (shift : Shift ω) : Prop :=
  ∀ worker key wait, shift.duties worker = .retrying key wait → ∃ ended, Ended.last? shift.log key = some ended ∧
    fails ended.result = true ∧ ended.wait = some wait

/-- Everything that is always so of the failures of keys, and of their retries. -/
structure Accounts (backoff : Backoff) (shift : Shift ω) : Prop where
  sound : shift.shared.Sound
  counted : ∀ key, shift.controller.queue.requeues key = min (Ended.streak shift.log key) WorkQueue.mostFailures
  waits : Ended.Accounted backoff shift.log
  owed : shift.Owed
  set : ∀ key wait, (key, wait) ∈ shift.alarms →
    ∃ ended ∈ shift.log, ended.key = key ∧ fails ended.result = true ∧ ended.wait = some wait
  kept : shift.controller.queue.closed = false → ∀ key, 0 < Ended.streak shift.log key → shift.Pending key

omit [DecidableEq ω] in
theorem Accounts.start (backoff : Backoff) (target : ObjectKey) : (start target : Shift ω).Accounts backoff := by
  refine ⟨SharedQueue.Sound.start, ?_, trivial, ?_, ?_, ?_⟩
  · intro key
    simp [Shift.start, Controller.start, WorkQueue.empty, WorkQueue.requeues, Ended.streak, Ended.ofKey]
  · intro worker key wait now
    cases now
  · intro key wait inside
    cases inside
  · intro _ key failed
    simp [Shift.start, Ended.streak, Ended.ofKey] at failed

theorem counted_perform {backoff : Backoff} {shift : Shift ω}
    (counted : ∀ key, shift.controller.queue.requeues key = min (Ended.streak shift.log key) WorkQueue.mostFailures)
    (act : Act ω) (other : ObjectKey) :
    (shift.perform backoff act).controller.queue.requeues other =
      min (Ended.streak (shift.perform backoff act).log other) WorkQueue.mostFailures := by
  have comes := performed backoff shift act
  generalize shift.perform backoff act = next at comes
  cases comes with
  | nothing | closed => exact counted other
  | heard event => exact ((shift.controller.joined_handle event).requeues other).trans (counted other)
  | added key | rang key =>
    have joined := WorkQueue.joined_add shift.controller.queue key
    exact (joined.requeues other).trans (counted other)
  | took worker key queue idle found =>
    exact (WorkQueue.requeues_of_failures (WorkQueue.failures_of_take? found) other).trans (counted other)
  | concluded worker key span result now =>
    refine (shift.controller.requeues_tally backoff key span result other).trans ?_
    rw [assign, Ended.streak_cons, counted, counted]
    dsimp only
    by_cases same : key = other
    · by_cases failed : fails result = true
      · simp only [same, failed, if_true]
        omega
      · simp [same, failed]
    · simp [same, Ne.symm same]
  | scheduled worker key wait now => exact ((shift.controller.joined_defer key wait).requeues other).trans (counted other)
  | released worker key now =>
    exact (WorkQueue.requeues_of_failures (WorkQueue.failures_done shift.controller.queue key) other).trans (counted other)

theorem waits_perform {backoff : Backoff} {shift : Shift ω}
    (counted : ∀ key, shift.controller.queue.requeues key = min (Ended.streak shift.log key) WorkQueue.mostFailures)
    (waits : Ended.Accounted backoff shift.log) (act : Act ω) :
    Ended.Accounted backoff (shift.perform backoff act).log := by
  have comes := performed backoff shift act
  generalize shift.perform backoff act = next at comes
  cases comes with
  | concluded worker key span result now =>
    refine ⟨?_, waits⟩
    rw [Controller.wait_tally, counted, Backoff.delay_min]
  | _ => exact waits

theorem assign_self {shift : Shift ω} {worker : ω} {duty : Duty} : (shift.assign worker duty).duties worker = duty :=
  Function.update_self ..

theorem assign_of_ne {shift : Shift ω} {worker someone : ω} {duty : Duty} (other : someone ≠ worker) :
    (shift.assign worker duty).duties someone = shift.duties someone :=
  Function.update_of_ne other _ _

/-- A worker that gets another duty than to retry leaves the others as they are. -/
theorem Owed.assign {shift : Shift ω} (owed : shift.Owed) {worker : ω} {duty : Duty}
    (done : ∀ key wait, duty ≠ .retrying key wait) : (shift.assign worker duty).Owed := by
  intro someone key wait now
  by_cases same : someone = worker
  · rw [same, assign_self] at now
    exact absurd now (done key wait)
  · rw [assign_of_ne same] at now
    exact owed someone key wait now

theorem owed_perform {backoff : Backoff} {shift : Shift ω} (sound : shift.shared.Sound) (owed : shift.Owed) (act : Act ω) :
    (shift.perform backoff act).Owed := by
  have comes := performed backoff shift act
  generalize shift.perform backoff act = next at comes
  cases comes with
  | nothing | heard | added | rang | closed => exact owed
  | took worker key queue idle found | scheduled worker key wait now | released worker key now =>
    exact Owed.assign owed (by simp)
  | concluded worker key span result now =>
    intro someone other wait due
    dsimp only [assign]
    rw [Ended.last?_cons]
    by_cases same : someone = worker
    · rw [same, assign_self, Controller.wait_tally] at due
      by_cases failed : fails result = true
      · simp only [failed, if_true, Duty.ended, Duty.retrying.injEq] at due
        obtain ⟨rfl, rfl⟩ := due
        refine ⟨_, if_pos rfl, failed, ?_⟩
        rw [Controller.wait_tally, if_pos failed]
      · simp [failed, Duty.ended] at due
    · -- Another worker has another key, so that this pass is not the last one for that.
      rw [assign_of_ne same] at due
      have apart : key ≠ other := by
        rintro rfl
        exact alone sound (by rw [now]; rfl) same (by rw [due]; rfl)
      rw [if_neg apart]
      exact owed someone other wait due

omit [DecidableEq ω] in
theorem Pending.imp {shift next : Shift ω} {key : ObjectKey} (pending : shift.Pending key)
    (dirty : key ∈ shift.controller.queue.dirty → next.Pending key)
    (alarms : ∀ wait, (key, wait) ∈ shift.alarms → next.Pending key)
    (minded : ∀ worker, (shift.duties worker).minds? = some key → next.Pending key) : next.Pending key := by
  rcases pending with work | ⟨wait, set⟩ | ⟨worker, minds⟩
  · exact dirty work
  · exact alarms wait set
  · exact minded worker minds

/-- A worker that does not mind a key may get any duty. -/
theorem Pending.minded {shift next : Shift ω} {key : ObjectKey} {worker : ω} {duty : Duty}
    (duties : next.duties = Function.update shift.duties worker duty)
    (free : (shift.duties worker).minds? = some key → next.Pending key) (someone : ω)
    (minds : (shift.duties someone).minds? = some key) : next.Pending key := by
  by_cases same : someone = worker
  · exact free (same ▸ minds)
  · exact .inr (.inr ⟨someone, by rwa [duties, Function.update_of_ne same]⟩)

omit [DecidableEq ω] in
theorem Pending.join {shift next : Shift ω} {key other : ObjectKey} (pending : shift.Pending other)
    (joined : shift.controller.queue.Joined key next.controller.queue) (alarms : next.alarms = shift.alarms)
    (duties : next.duties = shift.duties) : next.Pending other := by
  refine pending.imp (fun dirty => .inl (joined.mem_dirty dirty)) ?_ ?_
  · intro wait set
    exact .inr (.inl ⟨wait, alarms ▸ set⟩)
  · intro worker minds
    exact .inr (.inr ⟨worker, duties ▸ minds⟩)

theorem kept_perform {backoff : Backoff} {shift : Shift ω}
    (kept : shift.controller.queue.closed = false → ∀ key, 0 < Ended.streak shift.log key → shift.Pending key)
    (act : Act ω) (opened : (shift.perform backoff act).controller.queue.closed = false) (other : ObjectKey)
    (failed : 0 < Ended.streak (shift.perform backoff act).log other) : (shift.perform backoff act).Pending other := by
  have comes := performed backoff shift act
  generalize shift.perform backoff act = next at comes opened failed ⊢
  have asked (key : ObjectKey) (same : other = key) (still : shift.controller.queue.closed = false) :
      other ∈ (shift.controller.queue.add key).1.dirty :=
    (WorkQueue.mem_dirty_add shift.controller.queue key other).2 (.inr ⟨same, still⟩)
  cases comes with
  | nothing => exact kept opened other failed
  | heard event =>
    have joined := shift.controller.joined_handle event
    exact (kept (joined.closed.symm.trans opened) other failed).join joined rfl rfl
  | added key =>
    have joined := WorkQueue.joined_add shift.controller.queue key
    exact (kept (joined.closed.symm.trans opened) other failed).join joined rfl rfl
  | took worker key queue idle found =>
    -- The key that is handed out has no work left, but now a worker minds it.
    have took := WorkQueue.took_of_take? found
    refine (kept (took.closed.symm.trans opened) other failed).imp ?_ (fun wait set => .inr (.inl ⟨wait, set⟩))
      (Pending.minded rfl (by simp [idle, Duty.minds?]))
    intro dirty
    by_cases same : other = key
    · exact .inr (.inr ⟨worker, by rw [assign_self, Duty.minds?, same]⟩)
    · exact .inl ((took.dirty other).2 ⟨dirty, same⟩)
  | concluded worker key span result now =>
    have alike := shift.controller.alike_tally backoff key span result
    dsimp only [assign] at failed
    rw [Ended.streak_cons] at failed
    by_cases same : key = other
    · rw [if_pos same] at failed
      have again : fails result = true := by
        by_contra passed
        simp [passed] at failed
      refine .inr (.inr ⟨worker, ?_⟩)
      rw [assign_self, Controller.wait_tally, if_pos again, Duty.ended, Duty.minds?, same]
    · rw [if_neg same] at failed
      refine (kept (alike.closed.symm.trans opened) other failed).imp ?_ (fun wait set => .inr (.inl ⟨wait, set⟩))
        (Pending.minded rfl (by simp [now, Duty.minds?, same]))
      intro dirty
      exact .inl (alike.dirty.symm ▸ dirty)
  | scheduled worker key wait now =>
    have joined := shift.controller.joined_defer key wait
    have still : shift.controller.queue.closed = false := joined.closed.symm.trans opened
    refine (kept still other failed).imp (fun dirty => .inl (joined.mem_dirty dirty)) ?_ (Pending.minded rfl ?_)
    · intro span set
      exact .inr (.inl ⟨span, List.mem_append_right _ set⟩)
    · -- The worker minds its key no more, which is in line by now or has its alarm.
      intro minds
      rw [now] at minds
      have same : key = other := Option.some.inj minds
      rcases shift.controller.deferred key wait with queued | set
      · refine .inl ?_
        rw [queued]
        exact asked key same.symm still
      · refine .inr (.inl ⟨wait, List.mem_append_left _ ?_⟩)
        rw [set, if_neg (by simp [still])]
        simp [same]
  | released worker key now =>
    have still : shift.controller.queue.closed = false :=
      (WorkQueue.closed_done shift.controller.queue key).symm.trans opened
    refine (kept still other failed).imp ?_ (fun wait set => .inr (.inl ⟨wait, set⟩))
      (Pending.minded rfl (by simp [now, Duty.minds?]))
    intro dirty
    exact .inl ((WorkQueue.dirty_done shift.controller.queue key).symm ▸ dirty)
  | rang key wait set =>
    have joined := WorkQueue.joined_add shift.controller.queue key
    have still := joined.closed.symm.trans opened
    refine (kept still other failed).imp (fun dirty => .inl (joined.mem_dirty dirty)) ?_
      (fun worker minds => .inr (.inr ⟨worker, minds⟩))
    intro span also
    by_cases same : other = key
    · exact .inl (asked key same still)
    · have apart : (other, span) ≠ (key, wait) := fun equal => same (Prod.ext_iff.1 equal).1
      exact .inr (.inl ⟨span, (List.mem_erase_of_ne apart).2 also⟩)
  | closed => cases opened

/-- What an act asks for by itself, and not because a pass has failed just now. -/
def Asks (shift : Shift ω) : Act ω → ObjectKey → Prop
  | .hear _, key => key = shift.controller.target
  | .add other, key | .ring other _, key => key = other
  | _, _ => False

/-- No act sets an alarm for a key whose last pass has not failed, or puts it in line unasked. -/
theorem unasked {backoff : Backoff} {shift : Shift ω} (owed : shift.Owed) {key : ObjectKey}
    (passed : ∀ ended, Ended.last? shift.log key = some ended → fails ended.result = false) (act : Act ω) :
    (∀ wait, (shift.perform backoff act).alarms.count (key, wait) ≤ shift.alarms.count (key, wait)) ∧
      (key ∈ (shift.perform backoff act).controller.queue.dirty →
        key ∈ shift.controller.queue.dirty ∨ shift.Asks act key) := by
  have comes := performed backoff shift act
  generalize shift.perform backoff act = next at comes
  cases comes with
  | nothing | closed => exact ⟨fun _ => Nat.le_refl _, .inl⟩
  | heard event => exact ⟨fun _ => Nat.le_refl _, (shift.controller.joined_handle event).of_mem_dirty⟩
  | added other =>
    have joined := WorkQueue.joined_add shift.controller.queue other
    exact ⟨fun _ => Nat.le_refl _, joined.of_mem_dirty⟩
  | took worker other queue idle found =>
    exact ⟨fun _ => Nat.le_refl _, fun dirty => .inl (((WorkQueue.took_of_take? found).dirty key).1 dirty).1⟩
  | concluded worker other span result now =>
    have alike := shift.controller.alike_tally backoff other span result
    exact ⟨fun _ => Nat.le_refl _, fun dirty => .inl (alike.dirty ▸ dirty)⟩
  | scheduled worker other wait now =>
    -- Whoever schedules has just failed, so that this is about another key.
    obtain ⟨ended, last, failed, -⟩ := owed worker other wait now
    have apart : key ≠ other := by
      rintro rfl
      exact absurd (failed.symm.trans (passed ended last)) (by decide)
    constructor
    · intro span
      have none : ((shift.controller.defer other wait).2.toList.map (fun wait => (other, wait))).count (key, span) = 0 := by
        apply List.count_eq_zero.2
        simp [Ne.symm apart]
      exact Nat.le_of_eq (by rw [assign, List.count_append, none, Nat.zero_add])
    · intro dirty
      exact .inl (((shift.controller.joined_defer other wait).of_mem_dirty dirty).resolve_right apart)
  | released worker other now =>
    exact ⟨fun _ => Nat.le_refl _, fun dirty => .inl (WorkQueue.dirty_done shift.controller.queue other ▸ dirty)⟩
  | rang other wait set =>
    have joined := WorkQueue.joined_add shift.controller.queue other
    exact ⟨fun _ => List.erase_sublist.count_le _, joined.of_mem_dirty⟩

/-- Alarms are set for failures, each for the wait that is due. -/
theorem set_perform {backoff : Backoff} {shift : Shift ω} (owed : shift.Owed)
    (set : ∀ key wait, (key, wait) ∈ shift.alarms →
      ∃ ended ∈ shift.log, ended.key = key ∧ fails ended.result = true ∧ ended.wait = some wait)
    (act : Act ω) (key : ObjectKey) (wait : Span) (inside : (key, wait) ∈ (shift.perform backoff act).alarms) :
    ∃ ended ∈ (shift.perform backoff act).log, ended.key = key ∧ fails ended.result = true ∧ ended.wait = some wait := by
  have comes := performed backoff shift act
  generalize shift.perform backoff act = next at comes inside ⊢
  cases comes with
  | nothing | heard | added | took | released | closed => exact set key wait inside
  | concluded worker other span result now =>
    obtain ⟨ended, known, account⟩ := set key wait inside
    exact ⟨ended, List.mem_cons_of_mem _ known, account⟩
  | scheduled worker other due now =>
    rcases List.mem_append.1 inside with new | old
    · obtain ⟨ended, last, failed, paid⟩ := owed worker other due now
      obtain ⟨known, same⟩ := Ended.mem_of_last? last
      obtain ⟨alarm, given, equal⟩ := List.mem_map.1 new
      obtain ⟨rfl, rfl⟩ := Prod.mk.inj equal
      have whole : alarm = due := by
        rcases shift.controller.deferred other due with queued | queued <;> rw [queued] at given
        · simp at given
        · split at given <;> simp_all
      exact ⟨ended, known, same, failed, whole ▸ paid⟩
    · exact set key wait old
  | rang other span due => exact set key wait (List.mem_of_mem_erase inside)

theorem Accounts.perform {backoff : Backoff} {shift : Shift ω} (accounts : shift.Accounts backoff) (act : Act ω) :
    (shift.perform backoff act).Accounts backoff :=
  ⟨sound_perform accounts.sound backoff act, counted_perform accounts.counted act,
    waits_perform accounts.counted accounts.waits act, owed_perform accounts.sound accounts.owed act,
    set_perform accounts.owed accounts.set act, kept_perform accounts.kept act⟩

theorem Accounts.after {backoff : Backoff} {shift : Shift ω} (accounts : shift.Accounts backoff) (acts : List (Act ω)) :
    (shift.after backoff acts).Accounts backoff := by
  induction acts generalizing shift with
  | nil => exact accounts
  | cons act rest ih => exact ih (accounts.perform act)

theorem Accounts.reached (backoff : Backoff) (target : ObjectKey) (acts : List (Act ω)) :
    (Shift.reached backoff target acts).Accounts backoff :=
  (Accounts.start backoff target).after acts

theorem Accounts.free {backoff : Backoff} {shift : Shift ω} (accounts : shift.Accounts backoff) {worker : ω}
    {key : ObjectKey} (now : shift.duties worker = .leaving key) :
    key ∉ (shift.perform backoff (.release worker)).controller.queue.held ∧
      ∀ someone, ((shift.perform backoff (.release worker)).duties someone).key? ≠ some key := by
  have free : key ∉ (shift.perform backoff (.release worker)).controller.queue.held := by
    simp only [Shift.perform, release, now]
    exact fun held => ((WorkQueue.mem_held_done shift.controller.queue key key).1 held).2 rfl
  refine ⟨free, fun someone holds => free ?_⟩
  exact ((accounts.perform (.release worker)).sound.held_iff key).2 ⟨someone, by simp [shared, holds]⟩

omit [DecidableEq ω] in
theorem Accounts.held {backoff : Backoff} {shift : Shift ω} (accounts : shift.Accounts backoff) {worker : ω}
    {key : ObjectKey} (minds : (shift.duties worker).minds? = some key) : key ∈ shift.controller.queue.held := by
  have holds : (shift.duties worker).key? = some key := by
    cases duty : shift.duties worker <;> simp_all [Duty.minds?, Duty.key?]
  exact (accounts.sound.held_iff key).2 ⟨worker, by simp [shared, holds]⟩

/-- When a worker is through with a key nobody holds it. The failures of each key are counted in a row, up to a number.
In such a row the waits never get shorter, nor does any exceed the limit, and alarms are set for such waits. While the
queue is open, a key whose last pass has failed has work to do, is held or will be queued by an alarm; and one whose last
pass has succeeded, or has found the declaration invalid, gets no alarm, nor is it queued but by request. -/
theorem retries_accounted (backoff : Backoff) (target : ObjectKey) (acts : List (Act ω)) :
    (∀ worker key, (reached backoff target acts).duties worker = .leaving key →
      key ∉ ((reached backoff target acts).perform backoff (.release worker)).controller.queue.held ∧
        ∀ someone, (((reached backoff target acts).perform backoff (.release worker)).duties someone).key? ≠ some key) ∧
    (∀ key, (reached backoff target acts).controller.queue.requeues key =
      min (Ended.streak (reached backoff target acts).log key) WorkQueue.mostFailures) ∧
    (∀ later second between first earlier,
      (reached backoff target acts).log = later ++ second :: (between ++ first :: earlier) → second.key = first.key →
      fails second.result = true → fails first.result = true →
      (∀ ended ∈ between, ended.key = first.key → fails ended.result = true) →
        ∃ short long, first.wait = some short ∧ second.wait = some long ∧ short ≤ long) ∧
    (∀ ended ∈ (reached backoff target acts).log, ∀ wait, ended.wait = some wait → wait ≤ backoff.limit) ∧
    (∀ key wait, (key, wait) ∈ (reached backoff target acts).alarms →
      ∃ ended ∈ (reached backoff target acts).log, ended.key = key ∧ fails ended.result = true ∧ ended.wait = some wait) ∧
    ((reached backoff target acts).controller.queue.closed = false → ∀ key ended,
      Ended.last? (reached backoff target acts).log key = some ended → fails ended.result = true →
        key ∈ (reached backoff target acts).controller.queue.dirty ∨
          key ∈ (reached backoff target acts).controller.queue.held ∨
          ∃ wait, (key, wait) ∈ (reached backoff target acts).alarms) ∧
    ∀ key, (∀ ended, Ended.last? (reached backoff target acts).log key = some ended →
        (∃ outcome, ended.result = .ok outcome) ∨ (∃ problems, ended.result = .error (.invalid problems)) ∨
          ∃ detail, ended.result = .error (.startup detail)) →
      ∀ act,
        (∀ wait, ((reached backoff target acts).perform backoff act).alarms.count (key, wait) ≤
          (reached backoff target acts).alarms.count (key, wait)) ∧
        (key ∈ ((reached backoff target acts).perform backoff act).controller.queue.dirty →
          key ∈ (reached backoff target acts).controller.queue.dirty ∨ (reached backoff target acts).Asks act key) := by
  have accounts := Accounts.reached backoff target acts
  generalize reached backoff target acts = shift at accounts ⊢
  refine ⟨?_, accounts.counted, ?_, ?_, accounts.set, ?_, ?_⟩
  · intro worker key now
    exact accounts.free now
  · intro later second between first earlier log same failed before row
    have waits := accounts.waits
    rw [log] at waits
    exact waits.wait_mono same failed before row
  · intro ended inside wait due
    exact accounts.waits.wait_le inside due
  · intro opened key ended last failed
    rcases accounts.kept opened key (Ended.streak_pos_iff.2 ⟨ended, last, failed⟩) with dirty | set | ⟨worker, minds⟩
    · exact .inl dirty
    · exact .inr (.inr set)
    · exact .inr (.inl (accounts.held minds))
  · intro key passed act
    exact unasked accounts.owed (fun ended last => fails_eq_false_iff.2 (passed ended last)) act

/-- The target fails, is queued again when its alarm goes off, and fails once more. -/
def twice : Shift Unit :=
  reached .default ⟨"ns", "lb"⟩ [.hear .membership, .take (), .conclude () .zero (.error (.panicked "")), .schedule (),
    .release (), .ring ⟨"ns", "lb"⟩ (Span.ofMillis 5), .take (), .conclude () .zero (.error (.store (.ipvs "")))]

theorem retries_accounted_twice :
    twice.log = [⟨⟨"ns", "lb"⟩, .error (.store (.ipvs "")), some (Span.ofMillis 10)⟩,
        ⟨⟨"ns", "lb"⟩, .error (.panicked ""), some (Span.ofMillis 5)⟩] ∧
      ∃ short long, some (Span.ofMillis 5) = some short ∧ some (Span.ofMillis 10) = some long ∧ short ≤ long := by
  have log : twice.log = [] ++ ⟨⟨"ns", "lb"⟩, .error (.store (.ipvs "")), some (Span.ofMillis 10)⟩ ::
      ([] ++ ⟨⟨"ns", "lb"⟩, .error (.panicked ""), some (Span.ofMillis 5)⟩ :: []) := by
    decide +kernel
  exact ⟨log, (retries_accounted .default ⟨"ns", "lb"⟩ _).2.2.1 [] _ [] _ [] log rfl rfl rfl (by simp)⟩

end Shift

end VipKeeper.Sync
