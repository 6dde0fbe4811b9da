import VipKeeper.Proofs.Queue.SharedQueue

/-! What becomes of the requests for work over everything that happens to a queue.

No request that an open queue accepts is lost, no key is handed out without a request of its own, and keys are
handed out in the order in which they began to wait. -/

namespace VipKeeper.SharedQueue

variable {κ ω : Type} [DecidableEq κ] [DecidableEq ω]

/-- The key for which an act asks for work, directly or because the alarm of an earlier act goes off. -/
def request? (shared : SharedQueue κ ω) : Act κ ω → Option κ
  | .add key => some key
  | .addAfter key span => if span.nanoseconds = 0 then some key else none
  | .ring key => if key ∈ shared.alarms then some key else none
  | _ => none

/-- A request is accepted if the queue is not closed, whether or not there is work for the key already. -/
def Accepts (shared : SharedQueue κ ω) (act : Act κ ω) (key : κ) : Prop :=
  shared.request? act = some key ∧ shared.queue.closed = false

/-- The key that a worker gets by an act. -/
def handedOut? (shared : SharedQueue κ ω) : Act κ ω → Option κ
  | .take _ => shared.queue.take?.map Prod.fst
  | _ => none

/-- What waits after an act behind the places that were taken before it. -/
def entering (shared : SharedQueue κ ω) (act : Act κ ω) : List κ :=
  (shared.perform act).queue.waiting.drop shared.queue.waiting.length

/-- The keys that workers get, first to last. -/
def handedOut (shared : SharedQueue κ ω) : List (Act κ ω) → List κ
  | [] => []
  | act :: rest => (shared.handedOut? act).toList ++ (shared.perform act).handedOut rest

/-- The keys that begin to wait, first to last. -/
def entered (shared : SharedQueue κ ω) : List (Act κ ω) → List κ
  | [] => []
  | act :: rest => shared.entering act ++ (shared.perform act).entered rest

/-! ### One act -/

/-- An act puts keys behind those that wait, or hands out the first of them. -/
theorem waiting_perform (shared : SharedQueue κ ω) (act : Act κ ω) :
    (∃ more, shared.handedOut? act = none ∧ (shared.perform act).queue.waiting = shared.queue.waiting ++ more) ∨
      ∃ key, shared.handedOut? act = some key ∧ shared.queue.waiting = key :: (shared.perform act).queue.waiting := by
  have added (key : κ) : ∃ more, (shared.add key).queue.waiting = shared.queue.waiting ++ more :=
    ⟨_, WorkQueue.waiting_add shared.queue key⟩
  have same : ∃ more, shared.queue.waiting = shared.queue.waiting ++ more := ⟨[], by simp⟩
  cases act with
  | add key =>
    obtain ⟨more, waiting⟩ := added key
    exact .inl ⟨more, rfl, waiting⟩
  | addAfter key span =>
    simp only [perform, addAfter]
    obtain ⟨more, waiting⟩ := added key
    split
    · exact .inl ⟨more, rfl, waiting⟩
    · split <;> exact .inl ⟨[], rfl, by simp⟩
  | fail | forget | close => exact .inl ⟨[], rfl, by simp [perform, WorkQueue.fail, WorkQueue.forget, WorkQueue.close]⟩
  | ring key =>
    simp only [perform]
    obtain ⟨more, waiting⟩ := added key
    split
    · exact .inl ⟨more, rfl, waiting⟩
    · exact .inl ⟨[], rfl, by simp⟩
  | take worker =>
    simp only [perform, take, handedOut?]
    cases found : shared.queue.take? with
    | none => exact .inl ⟨[], rfl, by simp⟩
    | some taken => exact .inr ⟨taken.1, rfl, (WorkQueue.took_of_take? found).waiting⟩
  | done worker key =>
    simp only [perform, giveBack]
    split
    · exact .inl ⟨_, rfl, WorkQueue.waiting_done shared.queue key⟩
    · exact .inl ⟨[], rfl, by simp⟩

/-- What is handed out and what still waits is what waited and what came to wait. -/
theorem handedOut?_append_waiting (shared : SharedQueue κ ω) (act : Act κ ω) :
    (shared.handedOut? act).toList ++ (shared.perform act).queue.waiting =
      shared.queue.waiting ++ shared.entering act := by
  unfold entering
  rcases shared.waiting_perform act with ⟨more, nobody, waiting⟩ | ⟨key, got, waiting⟩
  · simp [nobody, waiting]
  · simp [got, waiting]

/-- There is work for a key after an act if it was there before and was not handed out, or if it was asked for. -/
theorem mem_dirty_perform (shared : SharedQueue κ ω) (act : Act κ ω) (key : κ) :
    key ∈ (shared.perform act).queue.dirty ↔
      (key ∈ shared.queue.dirty ∧ shared.handedOut? act ≠ some key) ∨ shared.Accepts act key := by
  have added (other : κ) : key ∈ (shared.add other).queue.dirty ↔
      key ∈ shared.queue.dirty ∨ (key = other ∧ shared.queue.closed = false) :=
    WorkQueue.mem_dirty_add shared.queue other key
  cases act with
  | add other => simp [perform, added, handedOut?, Accepts, request?, @eq_comm _ other key]
  | addAfter other span =>
    simp only [perform, addAfter, handedOut?, Accepts, request?]
    split
    · simp [added, @eq_comm _ other key]
    · split <;> simp
  | fail | forget | close =>
    simp [perform, WorkQueue.fail, WorkQueue.forget, WorkQueue.close, handedOut?, Accepts, request?]
  | ring other =>
    simp only [perform, handedOut?, Accepts, request?]
    split
    · simp [added, @eq_comm _ other key]
    · simp
  | take worker =>
    simp only [perform, take, handedOut?, Accepts, request?]
    cases found : shared.queue.take? with
    | none => simp
    | some taken => simp [(WorkQueue.took_of_take? found).dirty, @eq_comm _ taken.1 key]
  | done worker other =>
    simp only [perform, giveBack, handedOut?, Accepts, request?]
    split <;> simp

/-- A key that is handed out had work to do, and none is left. -/
theorem Sound.handedOut {shared : SharedQueue κ ω} (sound : shared.Sound) {act : Act κ ω} {key : κ}
    (got : shared.handedOut? act = some key) : key ∈ shared.queue.dirty ∧ key ∉ (shared.perform act).queue.dirty := by
  rcases shared.waiting_perform act with ⟨_, nobody, _⟩ | ⟨other, found, waiting⟩
  · exact absurd (nobody.symm.trans got) (by simp)
  · have same : other = key := Option.some.inj (found.symm.trans got)
    have inside : key ∈ shared.queue.waiting := by simp [waiting, same]
    refine ⟨((sound.coherent.waits_iff key).1 inside).1, ?_⟩
    rw [mem_dirty_perform]
    rintro (⟨_, kept⟩ | ⟨asked, _⟩)
    · exact kept got
    · cases act with
      | take => cases asked
      | _ => cases got

/-! ### Many acts -/

theorem handedOut_append_waiting (shared : SharedQueue κ ω) (acts : List (Act κ ω)) :
    shared.handedOut acts ++ (shared.after acts).queue.waiting = shared.queue.waiting ++ shared.entered acts := by
  induction acts generalizing shared with
  | nil => simp [handedOut, entered]
  | cons act rest ih =>
    calc
      shared.handedOut (act :: rest) ++ (shared.after (act :: rest)).queue.waiting
        = (shared.handedOut? act).toList ++
            ((shared.perform act).handedOut rest ++ ((shared.perform act).after rest).queue.waiting) := by
          simp [handedOut]
      _ = (shared.handedOut? act).toList ++ (shared.perform act).queue.waiting ++
          (shared.perform act).entered rest := by
          rw [ih, List.append_assoc]
      _ = shared.queue.waiting ++ shared.entered (act :: rest) := by
          rw [handedOut?_append_waiting, List.append_assoc, entered]

/-- Work for a key stays until the key is handed out. -/
theorem handedOut_or_dirty (shared : SharedQueue κ ω) (acts : List (Act κ ω)) (key : κ)
    (dirty : key ∈ shared.queue.dirty) :
    (∃ before act rest, acts = before ++ act :: rest ∧ (shared.after before).handedOut? act = some key) ∨
      key ∈ (shared.after acts).queue.dirty := by
  induction acts generalizing shared with
  | nil => exact .inr dirty
  | cons act rest ih =>
    by_cases got : shared.handedOut? act = some key
    · exact .inl ⟨[], act, rest, rfl, got⟩
    · have kept := (shared.mem_dirty_perform act key).2 (.inl ⟨dirty, got⟩)
      rcases ih (shared.perform act) kept with ⟨before, later, after, rfl, served⟩ | still
      · exact .inl ⟨act :: before, later, after, rfl, served⟩
      · exact .inr still

/-- Work for a key comes only by a request. -/
theorem accepted_of_dirty (shared : SharedQueue κ ω) (acts : List (Act κ ω)) (key : κ)
    (clean : key ∉ shared.queue.dirty) (dirty : key ∈ (shared.after acts).queue.dirty) :
    ∃ before act rest, acts = before ++ act :: rest ∧ (shared.after before).Accepts act key := by
  induction acts generalizing shared with
  | nil => exact absurd dirty clean
  | cons act rest ih =>
    by_cases asked : shared.Accepts act key
    · exact ⟨[], act, rest, rfl, asked⟩
    · have still : key ∉ (shared.perform act).queue.dirty := by
        rw [mem_dirty_perform]
        rintro (⟨inside, _⟩ | accepted)
        · exact clean inside
        · exact asked accepted
      obtain ⟨before, later, after, rfl, accepted⟩ := ih (shared.perform act) still dirty
      exact ⟨act :: before, later, after, rfl, accepted⟩

/-- A key with work to do waits, or the worker that holds it puts it in line again by giving it back. -/
theorem Sound.pending {shared : SharedQueue κ ω} (sound : shared.Sound) {key : κ} (dirty : key ∈ shared.queue.dirty) :
    key ∈ shared.queue.waiting ∨ ∃ worker, key ∈ shared.hands worker ∧
      (shared.perform (.done worker key)).queue.waiting = shared.queue.waiting ++ [key] := by
  by_cases held : key ∈ shared.queue.held
  · obtain ⟨worker, holds⟩ := (sound.held_iff key).1 held
    refine .inr ⟨worker, holds, ?_⟩
    simp [SharedQueue.perform, SharedQueue.giveBack, holds, WorkQueue.waiting_done, WorkQueue.done_notifies, dirty]
  · exact .inl ((sound.coherent.waits_iff key).2 ⟨dirty, held⟩)

/-- Every request that is accepted is followed by a hand-out of its key, or there still is work for the key. Between
two hand-outs of a key it is asked for again. Keys are handed out in the order in which they begin to wait. -/
theorem requests_served_in_order (acts : List (Act κ ω)) :
    (∀ before act later key, acts = before ++ act :: later → (reached before).Accepts act key →
      (∃ between take rest, later = between ++ take :: rest ∧
        (reached (before ++ act :: between)).handedOut? take = some key) ∨
      (key ∈ (reached acts).queue.dirty ∧
        (key ∈ (reached acts).queue.waiting ∨ ∃ worker, key ∈ (reached acts).hands worker ∧
          ((reached acts).perform (.done worker key)).queue.waiting = (reached acts).queue.waiting ++ [key]))) ∧
    (∀ before first between second later key, acts = before ++ first :: (between ++ second :: later) →
      (reached before).handedOut? first = some key →
      (reached (before ++ first :: between)).handedOut? second = some key →
      ∃ early act late, between = early ++ act :: late ∧ (reached (before ++ first :: early)).Accepts act key) ∧
    start.entered acts = start.handedOut acts ++ (reached acts).queue.waiting := by
  refine ⟨?_, ?_, ?_⟩
  · rintro before act later key rfl accepted
    have dirty := ((reached before).mem_dirty_perform act key).2 (.inr accepted)
    rcases handedOut_or_dirty _ later key dirty with ⟨between, take, rest, rfl, got⟩ | still
    · exact .inl ⟨between, take, rest, rfl, by simpa [reached, after_append] using got⟩
    · have dirty : key ∈ (reached (before ++ act :: later)).queue.dirty := by
        simpa [reached, after_append] using still
      exact .inr ⟨dirty, (Sound.reached _).pending dirty⟩
  · rintro before first between second later key rfl one two
    have clean := ((Sound.reached before).handedOut one).2
    have dirty := ((Sound.reached (before ++ first :: between)).handedOut two).1
    rw [reached, after_append] at dirty
    obtain ⟨early, act, late, rfl, accepted⟩ := accepted_of_dirty _ between key clean dirty
    exact ⟨early, act, late, rfl, by simpa [reached, after_append] using accepted⟩
  · exact (by simpa [start, WorkQueue.empty, reached] using (handedOut_append_waiting start acts).symm)

theorem requests_served_in_order_twice :
    (reached ([.add 7] : List (Act Nat Nat))).handedOut? (.take 0) = some 7 ∧
      (reached ([.add 7, .take 0, .add 7, .done 0 7] : List (Act Nat Nat))).handedOut? (.take 1) = some 7 ∧
      ∃ early act late, ([.add 7, .done 0 7] : List (Act Nat Nat)) = early ++ act :: late ∧
        (reached ([.add 7] ++ .take 0 :: early)).Accepts act 7 := by
  have one : (reached ([.add 7] : List (Act Nat Nat))).handedOut? (.take 0) = some 7 := by decide
  have two : (reached ([.add 7, .take 0, .add 7, .done 0 7] : List (Act Nat Nat))).handedOut? (.take 1) = some 7 := by
    decide
  exact ⟨one, two, (requests_served_in_order [.add 7, .take 0, .add 7, .done 0 7, .take 1]).2.1
    [.add 7] (.take 0) [.add 7, .done 0 7] (.take 1) [] 7 rfl one two⟩

end VipKeeper.SharedQueue
