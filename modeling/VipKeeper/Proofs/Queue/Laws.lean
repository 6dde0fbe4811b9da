import VipKeeper.Queue.WorkQueue

/-! What each operation of a work queue does to each of its lists, and the relation between the lists that all of
them keep. -/

namespace VipKeeper.WorkQueue

variable {κ : Type}

/-- A key waits at most once, and it waits exactly if there is work for it and no worker holds it. -/
structure Coherent (queue : WorkQueue κ) : Prop where
  once : queue.waiting.Nodup
  waits_iff : ∀ key, key ∈ queue.waiting ↔ key ∈ queue.dirty ∧ key ∉ queue.held

namespace Coherent

theorem empty : (WorkQueue.empty : WorkQueue κ).Coherent :=
  ⟨List.nodup_nil, by simp [WorkQueue.empty]⟩

/-- Only the three lists matter. -/
theorem of_same {queue next : WorkQueue κ} (coherent : queue.Coherent) (waiting : next.waiting = queue.waiting)
    (dirty : next.dirty = queue.dirty) (held : next.held = queue.held) : next.Coherent :=
  ⟨waiting ▸ coherent.once, by rw [waiting, dirty, held]; exact coherent.waits_iff⟩

end Coherent

variable [DecidableEq κ]

@[simp] theorem mem_without {key other : κ} {keys : List κ} :
    other ∈ without key keys ↔ other ∈ keys ∧ other ≠ key := by
  simp [without]

/-! ### Adding a key -/

theorem add_notifies_iff (queue : WorkQueue κ) (key : κ) :
    (queue.add key).2 = true ↔ queue.closed = false ∧ key ∉ queue.dirty ∧ key ∉ queue.held := by
  unfold add
  split
  next refused => simp only [Bool.or_eq_true, decide_eq_true_eq] at refused; grind
  next accepted => simp only [Bool.or_eq_true, decide_eq_true_eq, not_or] at accepted; split <;> simp_all

theorem waiting_add (queue : WorkQueue κ) (key : κ) :
    (queue.add key).1.waiting = queue.waiting ++ if (queue.add key).2 then [key] else [] := by
  unfold add
  split
  · simp
  · split <;> simp

theorem mem_dirty_add (queue : WorkQueue κ) (key other : κ) :
    other ∈ (queue.add key).1.dirty ↔ other ∈ queue.dirty ∨ (other = key ∧ queue.closed = false) := by
  unfold add
  split
  next refused =>
    simp only [Bool.or_eq_true, decide_eq_true_eq] at refused
    rcases refused with closed | known
    · simp [closed]
    · exact ⟨.inl, fun found => found.elim id (fun same => same.1 ▸ known)⟩
  next accepted =>
    have still : queue.closed = false := by simp_all
    split <;> simp [still, or_comm]

@[simp] theorem held_add (queue : WorkQueue κ) (key : κ) : (queue.add key).1.held = queue.held := by
  unfold add
  split
  · rfl
  · split <;> rfl

@[simp] theorem closed_add (queue : WorkQueue κ) (key : κ) : (queue.add key).1.closed = queue.closed := by
  unfold add
  split
  · rfl
  · split <;> rfl

/-! ### Handing out a key -/

/-- All that handing out a key changes. -/
structure Took (queue : WorkQueue κ) (key : κ) (next : WorkQueue κ) : Prop where
  waiting : queue.waiting = key :: next.waiting
  dirty : ∀ other, other ∈ next.dirty ↔ other ∈ queue.dirty ∧ other ≠ key
  held : ∀ other, other ∈ next.held ↔ other = key ∨ other ∈ queue.held
  closed : next.closed = queue.closed

theorem took_of_take? {queue next : WorkQueue κ} {key : κ} (found : queue.take? = some (key, next)) :
    queue.Took key next := by
  unfold take? at found
  split at found
  next => cases found
  next _ rest waiting =>
    cases found
    refine ⟨waiting, fun other => by simp, fun other => ?_, rfl⟩
    by_cases same : other = key <;> simp [same]

theorem length_dirty_of_take? {queue next : WorkQueue κ} {key : κ} (found : queue.take? = some (key, next))
    (dirty : key ∈ queue.dirty) : next.dirty.length < queue.dirty.length := by
  unfold take? at found
  split at found
  next => cases found
  next =>
    cases found
    exact List.length_filter_lt_length_iff_exists.2 ⟨key, dirty, by simp⟩

theorem waiting_of_take? {queue : WorkQueue κ} (none : queue.take? = none) : queue.waiting = [] := by
  unfold take? at none
  split at none
  next empty => exact empty
  next => cases none

/-! ### Taking a key back -/

theorem done_notifies (queue : WorkQueue κ) (key : κ) : (queue.done key).2 = decide (key ∈ queue.dirty) := by
  unfold done
  simp only []
  split <;> simp_all

theorem waiting_done (queue : WorkQueue κ) (key : κ) :
    (queue.done key).1.waiting = queue.waiting ++ if (queue.done key).2 then [key] else [] := by
  unfold done
  simp only []
  split <;> simp

@[simp] theorem dirty_done (queue : WorkQueue κ) (key : κ) : (queue.done key).1.dirty = queue.dirty := by
  unfold done
  simp only []
  split <;> rfl

theorem mem_held_done (queue : WorkQueue κ) (key other : κ) :
    other ∈ (queue.done key).1.held ↔ other ∈ queue.held ∧ other ≠ key := by
  unfold done
  simp only []
  split <;> simp

@[simp] theorem closed_done (queue : WorkQueue κ) (key : κ) : (queue.done key).1.closed = queue.closed := by
  unfold done
  simp only []
  split <;> rfl

/-! ### The three lists -/

namespace Coherent

variable {queue next : WorkQueue κ} {key : κ}

theorem add (coherent : queue.Coherent) (key : κ) : (queue.add key).1.Coherent := by
  have notifies := add_notifies_iff queue key
  constructor
  · rw [waiting_add]
    split
    next entered =>
      have fresh : key ∉ queue.waiting := fun inside =>
        (notifies.1 entered).2.1 ((coherent.waits_iff key).1 inside).1
      exact List.nodup_append.2 ⟨coherent.once, by simp, by grind⟩
    next => simpa using coherent.once
  · intro other
    rw [waiting_add, mem_dirty_add, held_add, List.mem_append, coherent.waits_iff other]
    by_cases entered : (queue.add key).2 = true
    · have ⟨still, _, free⟩ := notifies.1 entered
      simp only [entered, still, if_true, List.mem_singleton, and_true]
      grind
    · have stays := mt notifies.2 entered
      simp only [entered]
      grind

theorem take (coherent : queue.Coherent) (found : queue.take? = some (key, next)) : next.Coherent := by
  have took := took_of_take? found
  have once := took.waiting ▸ coherent.once
  constructor
  · exact (List.nodup_cons.1 once).2
  · intro other
    have before := coherent.waits_iff other
    rw [took.waiting, List.mem_cons] at before
    rw [took.dirty, took.held]
    have absent := (List.nodup_cons.1 once).1
    grind

theorem done (coherent : queue.Coherent) (holds : key ∈ queue.held) : (queue.done key).1.Coherent := by
  have absent : key ∉ queue.waiting := fun inside => ((coherent.waits_iff key).1 inside).2 holds
  constructor
  · rw [waiting_done]
    split
    · exact List.nodup_append.2 ⟨coherent.once, by simp, by grind⟩
    · simpa using coherent.once
  · intro other
    rw [waiting_done, dirty_done, mem_held_done, done_notifies, List.mem_append, coherent.waits_iff other]
    by_cases same : other = key
    · by_cases dirty : key ∈ queue.dirty <;> simp [same, dirty, holds]
    · by_cases dirty : key ∈ queue.dirty <;> simp [same, dirty]

/-- A key that has been handed out has no work left, and nobody held it. -/
theorem free_of_take (coherent : queue.Coherent) (found : queue.take? = some (key, next)) :
    key ∈ queue.dirty ∧ key ∉ queue.held := by
  have took := took_of_take? found
  exact (coherent.waits_iff key).1 (took.waiting ▸ List.mem_cons_self)

end Coherent

end VipKeeper.WorkQueue
