import VipKeeper.Proofs.Queue.History

/-! What becomes of the work of a queue that is closed, and what can be said of it even if keys are given back that
nobody holds. -/

namespace VipKeeper

namespace WorkQueue

variable {κ : Type} [DecidableEq κ] {queue next : WorkQueue κ} {key : κ}

/-- Whatever there is work for waits or is held. -/
def Placed (queue : WorkQueue κ) : Prop :=
  ∀ key ∈ queue.dirty, key ∈ queue.waiting ∨ key ∈ queue.held

namespace Placed

theorem add (placed : queue.Placed) (key : κ) : (queue.add key).1.Placed := by
  intro other dirty
  rw [waiting_add, held_add, List.mem_append]
  by_cases known : other ∈ queue.dirty
  · exact (placed other known).imp_left .inl
  obtain ⟨rfl, opened⟩ := ((mem_dirty_add queue key other).1 dirty).resolve_left known
  by_cases held : other ∈ queue.held
  · exact .inr held
  · have entered := (add_notifies_iff queue other).2 ⟨opened, known, held⟩
    exact .inl (.inr (by simp [entered]))

theorem take (placed : queue.Placed) (found : queue.take? = some (key, next)) : next.Placed := by
  have took := took_of_take? found
  intro other dirty
  obtain ⟨before, apart⟩ := (took.dirty other).1 dirty
  rw [took.held]
  rcases placed other before with waits | held
  · rw [took.waiting] at waits
    exact .inl ((List.mem_cons.1 waits).resolve_left apart)
  · exact .inr (.inr held)

/-- It does not matter whether the key that is given back was held. -/
theorem done (placed : queue.Placed) (key : κ) : (queue.done key).1.Placed := by
  intro other dirty
  rw [dirty_done] at dirty
  rw [waiting_done, done_notifies, mem_held_done, List.mem_append]
  by_cases same : other = key
  · exact .inl (.inr (by simp [same ▸ dirty, same]))
  · exact (placed other dirty).imp .inl (fun held => ⟨held, same⟩)

end Placed

/-- How many keys wait in front of the first one for which there is work. -/
def ahead (queue : WorkQueue κ) : Nat :=
  (queue.waiting.takeWhile (fun key => decide (key ∉ queue.dirty))).length

theorem ahead_done (queue : WorkQueue κ) (key : κ) : (queue.done key).1.ahead = queue.ahead := by
  rw [ahead, ahead, waiting_done, dirty_done, done_notifies]
  by_cases dirty : key ∈ queue.dirty
  · -- There is work for a key that comes to wait, so that nothing behind it counts.
    rw [List.takeWhile_append]
    split
    next all => simpa [dirty] using all.symm
    next => rfl
  · simp [dirty]

theorem dirty_of_take? (found : queue.take? = some (key, next)) (clean : key ∉ queue.dirty) :
    next.dirty = queue.dirty := by
  unfold take? at found
  split at found
  next => cases found
  next =>
    cases found
    refine List.filter_eq_self.2 (fun other dirty => ?_)
    have apart : other ≠ key := fun same => clean (same ▸ dirty)
    simpa using apart

theorem ahead_of_take? (found : queue.take? = some (key, next)) (clean : key ∉ queue.dirty) :
    queue.ahead = next.ahead + 1 := by
  rw [ahead, ahead, dirty_of_take? found clean, (took_of_take? found).waiting,
    List.takeWhile_cons_of_pos (by simpa using clean), List.length_cons]

end WorkQueue

namespace SharedQueue

variable {κ ω : Type} {shared : SharedQueue κ ω}

/-! ### Where work is -/

/-- What is left of soundness when keys are given back that nobody holds. -/
structure Traced (shared : SharedQueue κ ω) : Prop where
  placed : shared.queue.Placed
  handed : ∀ key ∈ shared.queue.held, ∃ worker, key ∈ shared.hands worker

theorem Traced.start : (SharedQueue.start : SharedQueue κ ω).Traced :=
  ⟨by simp [SharedQueue.start, WorkQueue.empty, WorkQueue.Placed], by simp [SharedQueue.start, WorkQueue.empty]⟩

variable [DecidableEq κ]

theorem Traced.add (traced : shared.Traced) (key : κ) : (shared.add key).Traced :=
  ⟨traced.placed.add key, by simpa [SharedQueue.add] using traced.handed⟩

variable [DecidableEq ω]

theorem Traced.perform (traced : shared.Traced) (act : Act κ ω) : (shared.perform act).Traced := by
  cases act with
  | add key => exact traced.add key
  | addAfter key span =>
    simp only [SharedQueue.perform, addAfter]
    split
    · exact traced.add key
    · split <;> exact ⟨traced.placed, traced.handed⟩
  | fail | forget | close => exact ⟨traced.placed, traced.handed⟩
  | ring key =>
    simp only [SharedQueue.perform]
    split
    · exact ⟨(traced.add key).placed, (traced.add key).handed⟩
    · exact traced
  | take worker =>
    simp only [SharedQueue.perform, take]
    split
    next => exact traced
    next key queue found =>
      refine ⟨traced.placed.take found, fun other held => ?_⟩
      rcases ((WorkQueue.took_of_take? found).held other).1 held with rfl | before
      · exact ⟨worker, by simp⟩
      · obtain ⟨someone, holds⟩ := traced.handed other before
        by_cases same : someone = worker
        · exact ⟨worker, by simp [same ▸ holds]⟩
        · exact ⟨someone, by simpa [same] using holds⟩
  | done worker key =>
    simp only [SharedQueue.perform, giveBack]
    split
    next =>
      refine ⟨traced.placed.done key, fun other held => ?_⟩
      obtain ⟨before, apart⟩ := (WorkQueue.mem_held_done shared.queue key other).1 held
      obtain ⟨someone, holds⟩ := traced.handed other before
      by_cases same : someone = worker
      · exact ⟨worker, by simpa using (List.mem_erase_of_ne apart).2 (same ▸ holds)⟩
      · exact ⟨someone, by simpa [same] using holds⟩
    next => exact traced

/-! ### A closed queue -/

theorem closed_perform (shared : SharedQueue κ ω) {act : Act κ ω} (other : act ≠ .close) :
    (shared.perform act).queue.closed = shared.queue.closed := by
  cases act with
  | add | fail | forget => simp [perform, add, WorkQueue.fail, WorkQueue.forget]
  | addAfter =>
    simp only [perform, addAfter]
    split
    · simp [add]
    · split <;> rfl
  | ring =>
    simp only [perform]
    split <;> simp [add]
  | take =>
    simp only [perform, take]
    split
    next => rfl
    next key queue found => exact (WorkQueue.took_of_take? found).closed
  | done =>
    simp only [perform, giveBack]
    split <;> simp
  | close => exact absurd rfl other

theorem stays_closed (closed : shared.queue.closed = true) (act : Act κ ω) :
    (shared.perform act).queue.closed = true := by
  cases act with
  | close => rfl
  | _ => exact (shared.closed_perform (by simp)).trans closed

/-- Nothing asks for work in a closed queue. -/
theorem mem_dirty_perform_of_closed (closed : shared.queue.closed = true) (act : Act κ ω) (key : κ) :
    key ∈ (shared.perform act).queue.dirty ↔ key ∈ shared.queue.dirty ∧ shared.handedOut? act ≠ some key := by
  rw [mem_dirty_perform]
  refine ⟨fun dirty => dirty.resolve_right ?_, .inl⟩
  rintro ⟨-, opened⟩
  exact absurd (closed.symm.trans opened) (by decide)

/-- Only workers change the lists of a closed queue. -/
theorem perform_of_closed (closed : shared.queue.closed = true) {act : Act κ ω} (takes : ∀ worker, act ≠ .take worker)
    (gives : ∀ worker key, act ≠ .done worker key) :
    (shared.perform act).queue.waiting = shared.queue.waiting ∧ (shared.perform act).queue.dirty = shared.queue.dirty ∧
      (shared.perform act).hands = shared.hands := by
  have refused (key : κ) : shared.add key = shared := by
    simp [add, WorkQueue.add, closed]
  cases act with
  | add key => simp [perform, refused]
  | addAfter key span => simp [perform, addAfter, refused, closed]
  | ring key =>
    simp only [perform, refused]
    split <;> simp
  | take worker => exact absurd rfl (takes worker)
  | done worker key => exact absurd rfl (gives worker key)
  | fail | forget | close => exact ⟨rfl, rfl, rfl⟩

end SharedQueue

end VipKeeper
