import VipKeeper.Proofs.Queue.Laws

/-! The failures that a queue counts for each key, and the waits that follow from their numbers. -/

namespace VipKeeper

namespace Span

protected theorem le_refl (span : Span) : span ≤ span :=
  Nat.le_refl span.nanoseconds

protected theorem le_trans {first second third : Span} (less : first ≤ second) (more : second ≤ third) : first ≤ third :=
  Nat.le_trans less more

theorem min_le_right (first second : Span) : min first second ≤ second := by
  change (if first ≤ second then first else second) ≤ second
  split
  next less => exact less
  next => exact Span.le_refl second

theorem min_le_min {first second : Span} (less : first ≤ second) (limit : Span) : min first limit ≤ min second limit := by
  change (if first ≤ limit then first else limit) ≤ if second ≤ limit then second else limit
  split
  next low =>
    split
    next => exact less
    next => exact low
  next high =>
    rw [if_neg (fun low => high (Span.le_trans less low))]
    exact Span.le_refl limit

theorem nanoseconds_min (first second : Span) :
    (min first second).nanoseconds = min first.nanoseconds second.nanoseconds := by
  change (if first ≤ second then first else second).nanoseconds = min first.nanoseconds second.nanoseconds
  split
  next less => exact (Nat.min_eq_left less).symm
  next more => exact (Nat.min_eq_right (Nat.le_of_not_le more)).symm

theorem isTellable_of_le {first second : Span} (less : first ≤ second) (tellable : second.isTellable = true) :
    first.isTellable = true := by
  have seconds : first.seconds ≤ second.seconds := Nat.div_le_div_right less
  have told : second.seconds < UInt64.size := of_decide_eq_true tellable
  exact decide_eq_true (Nat.lt_of_le_of_lt seconds told)

end Span

namespace Backoff

theorem delay_le_limit (backoff : Backoff) (failures : Nat) : backoff.delay failures ≤ backoff.limit := by
  unfold delay
  split
  · dsimp only
    split
    · exact Span.min_le_right _ _
    · exact Span.le_refl _
  · exact Span.le_refl _

theorem delay_mono (backoff : Backoff) {failures more : Nat} (less : failures ≤ more) :
    backoff.delay failures ≤ backoff.delay more := by
  by_cases early : more < saturation ∧ Span.isTellable ⟨backoff.base.nanoseconds * Nat.pow 2 more⟩ = true
  · obtain ⟨below, tellable⟩ := early
    have doubled : (⟨backoff.base.nanoseconds * Nat.pow 2 failures⟩ : Span) ≤
        ⟨backoff.base.nanoseconds * Nat.pow 2 more⟩ :=
      Nat.mul_le_mul_left _ (Nat.pow_le_pow_right (by decide) less)
    unfold delay
    rw [if_pos below, if_pos (Nat.lt_of_le_of_lt less below)]
    dsimp only
    rw [if_pos tellable, if_pos (Span.isTellable_of_le doubled tellable)]
    exact Span.min_le_min doubled backoff.limit
  · have late : backoff.delay more = backoff.limit := by
      unfold delay
      dsimp only
      split
      next below => rw [if_neg (fun tellable => early ⟨below, tellable⟩)]
      next => rfl
    rw [late]
    exact backoff.delay_le_limit failures

/-- The count stops far behind the point from which on the wait stays the same. -/
theorem delay_min (backoff : Backoff) (failures : Nat) :
    backoff.delay (min failures WorkQueue.mostFailures) = backoff.delay failures := by
  by_cases few : failures ≤ WorkQueue.mostFailures
  · rw [Nat.min_eq_left few]
  · have saturated : ¬ WorkQueue.mostFailures < saturation := by decide
    have further : ¬ failures < saturation := fun below => by
      have most := Nat.lt_of_not_le few
      omega
    rw [Nat.min_eq_right (Nat.le_of_not_le few), delay, delay, if_neg saturated, if_neg further]

/-! ### The exact product -/

/-- A product that cannot be told is longer than any limit that can, so the wait is the capped product until the count
of failures alone makes it the limit. -/
theorem nanoseconds_delay (backoff : Backoff) (tellable : backoff.limit.isTellable = true) (failures : Nat) :
    (backoff.delay failures).nanoseconds =
      if failures < saturation then
        min (backoff.base.nanoseconds * Nat.pow 2 failures) backoff.limit.nanoseconds
      else backoff.limit.nanoseconds := by
  unfold delay
  split
  next few =>
    dsimp only
    split
    next told => exact Span.nanoseconds_min _ _
    next untold =>
      have longer : ¬ (⟨backoff.base.nanoseconds * Nat.pow 2 failures⟩ : Span) ≤ backoff.limit :=
        fun within => untold (Span.isTellable_of_le within tellable)
      exact (Nat.min_eq_right (Nat.le_of_not_le longer)).symm
  next many => rfl

/-- The wait is the exact product, capped at the limit, unless the count of failures makes it the limit before the
product has come so far. -/
theorem delay_exact_iff (backoff : Backoff) (tellable : backoff.limit.isTellable = true) (failures : Nat) :
    (backoff.delay failures).nanoseconds =
        min (backoff.base.nanoseconds * Nat.pow 2 failures) backoff.limit.nanoseconds ↔
      failures < saturation ∨ backoff.limit.nanoseconds ≤ backoff.base.nanoseconds * Nat.pow 2 failures := by
  rw [nanoseconds_delay backoff tellable]
  split
  next few => exact iff_of_true rfl (.inl few)
  next many =>
    constructor
    · intro same
      exact .inr (same ▸ Nat.min_le_left _ _)
    · rintro (few | reached)
      · exact absurd few many
      · exact (Nat.min_eq_right reached).symm

/-- With a base of two nanoseconds the last exact wait is far below the limit. -/
theorem delay_exact_iff_last :
    (Span.ofSeconds 1000).isTellable = true ∧ 31 < saturation ∧
      ((⟨⟨2⟩, Span.ofSeconds 1000⟩ : Backoff).delay 31).nanoseconds = 4294967296 := by
  have tellable : (Span.ofSeconds 1000).isTellable = true := by decide
  have few : 31 < saturation := by decide
  exact ⟨tellable, few, (delay_exact_iff ⟨⟨2⟩, Span.ofSeconds 1000⟩ tellable 31).2 (.inl few)⟩

/-- With a base of one nanosecond the wait after 32 failures should be little more than four seconds. -/
theorem delay_before_product :
    (⟨1⟩ : Span) ≤ Span.ofSeconds 1000 ∧
      ((⟨⟨1⟩, Span.ofSeconds 1000⟩ : Backoff).delay 32).nanoseconds ≠
        min (1 * Nat.pow 2 32) (Span.ofSeconds 1000).nanoseconds ∧
      (⟨⟨1⟩, Span.ofSeconds 1000⟩ : Backoff).delay 32 = Span.ofSeconds 1000 := by
  decide

end Backoff

namespace WorkQueue

variable {κ : Type} [DecidableEq κ]

theorem lookup_forget (failures : List (κ × Nat)) (key other : κ) :
    (failures.filter (fun entry => !decide (entry.1 = key))).lookup other =
      if other = key then none else failures.lookup other := by
  induction failures with
  | nil => simp
  | cons entry rest ih =>
    obtain ⟨first, count⟩ := entry
    by_cases gone : first = key
    · rw [List.filter_cons_of_neg (by simpa using gone), ih, gone]
      split
      next => rfl
      next apart => rw [List.lookup_cons, beq_false_of_ne apart]
    · rw [List.filter_cons_of_pos (by simpa using gone), List.lookup_cons, List.lookup_cons, ih]
      by_cases found : other = first
      · simp [found, gone]
      · rw [beq_false_of_ne found]

theorem requeues_forget (queue : WorkQueue κ) (key other : κ) :
    (queue.forget key).requeues other = if other = key then 0 else queue.requeues other := by
  rw [requeues, forget, lookup_forget]
  split <;> rfl

theorem requeues_fail (queue : WorkQueue κ) (backoff : Backoff) (key other : κ) :
    (queue.fail backoff key).2.requeues other =
      if other = key then min (queue.requeues key + 1) mostFailures else queue.requeues other := by
  rw [requeues, fail, List.lookup_cons, forget, lookup_forget]
  by_cases same : other = key
  · rw [beq_iff_eq.2 same, if_pos same, if_pos same]
    rfl
  · rw [beq_false_of_ne same, if_neg same, if_neg same]
    rfl

theorem requeues_of_failures {queue next : WorkQueue κ} (same : next.failures = queue.failures) (key : κ) :
    next.requeues key = queue.requeues key := by
  rw [requeues, requeues, same]

@[simp] theorem failures_add (queue : WorkQueue κ) (key : κ) : (queue.add key).1.failures = queue.failures := by
  unfold add
  split
  · rfl
  · split <;> rfl

@[simp] theorem failures_done (queue : WorkQueue κ) (key : κ) : (queue.done key).1.failures = queue.failures := by
  unfold done
  dsimp only
  split <;> rfl

theorem failures_of_take? {queue next : WorkQueue κ} {key : κ} (found : queue.take? = some (key, next)) :
    next.failures = queue.failures := by
  unfold take? at found
  split at found
  next => cases found
  next =>
    cases found
    rfl

end WorkQueue

end VipKeeper
