import Mathlib.Data.List.Perm.Basic
import VipKeeper.Proofs.Table

/-! Ascending lists are determined by what is in them, and tables by what they hold for each key. Values that come one
after the other are taken in pairs. -/

namespace VipKeeper

namespace Ordered

variable {κ : Type} [Ranked κ]

theorem asymm {first second : κ} (before : Ranked.before first second = true) :
    Ranked.before second first ≠ true := by
  intro after
  exact ne_of_before (Ranked.trans before after) rfl

/-- Two lists in the strict order of ranks that have the same members are one. -/
theorem eq_of_ascending {α : Type} (rank : α → κ) {first second : List α}
    (ascends : first.Pairwise (fun a b => Ranked.before (rank a) (rank b) = true))
    (ascends' : second.Pairwise (fun a b => Ranked.before (rank a) (rank b) = true))
    (same : ∀ value, value ∈ first ↔ value ∈ second) : first = second := by
  have apart {a b : α} (before : Ranked.before (rank a) (rank b) = true) : a ≠ b :=
    fun equal => ne_of_before before (congrArg rank equal)
  -- Without repetitions the members leave only the order open, and the ranks give that.
  have perm : first.Perm second := (List.perm_ext_iff_of_nodup (ascends.imp apart) (ascends'.imp apart)).2 same
  exact perm.eq_of_pairwise (fun a b _ _ below above => absurd above (asymm below)) ascends ascends'

/-! ### Distinct values in order -/

theorem mem_add {value other : κ} {values : List κ} : other ∈ add value values ↔ other = value ∨ other ∈ values := by
  induction values with
  | nil => simp [add]
  | cons head rest ih =>
    unfold add
    split
    next => simp
    next notBelow =>
      split
      next => simp [ih, or_left_comm]
      next notAbove =>
        have same : value = head := Ranked.total (Bool.eq_false_iff.2 notBelow) (Bool.eq_false_iff.2 notAbove)
        simp [same]

theorem ascending_add {value : κ} {values : List κ} (ascends : values.Pairwise (fun a b => Ranked.before a b = true)) :
    (add value values).Pairwise (fun a b => Ranked.before a b = true) := by
  induction values with
  | nil => simp [add]
  | cons head rest ih =>
    have ⟨above, later⟩ := List.pairwise_cons.1 ascends
    unfold add
    split
    next below =>
      refine List.pairwise_cons.2 ⟨?_, ascends⟩
      intro other inside
      rcases List.mem_cons.1 inside with rfl | further
      · exact below
      · exact Ranked.trans below (above other further)
    next =>
      split
      next after =>
        refine List.pairwise_cons.2 ⟨?_, ih later⟩
        intro other inside
        rcases mem_add.1 inside with rfl | further
        · exact after
        · exact above other further
      next => exact ascends

theorem mem_distinct {value : κ} {values : List κ} : value ∈ distinct values ↔ value ∈ values := by
  have gathered (sorted : List κ) :
      value ∈ values.foldl (fun sorted value => add value sorted) sorted ↔ value ∈ values ∨ value ∈ sorted := by
    induction values generalizing sorted with
    | nil => simp
    | cons head rest ih => rw [List.foldl_cons, ih, mem_add, List.mem_cons, or_left_comm, or_assoc]
  rw [distinct, gathered]
  simp

theorem ascending_distinct (values : List κ) : (distinct values).Pairwise (fun a b => Ranked.before a b = true) := by
  have kept (sorted : List κ) (ascends : sorted.Pairwise (fun a b => Ranked.before a b = true)) :
      (values.foldl (fun sorted value => add value sorted) sorted).Pairwise (fun a b => Ranked.before a b = true) := by
    induction values generalizing sorted with
    | nil => exact ascends
    | cons head rest ih => exact ih _ (ascending_add ascends)
  exact kept [] List.Pairwise.nil

/-- Neither the order of values nor how often each occurs makes a difference. -/
theorem distinct_congr {first second : List κ} (same : ∀ value, value ∈ first ↔ value ∈ second) :
    distinct first = distinct second :=
  eq_of_ascending id (ascending_distinct first) (ascending_distinct second) (fun value => by
    rw [mem_distinct, mem_distinct, same])

end Ordered

/-- Tables that hold the same for every key are one. -/
theorem OrderedMap.eq_of_get? {κ ν : Type} [Ranked κ] [DecidableEq κ] {first second : OrderedMap κ ν}
    (same : ∀ key, first.get? key = second.get? key) : first = second := by
  refine OrderedMap.ext (Ordered.eq_of_ascending Prod.fst first.ordered second.ordered ?_)
  rintro ⟨key, value⟩
  rw [mem_entries_iff, mem_entries_iff, same]

/-- A table that is made of the entries of a table is that table. -/
theorem OrderedMap.ofList_entries {κ ν : Type} [Ranked κ] [DecidableEq κ] (table : OrderedMap κ ν) :
    ofList table.entries = table := by
  refine eq_of_get? (fun key => ?_)
  rw [get?_ofList, filter_entries, List.getLast?_map]
  cases table.get? key <;> rfl

section

variable {α : Type}

/-- Of at most one value there is only one order. -/
theorem eq_of_perm_of_short {first second : List α} (perm : first.Perm second) (short : second.length ≤ 1) :
    first = second := by
  match second, short with
  | [], _ => exact List.perm_nil.1 perm
  | [value], _ => exact List.perm_singleton.1 perm

/-! ### Pairs of neighbours -/

/-- Each value with the one before it, the first with one that was there at the start. -/
def successions (start : α) (values : List α) : List (α × α) :=
  (start :: values).zip values

@[simp] theorem successions_cons (start value : α) (rest : List α) :
    successions start (value :: rest) = (start, value) :: successions value rest := rfl

theorem successions_append (start : α) (earlier later : List α) :
    successions start (earlier ++ later) = successions start earlier ++ successions (earlier.getLastD start) later := by
  induction earlier generalizing start with
  | nil => rfl
  | cons head rest ih =>
    rw [List.cons_append, successions_cons, ih, successions_cons, List.getLastD_cons, List.cons_append]

theorem successions_concat (start : α) (values : List α) (value : α) :
    successions start (values ++ [value]) = successions start values ++ [(values.getLastD start, value)] :=
  successions_append start values [value]

end

end VipKeeper
