import VipKeeper.Ordered

/-! What a table holds for a key after each of its operations. -/

namespace VipKeeper

namespace Ordered

variable {κ ν : Type} [Ranked κ]

theorem ne_of_before {first second : κ} (before : Ranked.before first second = true) : first ≠ second := by
  intro same
  rw [same, Ranked.irrefl] at before
  exact Bool.false_ne_true before

variable [DecidableEq κ]

theorem find?_put (key other : κ) (value : ν) (entries : List (κ × ν)) :
    ((put key value entries).find? (fun entry => decide (entry.1 = other))).map Prod.snd =
      if other = key then some value
      else (entries.find? (fun entry => decide (entry.1 = other))).map Prod.snd := by
  induction entries with
  | nil =>
    by_cases same : other = key
    · simp [put, same]
    · simp [put, same, Ne.symm same]
  | cons head rest ih =>
    unfold put
    split
    next below =>
      by_cases same : other = key
      · simp [same]
      · simp [List.find?_cons, same, Ne.symm same]
    next notBelow =>
      split
      next after =>
        have different : head.1 ≠ key := ne_of_before after
        by_cases found : head.1 = other
        · have apart : other ≠ key := found ▸ different
          simp [found, apart]
        · simpa [List.find?_cons, found] using ih
      next notAfter =>
        have same : key = head.1 :=
          Ranked.total (Bool.eq_false_iff.2 notBelow) (Bool.eq_false_iff.2 notAfter)
        by_cases found : other = key
        · simp [found]
        · have apart : head.1 ≠ other := fun equal => found (equal.symm.trans same.symm)
          simp [found, Ne.symm found, apart]

/-- In an ascending list at most one entry has a key. -/
theorem filter_key {entries : List (κ × ν)} (ordered : entries.Pairwise (fun a b => Ranked.before a.1 b.1 = true))
    (key : κ) : entries.filter (fun entry => decide (entry.1 = key)) =
      (entries.find? (fun entry => decide (entry.1 = key))).toList := by
  induction entries with
  | nil => rfl
  | cons head rest ih =>
    have ⟨above, later⟩ := List.pairwise_cons.1 ordered
    by_cases found : head.1 = key
    · have apart (entry : κ × ν) (inside : entry ∈ rest) : ¬ entry.1 = key :=
        fun same => ne_of_before (above entry inside) (found.trans same.symm)
      have none : rest.filter (fun entry => decide (entry.1 = key)) = [] := by simpa using apart
      simp [found, none]
    · simp [found, ih later]

end Ordered

namespace OrderedMap

variable {κ ν : Type} [Ranked κ] [DecidableEq κ]

@[simp] theorem get?_empty (key : κ) : (empty : OrderedMap κ ν).get? key = none := rfl

theorem get?_insert (table : OrderedMap κ ν) (key other : κ) (value : ν) :
    (table.insert key value).get? other = if other = key then some value else table.get? other :=
  Ordered.find?_put key other value table.entries

@[simp] theorem get?_insert_self (table : OrderedMap κ ν) (key : κ) (value : ν) :
    (table.insert key value).get? key = some value := by
  rw [get?_insert, if_pos rfl]

theorem get?_erase (table : OrderedMap κ ν) (key other : κ) :
    (table.erase key).get? other = if other = key then none else table.get? other := by
  unfold get? erase
  rw [List.find?_filter]
  split
  next same => simp [same]
  next different =>
    congr 2
    funext entry
    by_cases found : entry.1 = other
    · simp [found, different]
    · simp [found]

@[simp] theorem get?_erase_self (table : OrderedMap κ ν) (key : κ) : (table.erase key).get? key = none := by
  rw [get?_erase, if_pos rfl]

theorem filter_entries (table : OrderedMap κ ν) (key : κ) :
    table.entries.filter (fun entry => decide (entry.1 = key)) = (table.get? key).toList.map (key, ·) := by
  rw [Ordered.filter_key table.ordered, get?]
  cases found : table.entries.find? (fun entry => decide (entry.1 = key)) with
  | none => rfl
  | some entry =>
    have same : entry.1 = key := by simpa using List.find?_some found
    simp [← same]

theorem mem_entries_iff {table : OrderedMap κ ν} {key : κ} {value : ν} :
    (key, value) ∈ table.entries ↔ table.get? key = some value := by
  have filtered := table.filter_entries key
  have inside : (key, value) ∈ table.entries.filter (fun entry => decide (entry.1 = key)) ↔
      (key, value) ∈ table.entries := by simp
  rw [← inside, filtered]
  simp

/-- Of several entries with one key the last counts. -/
theorem get?_ofList (entries : List (κ × ν)) (key : κ) :
    (ofList entries).get? key =
      (entries.filter (fun entry => decide (entry.1 = key))).getLast?.map Prod.snd := by
  have counted (table : OrderedMap κ ν) :
      (entries.foldl (fun table entry => table.insert entry.1 entry.2) table).get? key =
        ((entries.filter (fun entry => decide (entry.1 = key))).getLast?.map Prod.snd).or (table.get? key) := by
    induction entries generalizing table with
    | nil => rfl
    | cons head rest ih =>
      rw [List.foldl_cons, ih, get?_insert]
      by_cases found : head.1 = key
      · simp [found, List.getLast?_cons]
      · simp [found, Ne.symm found]
  rw [ofList, counted]
  simp

end OrderedMap

end VipKeeper
