/-! Keyed tables in key order and ascending lists without repetition.

A table is a list of entries whose keys strictly ascend, and the type carries that fact. Two tables with
the same entries are therefore equal, and a table written out and read back is the table itself. -/

namespace VipKeeper

/-- A type whose values stand in a strict total order. -/
class Ranked (α : Type) where
  before : α → α → Bool
  irrefl : ∀ a, before a a = false
  trans : ∀ {a b c}, before a b = true → before b c = true → before a c = true
  total : ∀ {a b}, before a b = false → before b a = false → a = b

instance : Ranked Nat where
  before a b := decide (a < b)
  irrefl a := by simp
  trans := by simp only [decide_eq_true_eq]; omega
  total := by simp only [decide_eq_false_iff_not]; omega

instance : Ranked String where
  before a b := decide (a < b)
  irrefl a := by simp
  trans := by simp only [decide_eq_true_eq]; exact String.lt_trans
  total := by
    intro a b first second
    simp only [decide_eq_false_iff_not] at first second
    rcases Std.lt_trichotomy a b with below | same | above
    · exact absurd below first
    · exact same
    · exact absurd above second

/-- Pairs are ordered by their first parts and, where these agree, by their second parts. -/
instance {α β : Type} [Ranked α] [Ranked β] [DecidableEq α] : Ranked (α × β) where
  before a b := Ranked.before a.1 b.1 || (decide (a.1 = b.1) && Ranked.before a.2 b.2)
  irrefl a := by simp [Ranked.irrefl]
  trans := by
    intro a b c first second
    simp only [Bool.or_eq_true, Bool.and_eq_true, decide_eq_true_eq] at first second ⊢
    rcases first with first | ⟨same, first⟩ <;> rcases second with second | ⟨same', second⟩
    · exact .inl (Ranked.trans first second)
    · exact .inl (same' ▸ first)
    · exact .inl (same ▸ second)
    · exact .inr ⟨same.trans same', Ranked.trans first second⟩
  total := by
    intro a b first second
    simp only [Bool.or_eq_false_iff, Bool.and_eq_false_iff, decide_eq_false_iff_not] at first second
    have same := Ranked.total first.1 second.1
    refine Prod.ext same (Ranked.total ?_ ?_)
    · exact first.2.resolve_left (fun different => different same)
    · exact second.2.resolve_left (fun different => different same.symm)

namespace Ordered

variable {κ ν : Type} [Ranked κ]

/-- Puts an entry at its place, instead of one that has the same key. -/
def put (key : κ) (value : ν) : List (κ × ν) → List (κ × ν)
  | [] => [(key, value)]
  | entry :: rest =>
    if Ranked.before key entry.1 then (key, value) :: entry :: rest
    else if Ranked.before entry.1 key then entry :: put key value rest
    else (key, value) :: rest

theorem mem_put {key : κ} {value : ν} {entry : κ × ν} {entries : List (κ × ν)}
    (found : entry ∈ put key value entries) : entry = (key, value) ∨ entry ∈ entries := by
  induction entries with
  | nil => simpa [put] using found
  | cons head rest ih =>
    unfold put at found
    split at found
    · simpa using found
    · split at found
      · rcases List.mem_cons.1 found with same | inside
        · simp [same]
        · rcases ih inside with same | inside
          · exact .inl same
          · exact .inr (List.mem_cons_of_mem _ inside)
      · rcases List.mem_cons.1 found with same | inside
        · exact .inl same
        · exact .inr (List.mem_cons_of_mem _ inside)

theorem pairwise_put {key : κ} {value : ν} {entries : List (κ × ν)}
    (ordered : entries.Pairwise (fun a b => Ranked.before a.1 b.1 = true)) :
    (put key value entries).Pairwise (fun a b => Ranked.before a.1 b.1 = true) := by
  induction entries with
  | nil => simp [put]
  | cons head rest ih =>
    have ⟨above, later⟩ := List.pairwise_cons.1 ordered
    unfold put
    split
    next below =>
      refine List.pairwise_cons.2 ⟨?_, ordered⟩
      intro entry inside
      rcases List.mem_cons.1 inside with same | inside
      · exact same ▸ below
      · exact Ranked.trans below (above entry inside)
    next notBelow =>
      split
      next after =>
        refine List.pairwise_cons.2 ⟨?_, ih later⟩
        intro entry inside
        rcases mem_put inside with same | inside
        · exact same ▸ after
        · exact above entry inside
      next notAfter =>
        have same : key = head.1 :=
          Ranked.total (Bool.eq_false_iff.2 notBelow) (Bool.eq_false_iff.2 notAfter)
        refine List.pairwise_cons.2 ⟨?_, later⟩
        intro entry inside
        simpa [same] using above entry inside

/-- Puts a value at its place in an ascending list, unless the list holds it. -/
def add (value : κ) : List κ → List κ
  | [] => [value]
  | head :: rest =>
    if Ranked.before value head then value :: head :: rest
    else if Ranked.before head value then head :: add value rest
    else head :: rest

/-- The values of a list in ascending order, each once. -/
def distinct (values : List κ) : List κ :=
  values.foldl (fun sorted value => add value sorted) []

end Ordered

/-- A table from keys to values, in key order. -/
structure OrderedMap (κ ν : Type) [Ranked κ] where
  entries : List (κ × ν)
  ordered : entries.Pairwise (fun a b => Ranked.before a.1 b.1 = true)

namespace OrderedMap

variable {κ ν : Type} [Ranked κ]

@[ext] theorem ext {first second : OrderedMap κ ν} (same : first.entries = second.entries) :
    first = second := by
  cases first
  cases second
  cases same
  rfl

instance [DecidableEq κ] [DecidableEq ν] : DecidableEq (OrderedMap κ ν) := fun first second =>
  if same : first.entries = second.entries then isTrue (ext same)
  else isFalse (fun equal => same (congrArg entries equal))

def empty : OrderedMap κ ν := ⟨[], List.Pairwise.nil⟩

instance : Inhabited (OrderedMap κ ν) := ⟨empty⟩

/-- The value of a key is replaced if the table has one. -/
def insert (table : OrderedMap κ ν) (key : κ) (value : ν) : OrderedMap κ ν :=
  ⟨Ordered.put key value table.entries, Ordered.pairwise_put table.ordered⟩

/-- Of several entries with one key the last counts. -/
def ofList (entries : List (κ × ν)) : OrderedMap κ ν :=
  entries.foldl (fun table entry => table.insert entry.1 entry.2) empty

variable [DecidableEq κ]

def get? (table : OrderedMap κ ν) (key : κ) : Option ν :=
  (table.entries.find? (fun entry => decide (entry.1 = key))).map Prod.snd

def contains (table : OrderedMap κ ν) (key : κ) : Bool :=
  (table.get? key).isSome

def erase (table : OrderedMap κ ν) (key : κ) : OrderedMap κ ν :=
  ⟨table.entries.filter (fun entry => !decide (entry.1 = key)), table.ordered.filter _⟩

/-- Replaces the value of a key by a function of the value it has, if any. -/
def alter (table : OrderedMap κ ν) (key : κ) (change : Option ν → ν) : OrderedMap κ ν :=
  table.insert key (change (table.get? key))

end OrderedMap

end VipKeeper
