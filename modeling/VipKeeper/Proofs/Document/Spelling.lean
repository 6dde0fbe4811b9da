import Mathlib.Data.List.Forall2
import Mathlib.Data.List.Nodup
import VipKeeper.LoadBalancer.Written
import VipKeeper.Proofs.Lists
import VipKeeper.Proofs.Net.AddressText

/-! The ways in which a thing can be written in a document.

A spelling tells which values of a document stand for what, without saying how they are read. For each reader of a
document there is a spelling: the reader understands the values that the spelling has, and no others. -/

namespace VipKeeper

/-- Which values of a document stand for what. -/
abbrev Spelling (α : Type) := Value → α → Prop

namespace Spelling

variable {α κ : Type}

def text : Spelling String :=
  fun value content => value = .text content

def flag : Spelling Bool :=
  fun value holds => value = .flag holds

def word : Spelling UInt32 :=
  fun value word => value = .natural word.toNat

/-- An address has many texts. -/
def address : Spelling Address :=
  fun value address => ∃ content, value = .text content ∧ Address.ofText? content = some address

def list (spelling : Spelling α) : Spelling (List α) :=
  fun value things => ∃ items, value = .list items ∧ List.Forall₂ spelling items things

/-- Of several members for one key the last counts. -/
def table [Ranked κ] (keys : Spelling κ) (contents : Spelling α) : Spelling (OrderedMap κ α) :=
  fun value table => ∃ members entries, value = .record members ∧
    List.Forall₂ (fun member entry => keys (.text member.1) entry.1 ∧ contents member.2 entry.2) members entries ∧
    table = OrderedMap.ofList entries

def optional (spelling : Spelling α) : Spelling (Option α) :=
  fun value thing => value = .null ∧ thing = none ∨
    value ≠ .null ∧ ∃ inner, thing = some inner ∧ spelling value inner

/-- A member of a record that has to be there. -/
def given (spelling : Spelling α) (content : Option Value) (thing : α) : Prop :=
  ∃ value, content = some value ∧ spelling value thing

/-- A member of a record that may be left out. -/
def givenOr (fallback : α) (spelling : Spelling α) (content : Option Value) (thing : α) : Prop :=
  content = none ∧ thing = fallback ∨ given spelling content thing

/-- The members of a record: it names them, or it is a list of their values in the order of the fields. -/
inductive Members (fields : List Field) : Value → List (String × Value) → Prop where
  | named (members : List (String × Value)) : Members fields (.record members) members
  | inOrder (items : List Value) (fits : items.length ≤ fields.length) :
      Members fields (.list items) ((fields.map Field.name).zip items)

/-- A record has one member for a field, under any of its names, or none; other members make no difference. -/
def record (fields : List Field) : Spelling (String → Option Value) :=
  fun value member => ∃ members, Members fields value members ∧
    (∀ field ∈ fields,
      (members.filter (fun member => field.answers member.1)).map Prod.snd = (member field.name).toList) ∧
    ∀ name, name ∉ fields.map Field.name → member name = none

/-- A reader understands the values of a spelling and no others. -/
def ReadBy (spelling : Spelling α) (read : Value → Option α) : Prop :=
  ∀ value thing, read value = some thing ↔ spelling value thing

/-- A writer chooses one of the values of a spelling. -/
def WrittenBy (spelling : Spelling α) (write : α → Value) : Prop :=
  ∀ thing, spelling (write thing) thing

/-- What is written is read back. -/
theorem ReadBy.read_write {spelling : Spelling α} {read : Value → Option α} {write : α → Value}
    (reads : spelling.ReadBy read) (writes : spelling.WrittenBy write) (thing : α) : read (write thing) = some thing :=
  (reads _ _).2 (writes thing)

/-! ### Simple values -/

theorem readBy_text : text.ReadBy Value.format.text? := by
  intro value content
  show value.text? = some content ↔ value = .text content
  cases value <;> simp [Value.text?]

theorem readBy_flag : flag.ReadBy Value.format.flag? := by
  intro value holds
  show value.flag? = some holds ↔ value = .flag holds
  cases value <;> simp [Value.flag?]

theorem readBy_word : word.ReadBy Value.format.word? := by
  intro value word
  unfold Format.word?
  show (value.natural?.bind fun n => if n < UInt32.size then some n.toUInt32 else none) = some word ↔
    value = .natural word.toNat
  cases value with
  | natural n =>
    simp only [Value.natural?, Option.bind_some, Value.natural.injEq]
    constructor
    · intro read
      split at read
      next small =>
        cases read
        exact (UInt32.toNat_ofNat_of_lt' small).symm
      next => cases read
    · intro same
      rw [same, if_pos word.toNat_lt, Nat.toUInt32, UInt32.ofNat_toNat]
  | _ => simp [Value.natural?]

theorem readBy_address : address.ReadBy Value.format.address? := by
  intro value thing
  unfold Format.address? address
  rw [Option.bind_eq_some_iff]
  apply exists_congr
  intro content
  rw [readBy_text]
  rfl

/-! ### Values that are made of others -/

theorem mapM_eq_some_iff {β : Type} {read : α → Option β} {items : List α} {things : List β} :
    items.mapM read = some things ↔ List.Forall₂ (fun item thing => read item = some thing) items things := by
  induction items generalizing things with
  | nil =>
    rw [List.mapM_nil, List.forall₂_nil_left_iff]
    exact (Option.some_inj).trans eq_comm
  | cons item rest ih =>
    rw [List.mapM_cons, List.forall₂_cons_left_iff]
    simp only [Option.bind_eq_bind, Option.bind_eq_some_iff, Option.pure_def, Option.some.injEq]
    constructor
    · intro read
      obtain ⟨thing, first, others, later, rfl⟩ := read
      exact ⟨thing, others, first, ih.1 later, rfl⟩
    · intro read
      obtain ⟨thing, others, first, later, rfl⟩ := read
      exact ⟨thing, first, others, ih.2 later, rfl⟩

theorem ReadBy.list {spelling : Spelling α} {read : Value → Option α} (reads : spelling.ReadBy read) :
    spelling.list.ReadBy (Value.format.list? read) := by
  intro value things
  unfold Format.list? Spelling.list
  rw [Option.bind_eq_some_iff]
  apply exists_congr
  intro items
  have listed : Value.format.items? value = some items ↔ value = .list items := by
    show value.items? = some items ↔ value = .list items
    cases value <;> simp [Value.items?]
  rw [listed, mapM_eq_some_iff]
  simp only [reads _ _]

theorem ReadBy.table [Ranked κ] {keys : Spelling κ} {contents : Spelling α} {readKey : Value → Option κ}
    {read : Value → Option α} (readsKeys : keys.ReadBy readKey) (reads : contents.ReadBy read) :
    (Spelling.table keys contents).ReadBy (Value.format.table? readKey read) := by
  intro value table
  have entry (member : String × Value) (entry : κ × α) :
      (do return (← readKey (.text member.1), ← read member.2)) = some entry ↔
        keys (.text member.1) entry.1 ∧ contents member.2 entry.2 := by
    simp only [Option.bind_eq_bind, Option.bind_eq_some_iff, Option.pure_def, Option.some.injEq, readsKeys _ _,
      reads _ _, Prod.ext_iff]
    grind
  unfold Format.table? Spelling.table
  cases value with
  | record members =>
    have listed : Value.format.entries? (.record members) =
        some (members.map (fun member => (.text member.1, member.2))) := rfl
    rw [listed, Option.bind_some, Option.map_eq_some_iff]
    simp only [mapM_eq_some_iff, List.forall₂_map_left_iff, entry]
    constructor
    · intro read
      obtain ⟨entries, each, rfl⟩ := read
      exact ⟨members, entries, rfl, each, rfl⟩
    · intro spelled
      obtain ⟨_, entries, same, each, rfl⟩ := spelled
      cases same
      exact ⟨entries, each, rfl⟩
  | _ => simp [Value.format, Value.entries?]

theorem ReadBy.optional {spelling : Spelling α} {read : Value → Option α} (reads : spelling.ReadBy read) :
    spelling.optional.ReadBy (Value.format.option? read) := by
  intro value thing
  unfold Format.option? Spelling.optional
  by_cases absent : value = .null
  · rw [absent]
    show some none = some thing ↔ _
    simp [eq_comm]
  · have present : Value.format.optional? value = some (some value) := by
      cases value with
      | null => exact absurd rfl absent
      | _ => rfl
    rw [present]
    show (read value).map some = some thing ↔ _
    rw [Option.map_eq_some_iff]
    simp only [absent, false_and, false_or, ne_eq, not_false_eq_true, true_and, reads _ _]
    apply exists_congr
    intro inner
    rw [and_comm, eq_comm]

/-! ### Records -/

/-- What is said of a field by members of which at most one answers to it. -/
theorem map_snd_eq_toList_iff {mentions : List (String × Value)} {content : Option Value} :
    mentions.map Prod.snd = content.toList ↔ mentions.length ≤ 1 ∧ mentions.head?.map Prod.snd = content := by
  match mentions with
  | [] => cases content <;> simp
  | [mention] => cases content <;> simp
  | _ :: _ :: _ => cases content <;> simp

theorem find?_name {fields : List Field} (distinct : (fields.map Field.name).Nodup) {field : Field}
    (inside : field ∈ fields) : fields.find? (fun other => other.name == field.name) = some field := by
  cases found : fields.find? (fun other => other.name == field.name) with
  | none =>
    have apart := List.find?_eq_none.1 found field inside
    exact absurd (beq_self_eq_true field.name) apart
  | some other =>
    have same : other.name = field.name := by simpa using List.find?_some found
    rw [List.inj_on_of_nodup_map distinct (List.mem_of_find?_eq_some found) inside same]

theorem find?_name_eq_none_iff {fields : List Field} {name : String} :
    fields.find? (fun field => field.name == name) = none ↔ name ∉ fields.map Field.name := by
  simp

theorem collect_eq_some_iff {fields : List Field} (distinct : (fields.map Field.name).Nodup)
    {members : List (String × Value)} {member : String → Option Value} :
    Field.collect fields members = some member ↔
      (∀ field ∈ fields,
        (members.filter (fun member => field.answers member.1)).map Prod.snd = (member field.name).toList) ∧
      ∀ name, name ∉ fields.map Field.name → member name = none := by
  unfold Field.collect
  -- That there is at most one member for each field is checked first, and what the members are is told later.
  simp only [map_snd_eq_toList_iff]
  split
  next once =>
    have once : ∀ field ∈ fields, (members.filter (fun member => field.answers member.1)).length ≤ 1 := by
      simpa using once
    rw [Option.some.injEq]
    constructor
    · intro same
      rw [← same]
      constructor
      · intro field inside
        simp only [find?_name distinct inside, Option.bind_some]
        exact ⟨once field inside, trivial⟩
      · intro name unknown
        simp only [find?_name_eq_none_iff.2 unknown, Option.bind_none]
    · intro shown
      obtain ⟨known, unknown⟩ := shown
      funext name
      cases found : fields.find? (fun field => field.name == name) with
      | none => exact (unknown name (find?_name_eq_none_iff.1 found)).symm
      | some field =>
        have same : field.name = name := by simpa using List.find?_some found
        rw [← same]
        exact (known field (List.mem_of_find?_eq_some found)).2
  next twice =>
    apply iff_of_false (by simp)
    intro shown
    apply twice
    simp only [List.all_eq_true, decide_eq_true_eq]
    intro field inside
    exact (shown.1 field inside).1

theorem readBy_record {fields : List Field} (distinct : (fields.map Field.name).Nodup) :
    (record fields).ReadBy (Value.format.record? fields) := by
  intro value member
  show value.record? fields = some member ↔ _
  cases value with
  | record members =>
    rw [Value.record?, collect_eq_some_iff distinct]
    constructor
    · intro shown
      exact ⟨members, .named members, shown⟩
    · intro shown
      obtain ⟨_, named, shown⟩ := shown
      cases named
      exact shown
  | list items =>
    rw [Value.record?]
    constructor
    · intro read
      split at read
      next fits => exact ⟨_, .inOrder items fits, (collect_eq_some_iff distinct).1 read⟩
      next => cases read
    · intro shown
      obtain ⟨_, listed, shown⟩ := shown
      cases listed with
      | inOrder items fits => rw [if_pos fits, collect_eq_some_iff distinct]; exact shown
  | _ =>
    apply iff_of_false (by simp [Value.record?])
    intro shown
    obtain ⟨_, members, -⟩ := shown
    cases members

/-- A reader of a record looks at its members first. -/
theorem record_bind_eq_some_iff {fields : List Field} (distinct : (fields.map Field.name).Nodup) {value : Value}
    {read : (String → Option Value) → Option α} {thing : α} {fits : (String → Option Value) → Prop}
    (reads : ∀ member, read member = some thing ↔ fits member) :
    (Value.format.record? fields value).bind read = some thing ↔
      ∃ member, record fields value member ∧ fits member := by
  rw [Option.bind_eq_some_iff]
  apply exists_congr
  intro member
  rw [readBy_record distinct, reads]

theorem ReadBy.required {spelling : Spelling α} {read : Value → Option α} (reads : spelling.ReadBy read)
    (content : Option Value) (thing : α) :
    Format.required read content = some thing ↔ spelling.given content thing := by
  unfold Format.required Spelling.given
  rw [Option.bind_eq_some_iff]
  simp only [reads _ _]

theorem ReadBy.defaulted {spelling : Spelling α} {read : Value → Option α} (reads : spelling.ReadBy read)
    (fallback : α) (content : Option Value) (thing : α) :
    Format.defaulted fallback read content = some thing ↔ spelling.givenOr fallback content thing := by
  unfold Format.defaulted Spelling.givenOr Spelling.given
  cases content with
  | none => simp [eq_comm]
  | some value => simp [reads _ _]

/-! ### Writers -/

theorem writtenBy_word : word.WrittenBy LoadBalancer.wordValue := fun _ => rfl

theorem writtenBy_address : address.WrittenBy LoadBalancer.addressValue := by
  intro address
  exact ⟨address.text, rfl, Address.ofText?_text address⟩

theorem WrittenBy.list {spelling : Spelling α} {write : α → Value} (writes : spelling.WrittenBy write) :
    spelling.list.WrittenBy (fun things => .list (things.map write)) := by
  intro things
  refine ⟨_, rfl, ?_⟩
  rw [List.forall₂_map_left_iff, List.forall₂_same]
  intro thing _
  exact writes thing

theorem WrittenBy.table [Ranked κ] [DecidableEq κ] {keys : Spelling κ} {contents : Spelling α} {key : κ → String}
    {write : α → Value} (writesKeys : keys.WrittenBy (fun thing => .text (key thing)))
    (writes : contents.WrittenBy write) :
    (Spelling.table keys contents).WrittenBy (fun table => table.value key write) := by
  intro table
  refine ⟨_, table.entries, rfl, ?_, table.ofList_entries.symm⟩
  rw [List.forall₂_map_left_iff, List.forall₂_same]
  intro entry _
  exact ⟨writesKeys entry.1, writes entry.2⟩

end Spelling

end VipKeeper
