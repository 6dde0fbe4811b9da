import VipKeeper.Artifact.Block

/-! The reading of configuration files: a text that is written for items is read as those items.

A line is read for itself: a closing brace, the header of a block, nothing, or a statement. What blocks are open is
all that has to be known of the lines before it. -/

namespace VipKeeper.Item

/-! ### The reader -/

/-- Blocks that are open, the innermost first, each with what stands before it; and what is read inside the innermost.
Items are kept last to first. -/
structure Reading where
  blocks : List (String × List Item)
  items : List Item

namespace Reading

def start : Reading := ⟨[], []⟩

def push (reading : Reading) (item : Item) : Reading :=
  { reading with items := item :: reading.items }

/-- A closing brace ends the innermost block and stands below the beginning of its header. -/
def close : Reading → Nat → Option Reading
  | ⟨[], _⟩, _ => none
  | ⟨(header, before) :: outer, items⟩, spaces =>
    if spaces = 4 * outer.length then some ⟨outer, .block header items.reverse :: before⟩ else none

def line (reading : Reading) (line : List Char) : Option Reading :=
  let spaces := (line.takeWhile (· == ' ')).length
  let words := line.dropWhile (· == ' ')
  if words = [] then some (reading.push .gap)
  else if words = ['\x7d'] then reading.close spaces
  else if spaces = 4 * reading.blocks.length then
    match words.reverse with
    | '\x7b' :: ' ' :: header => some ⟨(String.ofList header.reverse, reading.items) :: reading.blocks, []⟩
    | _ => some (reading.push (.statement (String.ofList words)))
  else none

end Reading

/-- Reads a whole text. Every line must be ended, and every block closed. -/
def read? (text : String) : Option (List Item) :=
  let lines := text.toList.splitOn '\n'
  if lines.getLast? = some [] then
    match lines.dropLast.foldlM Reading.line .start with
    | some ⟨[], items⟩ => some items.reverse
    | _ => none
  else none

/-! ### Items that can be read -/

/-- A character that neither ends a line nor opens or closes a block. -/
def IsPlain (c : Char) : Prop :=
  c ≠ '\n' ∧ c ≠ '\x7b' ∧ c ≠ '\x7d'

instance : DecidablePred IsPlain :=
  fun c => inferInstanceAs (Decidable (c ≠ '\n' ∧ c ≠ '\x7b' ∧ c ≠ '\x7d'))

theorem isPlain_of_all {text : String} (all : text.toList.all (fun c => decide (IsPlain c)) = true) :
    ∀ c ∈ text.toList, IsPlain c :=
  fun c inside => of_decide_eq_true (List.all_eq_true.1 all c inside)

/-- Words that make up a statement or a header of their own. -/
structure Words (text : String) : Prop where
  begins : text.toList.head?.any (· != ' ') = true
  plain : ∀ c ∈ text.toList, IsPlain c

namespace Words

variable {text : String}

instance : DecidablePred Words :=
  fun text => decidable_of_iff (text.toList.head?.any (· != ' ') = true ∧
      text.toList.all (fun c => decide (IsPlain c)) = true)
    ⟨fun parts => ⟨parts.1, isPlain_of_all parts.2⟩,
      fun words => ⟨words.begins, List.all_eq_true.2 (fun c inside => decide_eq_true (words.plain c inside))⟩⟩

theorem of_plain (nonempty : text.toList ≠ []) (free : ' ' ∉ text.toList) (plain : ∀ c ∈ text.toList, IsPlain c) :
    Words text := by
  refine ⟨?_, plain⟩
  cases letters : text.toList with
  | nil => exact absurd letters nonempty
  | cons c rest =>
    rw [letters] at free
    have other : c ≠ ' ' := fun same => free (same ▸ List.mem_cons_self)
    simpa using other

theorem shape (words : Words text) : ∃ c rest, text.toList = c :: rest ∧ c ≠ ' ' := by
  have begins := words.begins
  cases letters : text.toList with
  | nil => simp [letters] at begins
  | cons c rest => exact ⟨c, rest, rfl, by simpa [letters] using begins⟩

theorem not_mem (words : Words text) : '\n' ∉ text.toList :=
  fun inside => (words.plain _ inside).1 rfl

theorem ne_brace (words : Words text) : text.toList ≠ ['\x7d'] := by
  intro brace
  exact (words.plain '\x7d' (by simp [brace])).2.2 rfl

theorem append (words : Words text) {more : String} (plain : ∀ c ∈ more.toList, IsPlain c) : Words (text ++ more) := by
  constructor
  · obtain ⟨c, rest, letters, other⟩ := words.shape
    simp [letters, other]
  · intro c inside
    rw [String.toList_append] at inside
    rcases List.mem_append.1 inside with front | back
    · exact words.plain c front
    · exact plain c back

end Words

mutual

/-- Whether every statement of an item satisfies a condition, and the header of every block another one. -/
def Each (words header : String → Prop) : Item → Prop
  | statement text => words text
  | block text items => header text ∧ EachOf words header items
  | gap => True

def EachOf (words header : String → Prop) : List Item → Prop
  | [] => True
  | item :: rest => Each words header item ∧ EachOf words header rest

end

section

variable {words header : String → Prop}

theorem eachOf_iff {items : List Item} : EachOf words header items ↔ ∀ item ∈ items, Each words header item := by
  induction items with
  | nil => simp [EachOf]
  | cons item rest ih => simp [EachOf, ih]

theorem eachOf_append {items more : List Item} :
    EachOf words header (items ++ more) ↔ EachOf words header items ∧ EachOf words header more := by
  simp only [eachOf_iff, List.mem_append, or_imp, forall_and]

/-- Blocks with a blank line before each. -/
theorem eachOf_spaced {α : Type} {block : α → Item} (each : ∀ value, Each words header (block value)) (values : List α) :
    EachOf words header (values.flatMap (fun value => [.gap, block value])) := by
  induction values with
  | nil => trivial
  | cons value rest ih => exact ⟨trivial, each value, ih⟩

variable {words' header' : String → Prop}

mutual

theorem each_and :
    (item : Item) → Each words header item → Each words' header' item →
      Each (fun text => words text ∧ words' text) (fun text => header text ∧ header' text) item
  | .statement _, first, second => ⟨first, second⟩
  | .gap, _, _ => trivial
  | .block _ items, first, second => ⟨⟨first.1, second.1⟩, eachOf_and items first.2 second.2⟩

theorem eachOf_and :
    (items : List Item) → EachOf words header items → EachOf words' header' items →
      EachOf (fun text => words text ∧ words' text) (fun text => header text ∧ header' text) items
  | [], _, _ => trivial
  | item :: rest, first, second => ⟨each_and item first.1 second.1, eachOf_and rest first.2 second.2⟩

end

end

/-- Whether all words of an item are words of their own. -/
abbrev Plain : Item → Prop :=
  Each Words Words

abbrev AllPlain : List Item → Prop :=
  EachOf Words Words

theorem Words.plain_statement {words : String} (well : Words words) : Plain (.statement words) := well

/-! ### Lines -/

theorem toList_indent (depth : Nat) (words : String) :
    (indent depth ++ words).toList = List.replicate (4 * depth) ' ' ++ words.toList := by
  simp [indent]

theorem takeWhile_spaces (count : Nat) {c : Char} (other : c ≠ ' ') (rest : List Char) :
    (List.replicate count ' ' ++ c :: rest).takeWhile (· == ' ') = List.replicate count ' ' := by
  rw [List.takeWhile_append_of_pos (by simp), List.takeWhile_cons_of_neg (by simpa using other), List.append_nil]

theorem dropWhile_spaces (count : Nat) {c : Char} (other : c ≠ ' ') (rest : List Char) :
    (List.replicate count ' ' ++ c :: rest).dropWhile (· == ' ') = c :: rest := by
  rw [List.dropWhile_append_of_pos (by simp), List.dropWhile_cons_of_neg (by simpa using other)]

variable (blocks : List (String × List Item)) (before : List Item)

theorem line_statement {words : String} (well : Words words) :
    Reading.line ⟨blocks, before⟩ (indent blocks.length ++ words).toList =
      some ⟨blocks, .statement words :: before⟩ := by
  obtain ⟨c, rest, shape, other⟩ := well.shape
  have closes : ∀ header, words.toList.reverse ≠ '\x7b' :: ' ' :: header := by
    intro header reversed
    have inside : '\x7b' ∈ words.toList := by
      rw [← List.mem_reverse, reversed]
      exact List.mem_cons_self
    exact (well.plain _ inside).2.1 rfl
  have brace := well.ne_brace
  rw [toList_indent]
  rw [shape] at closes brace ⊢
  simp only [Reading.line, takeWhile_spaces _ other, dropWhile_spaces _ other, List.length_replicate, brace]
  rw [if_neg (List.cons_ne_nil c rest), if_neg not_false, if_pos trivial, ← shape, String.ofList_toList]
  rfl

theorem line_header {header : String} (well : Words header) :
    Reading.line ⟨blocks, before⟩ (indent blocks.length ++ header ++ " \x7b").toList =
      some ⟨(header, before) :: blocks, []⟩ := by
  obtain ⟨c, rest, shape, other⟩ := well.shape
  rw [String.append_assoc, toList_indent, String.toList_append, shape, List.cons_append]
  simp only [Reading.line, takeWhile_spaces _ other, dropWhile_spaces _ other, List.length_replicate]
  simp [← shape]

theorem line_brace (header : String) (items : List Item) :
    Reading.line ⟨(header, before) :: blocks, items⟩ (indent blocks.length ++ "\x7d").toList =
      some ⟨blocks, .block header items.reverse :: before⟩ := by
  have other : '\x7d' ≠ ' ' := by decide
  rw [toList_indent]
  simp [Reading.line, takeWhile_spaces _ other, dropWhile_spaces _ other, Reading.close]

mutual

/-- The lines of an item are read as that item. -/
theorem foldlM_lines (blocks : List (String × List Item)) (before : List Item) :
    (item : Item) → item.Plain →
      ((lines blocks.length item).map String.toList).foldlM Reading.line ⟨blocks, before⟩ =
        some ⟨blocks, item :: before⟩
  | .statement words, plain => by
    simp only [lines, List.map_cons, List.map_nil, List.foldlM_cons, List.foldlM_nil, line_statement blocks before plain]
    rfl
  | .gap, _ => rfl
  | .block header items, plain => by
    obtain ⟨well, inner⟩ := plain
    -- Inside the block its header and what stands before it wait on the pile of open blocks.
    have body := foldlM_linesOf ((header, before) :: blocks) [] items inner
    simp only [lines, List.cons_append, List.map_cons, List.map_append, List.map_nil, List.foldlM_cons,
      line_header blocks before well, List.foldlM_append, Option.bind_eq_bind, Option.bind_some]
    rw [List.append_nil, List.length_cons] at body
    rw [body, Option.bind_some, line_brace, List.reverse_reverse]
    rfl

theorem foldlM_linesOf (blocks : List (String × List Item)) (before : List Item) :
    (items : List Item) → AllPlain items →
      ((linesOf blocks.length items).map String.toList).foldlM Reading.line ⟨blocks, before⟩ =
        some ⟨blocks, items.reverse ++ before⟩
  | [], _ => rfl
  | item :: rest, plain => by
    have first := foldlM_lines blocks before item plain.1
    have later := foldlM_linesOf blocks (item :: before) rest plain.2
    simp [linesOf, List.foldlM_append, first, later]

end

/-! ### Whole texts -/

section

variable {words header : String → Prop} {holds : String → Prop}

mutual

/-- What holds of every line that can be written holds of the lines of an item. -/
theorem forall_lines (statement : ∀ depth text, words text → holds (indent depth ++ text))
    (opening : ∀ depth text, header text → holds (indent depth ++ text ++ " \x7b"))
    (closing : ∀ depth, holds (indent depth ++ "\x7d")) (blank : holds "") (depth : Nat) :
    (item : Item) → Each words header item → ∀ line ∈ lines depth item, holds line
  | .statement text, each => by
    simpa [lines] using statement depth text each
  | .gap, _ => by
    simpa [lines] using blank
  | .block text items, each => by
    have inner := forall_linesOf statement opening closing blank (depth + 1) items each.2
    intro line inside
    rcases List.mem_append.1 inside with above | last
    · rcases List.mem_cons.1 above with rfl | within
      · exact opening depth text each.1
      · exact inner line within
    · rw [List.mem_singleton.1 last]
      exact closing depth

theorem forall_linesOf (statement : ∀ depth text, words text → holds (indent depth ++ text))
    (opening : ∀ depth text, header text → holds (indent depth ++ text ++ " \x7b"))
    (closing : ∀ depth, holds (indent depth ++ "\x7d")) (blank : holds "") (depth : Nat) :
    (items : List Item) → EachOf words header items → ∀ line ∈ linesOf depth items, holds line
  | [], _ => by simp [linesOf]
  | item :: rest, each => by
    have first := forall_lines statement opening closing blank depth item each.1
    have later := forall_linesOf statement opening closing blank depth rest each.2
    intro line inside
    rcases List.mem_append.1 inside with here | there
    · exact first line here
    · exact later line there

end

end

theorem not_mem_linesOf (depth : Nat) {items : List Item} (plain : AllPlain items) :
    ∀ line ∈ linesOf depth items, '\n' ∉ line.toList := by
  refine forall_linesOf ?_ ?_ ?_ (by simp) depth items plain
  · intro depth text words
    simp [indent, words.not_mem]
  · intro depth text words
    simp [indent, words.not_mem]
  · intro depth
    simp [indent]

/-- The lines of a text of which each is ended are those lines, and an empty one behind the last end. -/
theorem splitOn_ended {lines : List String} (single : ∀ line ∈ lines, '\n' ∉ line.toList) :
    (String.join (lines.map (fun line => line ++ "\n"))).toList.splitOn '\n' = lines.map String.toList ++ [[]] := by
  induction lines with
  | nil => simp
  | cons line later ih =>
    have split := List.splitOn_append_cons_self_of_not_mem (single line List.mem_cons_self)
    have tail := ih (fun other inside => single other (List.mem_cons_of_mem line inside))
    rw [String.toList_join] at tail ⊢
    simpa [split] using tail

theorem read?_render {items : List Item} (plain : AllPlain items) : read? (render items) = some items := by
  have reads := foldlM_linesOf [] [] items plain
  rw [List.append_nil, List.length_nil] at reads
  rw [read?, render, splitOn_ended (not_mem_linesOf 0 plain)]
  simp [Reading.start, reads]

/-- Different items have different texts. -/
theorem render_injective {items others : List Item} (plain : AllPlain items) (plain' : AllPlain others)
    (same : render items = render others) : items = others := by
  have read := congrArg read? same
  rw [read?_render plain, read?_render plain'] at read
  exact Option.some.inj read

end VipKeeper.Item
