import Mathlib.Tactic.SplitIfs
import VipKeeper.Text.Lines

/-! The bytes that encode a text, and the lines they are cut into.

A byte below 128 is a character of its own and part of no other. Bytes that encode a text can therefore be cut at every
such byte, and so at every line end: they encode a text if and only if each of their lines does. -/

namespace VipKeeper.Text

/-! ### Bytes -/

theorem toList_loop (bytes : ByteArray) (start : Nat) (read : List UInt8) :
    ByteArray.toList.loop bytes start read = read.reverse ++ bytes.data.toList.drop start := by
  fun_induction ByteArray.toList.loop bytes start read with
  | case1 start read more ih =>
    have inside : start < bytes.data.toList.length := by simpa using more
    rw [ih, List.drop_eq_getElem_cons inside]
    simp [ByteArray.get!, more]
  | case2 start read done =>
    rw [List.drop_eq_nil_of_le (by simpa using Nat.le_of_not_lt done), List.append_nil]

theorem toList_bytes (bytes : ByteArray) : bytes.toList = bytes.data.toList := by
  simp [ByteArray.toList, toList_loop]

theorem toUTF8_injective {first second : String} (same : first.toUTF8.toList = second.toUTF8.toList) :
    first = second := by
  rw [toList_bytes, toList_bytes, Array.toList_inj] at same
  exact String.toByteArray_inj.1 (ByteArray.ext same)

/-- The bytes of characters, one after the other. -/
def encode (chars : List Char) : List UInt8 :=
  chars.flatMap String.utf8EncodeChar

theorem toList_toUTF8 (text : String) : text.toUTF8.toList = encode text.toList := by
  rw [toList_bytes, String.toUTF8, ← String.utf8Encode_toList, List.utf8Encode, List.toList_data_toByteArray, encode]

@[simp] theorem encode_cons (c : Char) (chars : List Char) :
    encode (c :: chars) = String.utf8EncodeChar c ++ encode chars :=
  List.flatMap_cons

@[simp] theorem encode_append (chars more : List Char) : encode (chars ++ more) = encode chars ++ encode more :=
  List.flatMap_append

theorem encode_injective {chars more : List Char} (same : encode chars = encode more) : chars = more := by
  rw [← String.toList_ofList (l := chars), ← String.toList_ofList (l := more), ← toList_toUTF8, ← toList_toUTF8] at same
  rw [← String.ofList_inj, toUTF8_injective same]

theorem lt_of_mem_utf8EncodeChar {c : Char} {byte : UInt8} (inside : byte ∈ String.utf8EncodeChar c) :
    byte.toNat < 255 := by
  have small {value : Nat} (below : value < 255) : (UInt8.ofNat value).toNat < 255 := by
    rw [UInt8.toNat_ofNat']
    exact Nat.lt_of_le_of_lt (Nat.mod_le value _) below
  simp only [String.utf8EncodeChar] at inside
  -- One to four bytes: the first tells how many they are, and each of the others carries six bits.
  split_ifs at inside <;> simp only [List.mem_cons, List.not_mem_nil, or_false] at inside
  · rw [inside]
    exact small (by omega)
  · rcases inside with rfl | rfl <;> exact small (by omega)
  · rcases inside with rfl | rfl | rfl <;> exact small (by omega)
  · rcases inside with rfl | rfl | rfl | rfl <;> exact small (by omega)

theorem lt_of_mem_encode {chars : List Char} {byte : UInt8} (inside : byte ∈ encode chars) : byte.toNat < 255 := by
  obtain ⟨_, _, encoded⟩ := List.mem_flatMap.1 inside
  exact lt_of_mem_utf8EncodeChar encoded

theorem utf8EncodeChar_of_ascii {c : Char} (ascii : c.toNat < 128) :
    String.utf8EncodeChar c = [UInt8.ofNat c.toNat] :=
  if_pos (Nat.le_of_lt_succ ascii)

/-- A byte below 128 stands for a character alone. -/
theorem eq_singleton_of_mem {c : Char} {byte : UInt8} (ascii : byte.toNat < 128)
    (inside : byte ∈ String.utf8EncodeChar c) : String.utf8EncodeChar c = [byte] := by
  have large {value : Nat} (above : 128 ≤ value) (below : value < 256) : byte ≠ UInt8.ofNat value := by
    rintro rfl
    rw [UInt8.toNat_ofNat', Nat.mod_eq_of_lt below] at ascii
    omega
  by_cases short : c.toNat < 128
  · rw [utf8EncodeChar_of_ascii short] at inside ⊢
    rw [List.mem_singleton.1 inside]
  · exfalso
    simp only [String.utf8EncodeChar] at inside
    split_ifs at inside with one <;> simp only [List.mem_cons, List.not_mem_nil, or_false] at inside
    · exact short (Nat.lt_succ_of_le one)
    · rcases inside with same | same <;> exact large (by omega) (by omega) same
    · rcases inside with same | same | same <;> exact large (by omega) (by omega) same
    · rcases inside with same | same | same | same <;> exact large (by omega) (by omega) same

/-- Bytes that encode characters are cut at a byte below 128 where the characters can be cut. -/
theorem encode_eq_around {chars : List Char} {before after : List UInt8} {byte : UInt8} (ascii : byte.toNat < 128)
    (same : encode chars = before ++ byte :: after) :
    ∃ earlier c later, chars = earlier ++ c :: later ∧ encode earlier = before ∧
      String.utf8EncodeChar c = [byte] ∧ encode later = after := by
  induction chars generalizing before with
  | nil => simp [encode] at same
  | cons c rest ih =>
    rw [encode_cons] at same
    rcases List.append_eq_append_iff.1 same with ⟨more, rfl, found⟩ | ⟨more, whole, found⟩
    · obtain ⟨earlier, d, later, rfl, rfl, alone, rfl⟩ := ih found
      exact ⟨c :: earlier, d, later, rfl, encode_cons c earlier, alone, rfl⟩
    · cases more with
      | nil =>
        have split : encode rest = [] ++ byte :: after := found.symm
        obtain ⟨earlier, d, later, rfl, empty, alone, rfl⟩ := ih split
        refine ⟨c :: earlier, d, later, rfl, ?_, alone, rfl⟩
        rw [encode_cons, empty, whole, List.append_nil, List.append_nil]
      | cons head tail =>
        -- The byte belongs to the first character, which therefore has no other.
        obtain ⟨rfl, rest⟩ := List.cons.inj found
        have alone := eq_singleton_of_mem ascii (whole ▸ List.mem_append_right _ List.mem_cons_self)
        rw [alone] at whole
        obtain ⟨rfl, rfl⟩ : before = [] ∧ tail = [] := by
          rcases List.append_eq_singleton_iff.1 whole.symm with ⟨none, last⟩ | ⟨_, last⟩
          · exact ⟨none, (List.cons.inj last).2⟩
          · cases last
        exact ⟨[], c, _, rfl, rfl, alone, rest.symm⟩

theorem newline_notMem_encode {chars : List Char} (whole : '\n' ∉ chars) : newline ∉ encode chars := by
  intro inside
  obtain ⟨c, inside, encoded⟩ := List.mem_flatMap.1 inside
  have same : encode [c] = encode ['\n'] := by
    rw [encode, List.flatMap_singleton, eq_singleton_of_mem (by decide) encoded]
    rfl
  exact whole (List.singleton_inj.1 (encode_injective same) ▸ inside)

/-! ### Texts -/

/-- Whether bytes encode a text. -/
def isText (bytes : List UInt8) : Bool :=
  (ofBytes? bytes).isSome

theorem ofBytes?_eq_some_iff {bytes : List UInt8} {text : String} :
    ofBytes? bytes = some text ↔ bytes = encode text.toList := by
  rw [← toList_toUTF8, toList_bytes, ofBytes?, String.fromUTF8?]
  constructor
  · intro found
    split_ifs at found
    cases found
    rfl
  · rintro rfl
    exact dif_pos text.isValidUTF8

theorem isText_iff {bytes : List UInt8} : isText bytes = true ↔ ∃ chars, bytes = encode chars := by
  rw [isText, Option.isSome_iff_exists]
  constructor
  · rintro ⟨text, found⟩
    exact ⟨_, ofBytes?_eq_some_iff.1 found⟩
  · rintro ⟨chars, rfl⟩
    exact ⟨String.ofList chars, ofBytes?_eq_some_iff.2 (by rw [String.toList_ofList])⟩

theorem isText_nil : isText [] = true :=
  isText_iff.2 ⟨[], rfl⟩

theorem isText_append {first second : List UInt8} (text : isText first = true) (text' : isText second = true) :
    isText (first ++ second) = true := by
  obtain ⟨chars, rfl⟩ := isText_iff.1 text
  obtain ⟨more, rfl⟩ := isText_iff.1 text'
  exact isText_iff.2 ⟨chars ++ more, (encode_append chars more).symm⟩

/-- Nothing but texts stand on both sides of a byte below 128. -/
theorem isText_around {before after : List UInt8} {byte : UInt8} (ascii : byte.toNat < 128)
    (text : isText (before ++ byte :: after) = true) : isText before = true ∧ isText after = true := by
  obtain ⟨chars, same⟩ := isText_iff.1 text
  obtain ⟨earlier, c, later, -, rfl, -, rfl⟩ := encode_eq_around ascii same.symm
  exact ⟨isText_iff.2 ⟨earlier, rfl⟩, isText_iff.2 ⟨later, rfl⟩⟩

/-! ### Lines -/

theorem isEnded_iff {line : List UInt8} : isEnded line = true ↔ ∃ body, line = body ++ [newline] := by
  rw [isEnded, beq_iff_eq, List.getLast?_eq_some_iff]

theorem isText_of_ended {first second : List UInt8} (ended : isEnded first = true)
    (text : isText (first ++ second) = true) : isText first = true ∧ isText second = true := by
  obtain ⟨body, rfl⟩ := isEnded_iff.1 ended
  have ascii : newline.toNat < 128 := by decide
  obtain ⟨before, after⟩ := isText_around ascii (List.append_assoc body [newline] second ▸ text)
  refine ⟨isText_append before (isText_iff.2 ⟨['\n'], rfl⟩), after⟩

theorem isText_withoutEnd {line : List UInt8} (text : isText line = true) : isText (withoutEnd line) = true := by
  have last (byte : UInt8) (after : List UInt8) (ascii : byte.toNat < 128) {body : List UInt8}
      (same : line.reverse = after.reverse ++ byte :: body) : isText body.reverse = true := by
    rw [List.reverse_eq_iff] at same
    simp only [List.reverse_append, List.reverse_cons, List.reverse_reverse, List.append_assoc, List.singleton_append]
      at same
    exact (isText_around ascii (same ▸ text)).1
  unfold withoutEnd
  split
  next rest same => exact last 0x0D [newline] (by decide) same
  next rest _ same => exact last newline [] (by decide) same
  next => exact text

theorem withoutEnd_of_notMem {line : List UInt8} (whole : newline ∉ line) : withoutEnd line = line := by
  have ends {rest : List UInt8} (same : line.reverse = newline :: rest) : newline ∈ line :=
    List.mem_reverse.1 (same ▸ List.mem_cons_self)
  unfold withoutEnd
  split
  next same => exact absurd (ends same) whole
  next same => exact absurd (ends same) whole
  next => rfl

/-- The end of a line is a newline, with the carriage return before it if there is one. -/
theorem withoutEnd_encode (chars : List Char) :
    ∃ shorter, withoutEnd (encode chars ++ [newline]) = encode shorter ∧ (shorter = chars ∨ chars = shorter ++ ['\r']) := by
  have turned : (encode chars ++ [newline]).reverse = newline :: (encode chars).reverse := List.reverse_concat ..
  unfold withoutEnd
  split
  next rest same =>
    have last : encode chars = rest.reverse ++ 0x0D :: [] := by
      have back := (List.cons.inj (turned.symm.trans same)).2
      rw [List.reverse_eq_iff, List.reverse_cons] at back
      exact back
    obtain ⟨earlier, c, later, rfl, body, alone, none⟩ := encode_eq_around (by decide) last
    refine ⟨earlier, body.symm, .inr (encode_injective ?_)⟩
    rw [last, encode_append, body]
    rfl
  next rest _ same =>
    refine ⟨chars, ?_, .inl rfl⟩
    rw [← (List.cons.inj (turned.symm.trans same)).2, List.reverse_reverse]
  next open_ => exact absurd turned (open_ _)

/-- A line is read if and only if it encodes a text, its end included. -/
theorem ofLine_eq (line : List UInt8) :
    (ofLine line).toOption = if isText line = true then ofBytes? (withoutEnd line) else none := by
  unfold ofLine
  cases found : ofBytes? line with
  | none => simp [isText, found, Except.toOption]
  | some whole =>
    have text : isText line = true := by simp [isText, found]
    obtain ⟨rest, found'⟩ := Option.isSome_iff_exists.1 (isText_withoutEnd text)
    simp [text, found', Except.toOption]

/-- Where a stream is cut, a line ends: the one before the cut is ended, or one of the parts is empty. -/
def LineEnds (first second : List UInt8) : Prop :=
  first = [] ∨ second = [] ∨ isEnded first = true

theorem lines_eq_nil_iff {stream : List UInt8} : lines stream = [] ↔ stream = [] := by
  constructor
  · intro none
    rw [← flatten_lines stream, none, List.flatten_nil]
  · rintro rfl
    rfl

/-- Without a line end, but for the last byte, a stream is one line. -/
theorem lines_eq_singleton {line : List UInt8} (occupied : line ≠ []) (whole : newline ∉ line.dropLast) :
    lines line = [line] := by
  induction line with
  | nil => exact absurd rfl occupied
  | cons byte rest ih =>
    by_cases last : rest = []
    · subst last
      by_cases same : byte = newline <;> simp [lines, same]
    · rw [List.dropLast_cons_of_ne_nil last, List.mem_cons, not_or] at whole
      simp [lines, Ne.symm whole.1, ih last whole.2]

theorem lines_append_of_ended {first : List UInt8} (ended : isEnded first = true) (second : List UInt8) :
    lines (first ++ second) = lines first ++ lines second := by
  induction first with
  | nil => cases ended
  | cons byte rest ih =>
    by_cases last : rest = []
    · subst last
      have same : byte = newline := by simpa [isEnded] using ended
      simp [lines, same]
    · have further : isEnded rest = true := by
        rwa [isEnded, List.getLast?_cons_of_ne_nil last] at ended
      by_cases same : byte = newline
      · simp [lines, same, ih further]
      · obtain ⟨line, later, found⟩ := List.exists_cons_of_ne_nil (mt lines_eq_nil_iff.1 last)
        simp [lines, same, ih further, found]

theorem lines_append {first second : List UInt8} (cut : LineEnds first second) :
    lines (first ++ second) = lines first ++ lines second := by
  rcases cut with rfl | rfl | ended
  · rfl
  · rw [List.append_nil, lines, List.append_nil]
  · exact lines_append_of_ended ended second

theorem isText_of_lineEnds {first second : List UInt8} (cut : LineEnds first second)
    (text : isText (first ++ second) = true) : isText first = true ∧ isText second = true := by
  rcases cut with rfl | rfl | ended
  · exact ⟨isText_nil, text⟩
  · exact ⟨List.append_nil first ▸ text, isText_nil⟩
  · exact isText_of_ended ended text

theorem isEnded_cons {line : List UInt8} (ended : isEnded line = true) (byte : UInt8) :
    isEnded (byte :: line) = true := by
  obtain ⟨body, rfl⟩ := isEnded_iff.1 ended
  exact isEnded_iff.2 ⟨byte :: body, rfl⟩

/-- All lines but the last are ended, and what follows a line is cut into the same lines on its own. -/
theorem lines_eq_cons {stream line : List UInt8} {later : List (List UInt8)} (found : lines stream = line :: later) :
    lines later.flatten = later ∧ (later = [] ∨ isEnded line = true) := by
  induction stream generalizing line with
  | nil => cases found
  | cons byte rest ih =>
    unfold lines at found
    split at found
    next same =>
      obtain ⟨rfl, rfl⟩ := List.cons.inj found
      rw [flatten_lines]
      exact ⟨rfl, .inr (isEnded_iff.2 ⟨[], by rw [same, List.nil_append]⟩)⟩
    next =>
      split at found
      next =>
        obtain ⟨rfl, rfl⟩ := List.cons.inj found
        exact ⟨rfl, .inl rfl⟩
      next more =>
        obtain ⟨rfl, rfl⟩ := List.cons.inj found
        exact (ih more).imp_right (Or.imp_right (fun ended => isEnded_cons ended byte))

/-- Bytes encode a text if and only if all of their lines do. -/
theorem isText_iff_lines {stream : List UInt8} : isText stream = true ↔ ∀ line ∈ lines stream, isText line = true := by
  generalize found : lines stream = all
  induction all generalizing stream with
  | nil =>
    rw [lines_eq_nil_iff.1 found]
    exact iff_of_true isText_nil (List.forall_mem_nil _)
  | cons line later ih =>
    obtain ⟨same, last⟩ := lines_eq_cons found
    have cut : LineEnds line later.flatten := .inr (last.imp_left (congrArg List.flatten))
    have whole : stream = line ++ later.flatten := by rw [← flatten_lines stream, found, List.flatten_cons]
    rw [List.forall_mem_cons, ← ih same, whole]
    exact ⟨isText_of_lineEnds cut, fun ⟨text, text'⟩ => isText_append text text'⟩

end VipKeeper.Text
