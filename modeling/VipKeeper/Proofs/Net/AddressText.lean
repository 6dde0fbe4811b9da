import VipKeeper.Proofs.Net.Numerals

/-! The text of an address is read as that address, so that different addresses have different texts. -/

namespace VipKeeper.Address

/-! ### Version 4 -/

theorem readOctet_decimal (octet : UInt8) {rest : List Char} (ends : NoDigit 10 rest) :
    readOctet (decimal octet.toNat ++ rest) = some (octet, rest) := by
  have small : octet.toNat < 256 := octet.toNat_lt
  have leading : ¬ ((decimal octet.toNat).head? = some '0' ∧ 1 < (decimal octet.toNat).length) := by
    rintro ⟨zero, long⟩
    by_cases positive : 0 < octet.toNat
    · exact head?_toDigits (by decide) positive zero
    · rw [Nat.eq_zero_of_not_pos positive] at long
      exact absurd long (by decide)
  have value : digitsValue 10 (decimal octet.toNat) = octet.toNat := digitsValue_toDigits (by decide) (by decide) _
  have fits : (decimal octet.toNat).length ≤ 3 :=
    (Nat.length_toDigits_le_iff (by decide) (by decide)).2 (by omega)
  have read : readNumber 10 3 (decimal octet.toNat ++ rest) = some (decimal octet.toNat, rest) :=
    readNumber_toDigits (by decide) (by decide) fits ends
  rw [readOctet, read]
  simp only [value]
  rw [if_neg (by simp; grind)]
  simp

theorem readDotted_dotted (a b c d : UInt8) {rest : List Char} (ends : NoDigit 10 rest) :
    readDotted (dotted a b c d ++ rest) = some ((a, b, c, d), rest) := by
  have point (more : List Char) : NoDigit 10 ('.' :: more) := .cons (by decide)
  simp only [readDotted, dotted, List.append_assoc, List.cons_append]
  simp [readOctet_decimal, point, ends, skip]

theorem readDotted_whole (a b c d : UInt8) : readDotted (dotted a b c d) = some ((a, b, c, d), []) := by
  have read := readDotted_dotted a b c d .nil
  rwa [List.append_nil] at read

theorem rest_of_readNumber {base most : Nat} {text digits rest : List Char}
    (read : readNumber base most text = some (digits, rest)) : rest = text.dropWhile (isDigit base) := by
  unfold readNumber at read
  dsimp only at read
  split at read <;> cases read
  rfl

theorem rest_of_readOctet {text rest : List Char} {octet : UInt8} (read : readOctet text = some (octet, rest)) :
    rest = text.dropWhile (isDigit 10) := by
  unfold readOctet at read
  split at read
  next => cases read
  next digits after number =>
    dsimp only at read
    split at read <;> cases read
    exact rest_of_readNumber number

/-- A text that is read as a dotted address has a point behind its first digits. -/
theorem readDotted_eq_none {text : List Char} (other : (text.dropWhile (isDigit 10)).head? ≠ some '.') :
    readDotted text = none := by
  rw [readDotted]
  cases octet : readOctet text with
  | none => rfl
  | some read =>
    have stops : skip '.' read.2 = none := by
      rw [rest_of_readOctet octet]
      cases shape : text.dropWhile (isDigit 10) with
      | nil => rfl
      | cons c more =>
        rw [shape] at other
        exact if_neg (fun same => other (congrArg some same))
    simp [stops]

/-! ### Groups of version 6 -/

theorem joined_halves (group : UInt16) : joined (group >>> 8).toUInt8 group.toUInt8 = group := by
  have bound : group.toNat < 65536 := group.toNat_lt
  have halves : (joined (group >>> 8).toUInt8 group.toUInt8).toNat =
      group.toNat / 256 % 256 * 256 % 65536 ||| group.toNat % 256 := by
    simp [joined, Nat.shiftLeft_eq, Nat.shiftRight_eq_div_pow]
  have high : group.toNat / 256 % 256 * 256 % 65536 = 2 ^ 8 * (group.toNat / 256) := by omega
  have low : group.toNat % 256 < 2 ^ 8 := by omega
  apply UInt16.toNat_inj.1
  rw [halves, high, ← Nat.two_pow_add_eq_or_of_lt low]
  omega

def groupChars (group : UInt16) : List Char :=
  Nat.toDigits 16 group.toNat

/-- Groups of which each has a colon before it. -/
def following (groups : List UInt16) : List Char :=
  groups.flatMap (fun group => ':' :: groupChars group)

theorem colonned_cons (first : UInt16) (rest : List UInt16) :
    colonned (first :: rest) = groupChars first ++ following rest := by
  induction rest generalizing first with
  | nil => simp [colonned, following, groupChars]
  | cons next rest ih =>
    have later := ih next
    simp only [colonned, List.map_cons] at later ⊢
    rw [List.intercalate_cons_cons, later]
    simp [following, groupChars]

theorem isDigit_of_mem_groupChars {group : UInt16} {c : Char} (inside : c ∈ groupChars group) : isDigit 16 c = true :=
  isDigit_of_mem_toDigits (by decide) (by decide) inside

/-- Behind a group stands the end of the text or a colon. -/
def Parted (text : List Char) : Prop :=
  text = [] ∨ ∃ more, text = ':' :: more

theorem Parted.noDigit {text : List Char} (parted : Parted text) (base : Nat) : NoDigit base text := by
  rcases parted with rfl | ⟨more, rfl⟩
  · exact .nil
  · exact .cons (by simp [isDigit, digit?])

theorem readDotted_parted {text : List Char} (parted : Parted text) : readDotted text = none := by
  apply readDotted_eq_none
  rw [(parted.noDigit 10).dropWhile]
  rcases parted with rfl | ⟨more, rfl⟩ <;> simp

theorem readGroup_groupChars (group : UInt16) {rest : List Char} (parted : Parted rest) :
    readGroup (groupChars group ++ rest) = some (group, rest) := by
  have fits : (groupChars group).length ≤ 4 := (Nat.length_toDigits_le_iff (by decide) (by decide)).2 group.toNat_lt
  rw [readGroup, groupChars, readNumber_toDigits (by decide) (by decide) fits (parted.noDigit 16)]
  simp [digitsValue_toDigits]

/-- A group is not taken for the beginning of a dotted address. -/
theorem readDotted_groupChars (group : UInt16) {rest : List Char} (parted : Parted rest) :
    readDotted (groupChars group ++ rest) = none := by
  apply readDotted_eq_none
  rw [List.dropWhile_append]
  -- A group may consist of decimal digits alone, and then what stands behind it decides.
  split
  · rw [(parted.noDigit 10).dropWhile]
    rcases parted with rfl | ⟨more, rfl⟩ <;> simp
  next left =>
    cases shape : (groupChars group).dropWhile (isDigit 10) with
    | nil => simp [shape] at left
    | cons c more =>
      have inside : c ∈ groupChars group := List.dropWhile_subset _ (shape ▸ List.mem_cons_self)
      rintro ⟨⟩
      exact absurd (isDigit_of_mem_groupChars inside) (by decide)

/-- Behind the last group of a row stands the end of the text or a gap. -/
def Ended (text : List Char) : Prop :=
  text = [] ∨ ∃ more, text = ':' :: ':' :: more

theorem Ended.parted {text : List Char} (ended : Ended text) : Parted text := by
  rcases ended with rfl | ⟨more, rfl⟩
  · exact .inl rfl
  · exact .inr ⟨_, rfl⟩

theorem parted_following (groups : List UInt16) {rest : List Char} (ended : Ended rest) :
    Parted (following groups ++ rest) := by
  cases groups with
  | nil => exact ended.parted
  | cons group later => exact .inr ⟨_, rfl⟩

/-- What a group can be read from: the text, or what stands behind a colon. -/
def opened (leading : Bool) (text : List Char) : Option (List Char) :=
  if leading then some text else skip ':' text

theorem readGroups_stop {leading : Bool} {text : List Char}
    (stops : ∀ body, opened leading text = some body → Parted body) (limit : Nat) :
    readGroups limit leading text = ([], false, text) := by
  cases limit with
  | zero => rfl
  | succ limit =>
    rw [readGroups, ← opened]
    cases opens : opened leading text with
    | none => rfl
    | some body =>
      have parted := stops body opens
      have group : readGroup body = none := by
        rw [readGroup, readNumber_eq_none (parted.noDigit 16)]
        rfl
      simp [group, readDotted_parted parted]

theorem readGroups_group {leading : Bool} {text rest : List Char} {group : UInt16}
    (opens : opened leading text = some (groupChars group ++ rest)) (parted : Parted rest) (limit : Nat) :
    readGroups (limit + 1) leading text =
      (group :: (readGroups limit false rest).1, (readGroups limit false rest).2) := by
  rw [readGroups, ← opened, opens]
  simp [readDotted_groupChars group parted, readGroup_groupChars group parted]

theorem Ended.stops {text : List Char} (ended : Ended text) (leading : Bool) :
    ∀ body, opened leading text = some body → Parted body := by
  intro body opens
  rcases ended with rfl | ⟨more, rfl⟩
  · cases leading <;> cases opens
    exact .inl rfl
  · cases leading <;> cases opens <;> exact .inr ⟨_, rfl⟩

theorem readGroups_following (groups : List UInt16) {limit : Nat} (room : groups.length ≤ limit) {rest : List Char}
    (ended : Ended rest) : readGroups limit false (following groups ++ rest) = (groups, false, rest) := by
  induction groups generalizing limit with
  | nil => exact readGroups_stop (ended.stops false) limit
  | cons group later ih =>
    obtain ⟨less, rfl⟩ : ∃ less, limit = less + 1 := ⟨limit - 1, by simp at room; omega⟩
    have opens : opened false (following (group :: later) ++ rest) =
        some (groupChars group ++ (following later ++ rest)) := by
      simp [opened, following, skip]
    rw [readGroups_group opens (parted_following later ended), ih (by simpa using room)]

theorem readGroups_colonned (groups : List UInt16) {limit : Nat} (room : groups.length ≤ limit) {rest : List Char}
    (ended : Ended rest) : readGroups limit true (colonned groups ++ rest) = (groups, false, rest) := by
  cases groups with
  | nil => exact readGroups_stop (ended.stops true) limit
  | cons group later =>
    obtain ⟨less, rfl⟩ : ∃ less, limit = less + 1 := ⟨limit - 1, by simp at room; omega⟩
    have opens : opened true (colonned (group :: later) ++ rest) =
        some (groupChars group ++ (following later ++ rest)) := by
      simp [opened, colonned_cons]
    rw [readGroups_group opens (parted_following later ended), readGroups_following later (by simpa using room) ended]

theorem readGroups_whole (groups : List UInt16) {limit : Nat} (room : groups.length ≤ limit) :
    readGroups limit true (colonned groups) = (groups, false, []) := by
  have read := readGroups_colonned groups room (.inl rfl)
  rwa [List.append_nil] at read

/-! ### The gap -/

/-- A row of zero groups from a place on. -/
def Zeros (groups : List UInt16) (run : Nat × Nat) : Prop :=
  run.2 ≤ ((groups.drop run.1).takeWhile (· == 0)).length

theorem zeros_longestZeros (groups : List UInt16) : Zeros groups (longestZeros groups) := by
  have kept (starts : List Nat) (best : Nat × Nat) (zeros : Zeros groups best) :
      Zeros groups (starts.foldl (fun best start =>
        let length := ((groups.drop start).takeWhile (· == 0)).length
        if best.2 < length then (start, length) else best) best) := by
    induction starts generalizing best with
    | nil => exact zeros
    | cons start rest ih =>
      apply ih
      dsimp only
      split
      · exact Nat.le_refl _
      · exact zeros
  exact kept _ _ (Nat.zero_le _)

theorem take_zeros {groups : List UInt16} {count : Nat} (row : count ≤ (groups.takeWhile (· == 0)).length) :
    groups.take count = List.replicate count 0 := by
  induction groups generalizing count with
  | nil =>
    have none : count = 0 := by simpa using row
    simp [none]
  | cons group rest ih =>
    cases count with
    | zero => rfl
    | succ count =>
      by_cases zero : group = 0
      · have more : count ≤ (rest.takeWhile (· == 0)).length := by simpa [zero] using row
        simp [zero, ih more, List.replicate_succ]
      · simp [zero] at row

/-- The groups around a row of zeros are all that has to be written. -/
theorem Zeros.split {groups : List UInt16} {run : Nat × Nat} (zeros : Zeros groups run) :
    groups = groups.take run.1 ++ List.replicate run.2 0 ++ groups.drop (run.1 + run.2) := by
  have row : (groups.drop run.1).take run.2 = List.replicate run.2 0 := take_zeros zeros
  rw [← row, List.append_assoc, ← List.drop_drop, List.take_append_drop, List.take_append_drop]

theorem readGroups_dotted (limit : Nat) (a b c d : UInt8) :
    readGroups (limit + 2) false (':' :: dotted a b c d) = ([joined a b, joined c d], true, []) := by
  simp [readGroups, skip, readDotted_whole]

theorem toList_of_mapped? {groups : List UInt16} {high low : UInt16} (mapped : mapped? groups = some (high, low)) :
    groups = [0, 0, 0, 0, 0, 0xFFFF, high, low] := by
  unfold mapped? at mapped
  split at mapped <;> cases mapped
  rfl

/-- The groups in front of a gap and behind it are read, and the gap is filled. -/
theorem readCompressed_gap {front back : List UInt16} {count : Nat} (groups : Vector UInt16 8) (positive : 0 < count)
    (shape : groups.toList = front ++ List.replicate count 0 ++ back) :
    readCompressed (colonned front ++ ':' :: ':' :: colonned back) = some (groups, []) := by
  have total : front.length + count + back.length = 8 := by
    have length := congrArg List.length shape
    simp at length
    omega
  have first : readGroups 8 true (colonned front ++ ':' :: ':' :: colonned back) =
      (front, false, ':' :: ':' :: colonned back) :=
    readGroups_colonned front (by omega) (.inr ⟨colonned back, rfl⟩)
  have second : readGroups (7 - front.length) true (colonned back) = (back, false, []) :=
    readGroups_whole back (by omega)
  have missing : 8 - front.length - back.length = count := by omega
  rw [readCompressed, first]
  simp only [skip, ↓reduceIte, Bool.false_eq_true, Option.bind_eq_bind, Option.bind_some, second, missing]
  rw [dif_neg (by omega), dif_pos (by simp; omega)]
  exact congrArg (fun read => some (read, [])) (Vector.toList_inj.1 shape.symm)

theorem readCompressed_compressed (groups : Vector UInt16 8) :
    readCompressed (compressed groups.toList) = some (groups, []) := by
  unfold compressed
  cases mapped : mapped? groups.toList with
  | some halves =>
    obtain ⟨high, low⟩ := halves
    have shape := toList_of_mapped? mapped
    let last := dotted (high >>> 8).toUInt8 high.toUInt8 (low >>> 8).toUInt8 low.toUInt8
    have front : readGroups 8 true (':' :: ':' :: (groupChars 0xFFFF ++ ':' :: last)) =
        ([], false, ':' :: ':' :: (groupChars 0xFFFF ++ ':' :: last)) := by
      refine readGroups_stop (fun body opens => ?_) 8
      cases opens
      exact .inr ⟨_, rfl⟩
    have back : readGroups 7 true (groupChars 0xFFFF ++ ':' :: last) = ([0xFFFF, high, low], true, []) := by
      rw [readGroups_group rfl (.inr ⟨_, rfl⟩), readGroups_dotted, joined_halves, joined_halves]
    have written : "::ffff:".toList ++ last = ':' :: ':' :: (groupChars 0xFFFF ++ ':' :: last) := rfl
    dsimp only
    rw [written, readCompressed, front]
    simp [skip, back]
    exact Array.toList_inj.1 shape.symm
  | none =>
    dsimp only
    split
    next wide =>
      exact readCompressed_gap groups (by omega) (zeros_longestZeros groups.toList).split
    next narrow =>
      rw [readCompressed, readGroups_whole groups.toList (by simp)]
      simp only [Vector.length_toList, dif_pos]
      exact congrArg (fun read => some (read, [])) (Vector.toList_inj.1 rfl)

theorem readDotted_colonned (groups : List UInt16) {rest : List Char} (ended : Ended rest) :
    readDotted (colonned groups ++ rest) = none := by
  cases groups with
  | nil => exact readDotted_parted ended.parted
  | cons group later =>
    rw [colonned_cons, List.append_assoc]
    exact readDotted_groupChars group (parted_following later ended)

theorem readDotted_compressed (groups : List UInt16) : readDotted (compressed groups) = none := by
  unfold compressed
  split
  next => exact readDotted_parted (.inr ⟨_, rfl⟩)
  next =>
    dsimp only
    split
    next => exact readDotted_colonned _ (.inr ⟨_, rfl⟩)
    next => simpa using readDotted_colonned groups (.inl rfl)

/-! ### Both versions -/

theorem ofChars?_chars (address : Address) : ofChars? address.chars = some address := by
  cases address with
  | v4 a b c d =>
    simp [ofChars?, chars, readDotted_whole]
  | v6 groups =>
    simp [ofChars?, chars, readDotted_compressed, readCompressed_compressed]

theorem ofText?_text (address : Address) : ofText? address.text = some address := by
  rw [ofText?, text, String.toList_ofList, ofChars?_chars]

theorem text_injective {first second : Address} (same : first.text = second.text) : first = second := by
  have read := congrArg ofText? same
  rw [ofText?_text, ofText?_text] at read
  exact Option.some.inj read

/-! ### Characters -/

/-- A character of addresses. -/
def IsWritten (c : Char) : Prop :=
  isDigit 16 c = true ∨ c = '.' ∨ c = ':'

instance : DecidablePred IsWritten :=
  fun c => inferInstanceAs (Decidable (isDigit 16 c = true ∨ c = '.' ∨ c = ':'))

theorem isWritten_dotted {a b c d : UInt8} : ∀ letter ∈ dotted a b c d, IsWritten letter := by
  have octet (byte : UInt8) (letter : Char) (inside : letter ∈ decimal byte.toNat) : IsWritten letter :=
    .inl (isDigit_mono (by decide) (isDigit_of_mem_toDigits (by decide) (by decide) inside))
  intro letter inside
  simp only [dotted, List.mem_append, List.mem_cons] at inside
  rcases inside with ((inside | rfl | inside) | rfl | inside) | rfl | inside
  all_goals first | exact octet _ letter inside | exact .inr (.inl rfl)

theorem isWritten_colonned (groups : List UInt16) : ∀ letter ∈ colonned groups, IsWritten letter := by
  cases groups with
  | nil => simp [colonned]
  | cons first rest =>
    intro letter inside
    rw [colonned_cons, following, List.mem_append, List.mem_flatMap] at inside
    rcases inside with inside | ⟨group, -, inside⟩
    · exact .inl (isDigit_of_mem_groupChars inside)
    · rcases List.mem_cons.1 inside with rfl | inside
      · exact .inr (.inr rfl)
      · exact .inl (isDigit_of_mem_groupChars inside)

theorem isWritten_chars (address : Address) : ∀ letter ∈ address.chars, IsWritten letter := by
  cases address with
  | v4 a b c d => exact isWritten_dotted
  | v6 groups =>
    intro letter inside
    rw [chars, compressed] at inside
    split at inside
    next =>
      rcases List.mem_append.1 inside with front | last
      · have written : ("::ffff:".toList.all (fun letter => decide (IsWritten letter))) = true := by decide
        exact of_decide_eq_true (List.all_eq_true.1 written letter front)
      · exact isWritten_dotted letter last
    next =>
      dsimp only at inside
      split at inside
      next =>
        simp only [List.mem_append, List.mem_cons] at inside
        rcases inside with front | rfl | rfl | back
        · exact isWritten_colonned _ letter front
        · exact .inr (.inr rfl)
        · exact .inr (.inr rfl)
        · exact isWritten_colonned _ letter back
      next => exact isWritten_colonned _ letter inside

theorem chars_ne_nil (address : Address) : address.chars ≠ [] := by
  intro empty
  have read := ofChars?_chars address
  rw [empty] at read
  cases read

theorem not_mem_chars (address : Address) {c : Char} (other : ¬ IsWritten c) : c ∉ address.chars :=
  fun inside => other (isWritten_chars address c inside)

/-- A text with a character that is none of addresses is no address. -/
theorem chars_ne (address : Address) (c : Char) {text : List Char} (inside : c ∈ text) (other : ¬ IsWritten c) :
    address.chars ≠ text := by
  rintro rfl
  exact address.not_mem_chars other inside

theorem mapM_chars (addresses : List Address) : (addresses.map chars).mapM ofChars? = some addresses := by
  induction addresses with
  | nil => rfl
  | cons address rest ih => simp [ofChars?_chars, ih]

end VipKeeper.Address
