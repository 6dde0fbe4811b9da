import VipKeeper.Net.Address

/-! Numbers in the digits of a base, and the reading of such digits. -/

namespace VipKeeper.Address

variable {base n : Nat}

theorem digit?_digitChar {value : Nat} (bound : base ≤ 16) (small : value < base) :
    digit? base value.digitChar = some value := by
  have raw : ∀ value < 16, (if '0' ≤ value.digitChar ∧ value.digitChar ≤ '9' then
        some (value.digitChar.toNat - '0'.toNat)
      else if 'a' ≤ value.digitChar ∧ value.digitChar ≤ 'z' then some (value.digitChar.toNat - 'a'.toNat + 10)
      else if 'A' ≤ value.digitChar ∧ value.digitChar ≤ 'Z' then some (value.digitChar.toNat - 'A'.toNat + 10)
      else none) = some value := by decide
  rw [digit?, raw value (by omega)]
  simp [small]

theorem isDigit_digitChar {value : Nat} (bound : base ≤ 16) (small : value < base) :
    isDigit base value.digitChar = true := by
  rw [isDigit, digit?_digitChar bound small]
  rfl

/-- The digits of a base are digits of every larger one. -/
theorem isDigit_mono {other : Nat} (larger : base ≤ other) {c : Char} (digit : isDigit base c = true) :
    isDigit other c = true := by
  rw [isDigit, digit?, Option.isSome_filter, Option.any_eq_true] at digit ⊢
  obtain ⟨value, found, small⟩ := digit
  exact ⟨value, found, decide_eq_true (Nat.lt_of_lt_of_le (of_decide_eq_true small) larger)⟩

theorem digitsValue_concat (base : Nat) (digits : List Char) (last : Char) :
    digitsValue base (digits ++ [last]) = digitsValue base digits * base + (digit? base last).getD 0 := by
  rw [digitsValue, List.foldl_append]
  rfl

/-! ### The digits of a number -/

theorem isDigit_of_mem_toDigits (large : 1 < base) (bound : base ≤ 16) {c : Char} (inside : c ∈ Nat.toDigits base n) :
    isDigit base c = true := by
  induction n using Nat.strongRecOn with
  | ind n ih =>
    rw [Nat.toDigits_eq_if large] at inside
    split at inside
    next small =>
      rw [List.mem_singleton.1 inside]
      exact isDigit_digitChar bound small
    next above =>
      rcases List.mem_append.1 inside with before | last
      · exact ih (n / base) (Nat.div_lt_self (by omega) large) before
      · rw [List.mem_singleton.1 last]
        exact isDigit_digitChar bound (Nat.mod_lt n (by omega))

theorem digitsValue_toDigits (large : 1 < base) (bound : base ≤ 16) (n : Nat) :
    digitsValue base (Nat.toDigits base n) = n := by
  induction n using Nat.strongRecOn with
  | ind n ih =>
    rw [Nat.toDigits_eq_if large]
    split
    next small => simp [digitsValue, digit?_digitChar bound small]
    next above =>
      rw [digitsValue_concat, ih (n / base) (Nat.div_lt_self (by omega) large),
        digit?_digitChar bound (Nat.mod_lt n (by omega))]
      exact Nat.div_add_mod' n base

/-- Only the number zero begins with the digit zero. -/
theorem head?_toDigits (large : 1 < base) (positive : 0 < n) : (Nat.toDigits base n).head? ≠ some '0' := by
  induction n using Nat.strongRecOn with
  | ind n ih =>
    rw [Nat.toDigits_eq_if large]
    split
    next small => simpa using Nat.ne_of_gt positive
    next above =>
      have rest : 0 < n / base := Nat.div_pos (by omega) (by omega)
      have first := ih (n / base) (Nat.div_lt_self positive large) rest
      cases digits : Nat.toDigits base (n / base) with
      | nil => exact absurd digits Nat.toDigits_ne_nil
      | cons c more =>
        rw [digits] at first
        simpa using first

/-! ### Reading -/

/-- No digit of a base comes first. -/
def NoDigit (base : Nat) (text : List Char) : Prop :=
  ∀ c, text.head? = some c → isDigit base c = false

theorem NoDigit.nil : NoDigit base [] := by
  intro c found
  cases found

theorem NoDigit.cons {c : Char} {rest : List Char} (other : isDigit base c = false) : NoDigit base (c :: rest) := by
  rintro _ ⟨⟩
  exact other

theorem NoDigit.takeWhile {text : List Char} (ends : NoDigit base text) : text.takeWhile (isDigit base) = [] := by
  cases text with
  | nil => rfl
  | cons c rest => exact List.takeWhile_cons_of_neg (by simp [ends c rfl])

theorem NoDigit.dropWhile {text : List Char} (ends : NoDigit base text) : text.dropWhile (isDigit base) = text := by
  cases text with
  | nil => rfl
  | cons c rest => exact List.dropWhile_cons_of_neg (by simp [ends c rfl])

theorem readNumber_toDigits (large : 1 < base) (bound : base ≤ 16) {most : Nat}
    (fits : (Nat.toDigits base n).length ≤ most) {rest : List Char} (ends : NoDigit base rest) :
    readNumber base most (Nat.toDigits base n ++ rest) = some (Nat.toDigits base n, rest) := by
  have digits : ∀ c ∈ Nat.toDigits base n, isDigit base c = true := fun c => isDigit_of_mem_toDigits large bound
  have taken : (Nat.toDigits base n ++ rest).takeWhile (isDigit base) = Nat.toDigits base n := by
    rw [List.takeWhile_append_of_pos digits, ends.takeWhile, List.append_nil]
  have dropped : (Nat.toDigits base n ++ rest).dropWhile (isDigit base) = rest := by
    rw [List.dropWhile_append_of_pos digits, ends.dropWhile]
  rw [readNumber, taken, dropped]
  simp [Nat.toDigits_ne_nil, fits]

theorem readNumber_eq_none {text : List Char} {most : Nat} (ends : NoDigit base text) :
    readNumber base most text = none := by
  rw [readNumber, ends.takeWhile]
  rfl

end VipKeeper.Address
