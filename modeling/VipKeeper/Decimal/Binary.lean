/-! Numbers of a fixed count of binary digits, and the nearest such number to a ratio. -/

namespace VipKeeper

/-- The number `digits · 2 ^ scale`. -/
structure Binary where
  digits : Nat
  scale : Int
  deriving DecidableEq

namespace Binary

def zero : Binary := ⟨0, 0⟩

/-- A ratio divided by a power of two. -/
def shifted (num den : Nat) (scale : Int) : Nat × Nat :=
  if 0 ≤ scale then (num, den * Nat.pow 2 scale.toNat) else (num * Nat.pow 2 (-scale).toNat, den)

/-- A quotient to the nearest whole number; a half goes to the even neighbour. -/
def roundedQuotient (num den : Nat) : Nat :=
  let whole := num / den
  let twice := 2 * (num % den)
  if den < twice ∨ (twice = den ∧ whole % 2 = 1) then whole + 1 else whole

/-- The number with a count of binary digits that is nearest to a ratio. -/
def nearest (count num den : Nat) : Binary :=
  if num = 0 then zero
  else
    let low : Int := (Nat.log2 num : Int) - (Nat.log2 den : Int) - (count : Int)
    let (lowNum, lowDen) := shifted num den low
    let scale := if Nat.pow 2 count ≤ lowNum / lowDen then low + 1 else low
    let (num, den) := shifted num den scale
    let digits := roundedQuotient num den
    if digits = Nat.pow 2 count then ⟨Nat.pow 2 (count - 1), scale + 1⟩ else ⟨digits, scale⟩

/-- The nearest number to a sum. -/
def sum (count : Nat) (a b : Binary) : Binary :=
  let low := min a.scale b.scale
  let digits := a.digits * Nat.pow 2 (a.scale - low).toNat + b.digits * Nat.pow 2 (b.scale - low).toNat
  let (den, num) := shifted 1 digits low
  nearest count num den

/-- The binary digits of a number of double precision. -/
def double : Nat := 53

/-- The binary digits of the numbers with which a decimal text is found. -/
def wide : Nat := 64

/-- The upper half of a product. -/
def product (a b : Binary) : Binary :=
  ⟨(a.digits * b.digits + Nat.pow 2 (wide - 1)) / Nat.pow 2 wide, a.scale + b.scale + wide⟩

/-- The nearest number to a power of ten. -/
def powerOfTen (exponent : Int) : Binary :=
  if 0 ≤ exponent then nearest wide (Nat.pow 10 exponent.toNat) 1 else nearest wide 1 (Nat.pow 10 (-exponent).toNat)

end Binary

end VipKeeper
