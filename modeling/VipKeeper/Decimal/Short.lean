import VipKeeper.Decimal.Binary

/-! Short decimal texts of numbers of double precision.

All reals nearer to a number than to its neighbours are read back as that number. The upper end of this interval
is written digit by digit until the digits themselves lie in it. The calculation is in numbers of 64 binary
digits, and the interval is narrowed by their inaccuracy on both sides. -/

namespace VipKeeper.Decimal

/-- The number `digits · 10 ^ exponent`. -/
structure Short where
  digits : Nat
  exponent : Int
  deriving DecidableEq

/-- Digits below the point up to which the last digit is moved towards the number. -/
def mostAdjusted : Nat := 9

/-- The powers of ten that a number is scaled by are eight apart. -/
def powerStep : Int := 8

/-- The power of ten that brings a number of a scale to a whole part of at most ten digits. -/
def scalingExponent (scale : Int) : Int :=
  let least : Int := -(((61 + scale) * 30102999566398114) / 100000000000000000) + 347
  powerStep * (least / powerStep + 1) - 348

/-- Digits found so far, and how far what is left of the upper end reaches. All lengths are in the same unit:
the width of the interval, and the distance of the number from the upper end. -/
structure Search where
  digits : Nat
  left : Nat
  width : Nat
  distance : Nat

namespace Search

/-- Lowers the last digit as long as that brings it nearer to the number. -/
def approach (unit : Nat) : Nat → Search → Nat
  | 0, search => search.digits
  | steps + 1, search =>
    let lower := search.left + unit
    if search.left < search.distance ∧ lower ≤ search.width ∧
        (lower < search.distance ∨ lower - search.distance < search.distance - search.left) then
      approach unit steps { search with digits := search.digits - 1, left := lower }
    else search.digits

/-- The digits below the point. `places` tells how many are found, and `fuel` how many may still be. -/
def below (unit : Nat) (places : Nat) : Nat → Search → Nat × Nat
  | 0, search => (search.digits, places)
  | fuel + 1, search =>
    let left := 10 * search.left
    let found : Search := ⟨10 * search.digits + left / unit, left % unit, 10 * search.width, 10 * search.distance⟩
    let places := places + 1
    if found.left < found.width then
      (if places < mostAdjusted then found.approach unit 9 else found.digits, places)
    else below unit places fuel found

/-- The digits above the point, the next of which counts `10 ^ power`, and then those below it. -/
def above (unit : Nat) : Nat → Search → Nat × Int
  | 0, search =>
    let (digits, places) := search.below unit 0 (2 * Binary.wide)
    (digits, -(places : Int))
  | power + 1, search =>
    let weight := unit * Nat.pow 10 power
    let found := { search with digits := 10 * search.digits + search.left / weight, left := search.left % weight }
    if found.left ≤ found.width then (found.approach weight 9, power) else above unit power found

end Search

/-- The short decimal of a number other than zero. -/
def short (number : Binary) : Short :=
  let scale := number.scale - 11
  let lower := if number.digits = Nat.pow 2 (Binary.double - 1) then 4 * number.digits - 1 else 4 * number.digits - 2
  let exponent := scalingExponent scale
  let power := Binary.powerOfTen exponent
  let scaled (digits : Nat) : Binary := Binary.product ⟨digits, scale⟩ power
  let top := scaled ((2 * number.digits + 1) * Nat.pow 2 10)
  let bottom := scaled (lower * Nat.pow 2 9)
  let middle := scaled (number.digits * Nat.pow 2 11)
  let unit := Nat.pow 2 (-top.scale).toNat
  let upper := top.digits - 1
  let width := upper - (bottom.digits + 1)
  let (digits, places) := Search.above unit (Nat.toDigits 10 (upper / unit)).length
    ⟨0, upper, width, upper - middle.digits⟩
  ⟨digits, places - exponent⟩

namespace Short

/-- The digits above the point that are written out. -/
def mostPositional : Int := 21

/-- The zeros behind the point that are written out. -/
def mostZeros : Int := 5

def zeros (count : Int) : List Char :=
  List.replicate count.toNat '0'

/-- A number near one is written with a point, and one far from it with an exponent. -/
def text (number : Short) : String :=
  let digits := Nat.toDigits 10 number.digits
  let point : Int := digits.length + number.exponent
  String.ofList <|
    if 0 ≤ number.exponent ∧ point ≤ mostPositional then digits ++ zeros number.exponent ++ ['.', '0']
    else if 0 < point ∧ point ≤ mostPositional then digits.take point.toNat ++ '.' :: digits.drop point.toNat
    else if -mostZeros ≤ point ∧ point ≤ 0 then '0' :: '.' :: zeros (-point) ++ digits
    else
      let exponent := 'e' :: (toString (point - 1)).toList
      match digits with
      | [] | [_] => digits ++ exponent
      | first :: rest => first :: '.' :: rest ++ exponent

end Short

end Decimal

/-- The decimal text of a number of double precision. -/
def Binary.text (number : Binary) : String :=
  if number.digits = 0 then "0.0" else (Decimal.short number).text

end VipKeeper
