/-! Decimal numerals. -/

namespace VipKeeper.Text

def digits? (text : List Char) : Option Nat :=
  if text.isEmpty || !text.all Char.isDigit then none
  else some (text.foldl (fun n c => 10 * n + (c.toNat - '0'.toNat)) 0)

/-- Reads a numeral that may have a plus sign. -/
def natural? : List Char → Option Nat
  | '+' :: text => digits? text
  | text => digits? text

/-- Reads a numeral that may have either sign. -/
def integer? : List Char → Option Int
  | '-' :: text => (digits? text).map (fun n => -(n : Int))
  | text => (natural? text).map Int.ofNat

end VipKeeper.Text
