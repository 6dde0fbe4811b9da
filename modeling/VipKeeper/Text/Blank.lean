/-! White space in the sense of the Unicode property White_Space: trimming a text and cutting it into words. -/

namespace VipKeeper.Text

/-- The 25 characters with the property White_Space. -/
def isBlank (c : Char) : Bool :=
  let code := c.toNat
  (decide (0x09 ≤ code) && decide (code ≤ 0x0D)) || code == 0x20 || code == 0x85 || code == 0xA0 ||
  code == 0x1680 || (decide (0x2000 ≤ code) && decide (code ≤ 0x200A)) || code == 0x2028 ||
  code == 0x2029 || code == 0x202F || code == 0x205F || code == 0x3000

/-- Drops the leading and trailing characters of a class. -/
def trimBy (drop : Char → Bool) (text : List Char) : List Char :=
  ((text.dropWhile drop).reverse.dropWhile drop).reverse

/-- Drops white space at both ends. -/
def trim (text : String) : String :=
  String.ofList (trimBy isBlank text.toList)

/-- The longest parts without white space, in order. -/
def words (text : List Char) : List (List Char) :=
  (text.splitOnP isBlank).filter (fun word => !word.isEmpty)

/-- The 94 visible characters of ASCII. -/
def isVisibleAscii (c : Char) : Bool :=
  decide (0x21 ≤ c.toNat) && decide (c.toNat ≤ 0x7E)

end VipKeeper.Text
