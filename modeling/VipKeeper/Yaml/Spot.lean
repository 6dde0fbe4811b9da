/-! The characters of a YAML stream at their places.

Line breaks are made equal here: a carriage return, a line feed, both after each other and a next-line
character are all one line feed, while the two Unicode separators stay what they are. -/

namespace VipKeeper.Yaml

/-- A character with its place: how many characters of the stream come before it, and its column. -/
structure Spot where
  char : Char
  index : Nat
  line : Nat
  column : Nat

def byteOrderMark : Char := '\ufeff'

/-- Whether a character may occur in a stream at all. -/
def isAdmitted (c : Char) : Bool :=
  let code := c.toNat
  code == 0x09 || code == 0x0A || code == 0x0D || (decide (0x20 ≤ code) && decide (code ≤ 0x7E)) ||
  code == 0x85 || (decide (0xA0 ≤ code) && decide (code ≤ 0xD7FF)) ||
  (decide (0xE000 ≤ code) && decide (code ≤ 0xFFFD)) || decide (0x10000 ≤ code)

def isLineBreak (c : Char) : Bool :=
  c == '\n' || c == '\r' || c == '\u0085' || c == '\u2028' || c == '\u2029'

/-- What a line break counts as. -/
def breakChar (c : Char) : Char :=
  if c == '\u2028' || c == '\u2029' then c else '\n'

def place (index line column : Nat) : List Char → List Spot
  | [] => []
  | '\r' :: '\n' :: rest => ⟨'\n', index, line, column⟩ :: place (index + 2) (line + 1) 0 rest
  | c :: rest =>
    if isLineBreak c then ⟨breakChar c, index, line, column⟩ :: place (index + 1) (line + 1) 0 rest
    else ⟨c, index, line, column⟩ :: place (index + 1) line (column + 1) rest

/-- A byte order mark names the encoding of a stream and is no part of it; a second one is skipped. -/
def spots? (text : String) : Option (List Spot) :=
  let chars := match text.toList with
    | first :: rest => if first = byteOrderMark then rest else first :: rest
    | [] => []
  if chars.all isAdmitted then
    match chars with
    | first :: rest => if first = byteOrderMark then some (place 1 0 1 rest) else some (place 0 0 0 chars)
    | [] => some []
  else none

namespace Spot

def isBreak (spot : Spot) : Bool := isLineBreak spot.char

def isBlank (spot : Spot) : Bool := spot.char == ' ' || spot.char == '\t'

def isGap (spot : Spot) : Bool := spot.isBlank || spot.isBreak

end Spot

/-- Whether a word ends here: at white space or at the end of the stream. -/
def endsWord : List Spot → Bool
  | [] => true
  | spot :: _ => spot.isGap

def startsWith (c : Char) : List Spot → Bool
  | [] => false
  | spot :: _ => spot.char == c

/-- The characters of names: letters, digits, the hyphen and the underscore of ASCII. -/
def isNameChar (c : Char) : Bool :=
  c.isAlphanum || c == '-' || c == '_'

def chars (spots : List Spot) : List Char :=
  spots.map Spot.char

/-- Three hyphens or three periods as a word of their own at the start of a line. -/
def isMarker (c : Char) : List Spot → Bool
  | first :: second :: third :: rest =>
    first.column == 0 && first.char == c && second.char == c && third.char == c && endsWord rest
  | _ => false

def isAnyMarker (spots : List Spot) : Bool :=
  isMarker '-' spots || isMarker '.' spots

def skipBlanks (spots : List Spot) : List Spot :=
  spots.dropWhile Spot.isBlank

/-- Skips a comment up to the end of its line. -/
def skipComment (spots : List Spot) : List Spot :=
  if startsWith '#' spots then spots.dropWhile (fun spot => !spot.isBreak) else spots

end VipKeeper.Yaml
