import VipKeeper.Document.Value
import VipKeeper.Yaml.Document

/-! The one text in which a document tree is written as YAML.

Collections are in block style, two spaces deep in mappings, with the dashes of a list under the first letter
of its key. A text is plain if it reads back as the same text; otherwise it is quoted, or a literal block if
it has several lines. -/

namespace VipKeeper.Yaml

/-! ### Texts that would read as something else -/

/-- An integer with a minus sign, not below a bound. -/
def isNegativeWord (bound : Nat) (text : List Char) : Bool :=
  match text with
  | '-' :: unsigned =>
    let (base, digits) := baseOf unsigned
    !digits.isEmpty && digits.all (Address.isDigit base) && !(base == 10 && isPadded digits) &&
      decide (Address.digitsValue base digits ≤ bound)
  | _ => false

def isIntegerWord (text : List Char) : Bool :=
  (naturalOfWord? (Nat.pow 2 128) text).isSome || isNegativeWord (Nat.pow 2 127) text

/-- Digits of which the first is a zero too many, with or without a sign. -/
def isPaddedWord (text : List Char) : Bool :=
  let digits := match text with
    | '-' :: rest | '+' :: rest => rest
    | _ => text
  isPadded digits && digits.all (Address.isDigit 10)

/-- Whether a decimal number `m * 10 ^ e` is below the range of binary floating point numbers. -/
def isFiniteDecimal (digits : List Char) (exponent : Int) : Bool :=
  let digits := digits.dropWhile (· == '0')
  let size := exponent + digits.length
  if digits.isEmpty || size < 300 then true
  else if 310 < size then false
  else
    let value := Address.digitsValue 10 digits
    let limit := Nat.pow 2 1024 - Nat.pow 2 970
    if exponent < 0 then decide (value < limit * Nat.pow 10 exponent.natAbs)
    else decide (value * Nat.pow 10 exponent.natAbs < limit)

/-- The exponent of a number, which may be left out. -/
def exponentOf? (text : List Char) : Option Int :=
  match text with
  | [] => some 0
  | mark :: rest =>
    if mark == 'e' || mark == 'E' then
      let (negative, digits) := match rest with
        | '-' :: digits => (true, digits)
        | '+' :: digits => (false, digits)
        | _ => (false, rest)
      if digits.isEmpty || !digits.all (Address.isDigit 10) then none
      else
        let value : Int := Address.digitsValue 10 digits
        some (if negative then -value else value)
    else none

/-- A decimal number with a point or an exponent, or both or none, that is finite. -/
def isDecimalWord (unsigned : List Char) : Bool :=
  let whole := unsigned.takeWhile (Address.isDigit 10)
  let rest := unsigned.dropWhile (Address.isDigit 10)
  let (fraction, rest) := match rest with
    | '.' :: rest => (rest.takeWhile (Address.isDigit 10), rest.dropWhile (Address.isDigit 10))
    | _ => ([], rest)
  match exponentOf? rest with
  | some exponent =>
    !(whole.isEmpty && fraction.isEmpty) && isFiniteDecimal (whole ++ fraction) (exponent - fraction.length)
  | none => false

def isFloatWord (text : String) : Bool :=
  [".inf", ".Inf", ".INF", "+.inf", "+.Inf", "+.INF", "-.inf", "-.Inf", "-.INF", ".nan", ".NaN",
    ".NAN"].contains text ||
  isDecimalWord (match text.toList with
    | '+' :: rest | '-' :: rest => rest
    | unsigned => unsigned)

/-- Whether a plain scalar of this text would be more than a text. -/
def isOtherWord (text : String) : Bool :=
  text.isEmpty || isNullWord text || (flagOfWord? text).isSome || isIntegerWord text.toList ||
  isPaddedWord text.toList || isFloatWord text

/-! ### What a text admits -/

/-- Whether a character may stand in a scalar as itself. -/
def isPrintable (c : Char) : Bool :=
  let code := c.toNat
  code == 0x0A || (decide (0x20 ≤ code) && decide (code ≤ 0x7E)) ||
  (decide (0xA0 ≤ code) && code != 0xFEFF && code != 0xFFFE && code != 0xFFFF)

def isGapChar (c : Char) : Bool :=
  c == ' ' || c == '\t' || isLineBreak c

def hasPair (first second : Char → Bool) : List Char → Bool
  | a :: b :: rest => (first a && second b) || hasPair first second (b :: rest)
  | _ => false

def endsIn (p : Char → Bool) (text : List Char) : Bool :=
  match text.getLast? with
  | some c => p c
  | none => false

def beginsWith (p : Char → Bool) : List Char → Bool
  | c :: _ => p c
  | [] => false

/-- Whether a plain scalar of this text would begin with an indicator, or hold one. -/
def hasIndicator (text : List Char) : Bool :=
  let gapNext := match text with
    | _ :: next :: _ => isGapChar next
    | _ => true
  text.take 3 == "---".toList || text.take 3 == "...".toList ||
  beginsWith (fun c => "#,[]\x7b\x7d&*!|>'\"%@\x60".toList.contains c) text ||
  (beginsWith (fun c => c == '?' || c == ':' || c == '-') text && gapNext) ||
  hasPair (· == ':') isGapChar text || endsIn (· == ':') text || hasPair isGapChar (· == '#') text

/-- A blank beside a line break would not survive folding. -/
def hasBlankBeforeBreak (text : List Char) : Bool :=
  hasPair (· == ' ') isLineBreak text

def admitsPlain (text : List Char) : Bool :=
  !hasIndicator text && text.all isPrintable && !text.any isLineBreak &&
  !beginsWith (· == ' ') text && !endsIn (· == ' ') text

def admitsSingle (text : List Char) : Bool :=
  text.all isPrintable && !hasBlankBeforeBreak text && !hasPair isLineBreak (· == ' ') text

def admitsLiteral (text : List Char) : Bool :=
  text.all isPrintable && !hasBlankBeforeBreak text && !endsIn (· == ' ') text && !text.isEmpty

/-! ### Scalars -/

def pad (width : Nat) : List Char :=
  List.replicate width ' '

/-- Indents every line but the first, and that too if asked; empty lines stay empty. -/
def indentLines (width : Nat) (atStart : Bool) : List Char → List Char
  | [] => []
  | c :: rest =>
    if isLineBreak c then c :: indentLines width true rest
    else (if atStart then pad width else []) ++ c :: indentLines width false rest

def singleQuoted (width : Nat) (text : List Char) : List Char :=
  let body := indentLines width false (text.flatMap (fun c => if c == '\'' then ['\'', '\''] else [c]))
  '\'' :: body ++ (if endsIn isLineBreak text then pad width else []) ++ ['\'']

def upperHex (width : Nat) (code : Nat) : List Char :=
  let digits := (Nat.toDigits 16 code).map Char.toUpper
  List.replicate (width - digits.length) '0' ++ digits

def escaped (c : Char) : List Char :=
  let code := c.toNat
  if c == '"' || c == '\\' then ['\\', c]
  else if isPrintable c && !isLineBreak c then [c]
  else '\\' :: match code with
    | 0x00 => ['0']
    | 0x07 => ['a']
    | 0x08 => ['b']
    | 0x09 => ['t']
    | 0x0A => ['n']
    | 0x0B => ['v']
    | 0x0C => ['f']
    | 0x0D => ['r']
    | 0x1B => ['e']
    | 0x85 => ['N']
    | 0x2028 => ['L']
    | 0x2029 => ['P']
    | _ =>
      if code ≤ 0xFF then 'x' :: upperHex 2 code
      else if code ≤ 0xFFFF then 'u' :: upperHex 4 code
      else 'U' :: upperHex 8 code

def doubleQuoted (text : List Char) : List Char :=
  '"' :: text.flatMap escaped ++ ['"']

/-- A literal block tells its indentation if its first line would hide it, and what becomes of its last line
breaks unless there is exactly one. -/
def literal (width : Nat) (text : List Char) : List Char :=
  let hint := if beginsWith (fun c => c == ' ' || isLineBreak c) text then ['2'] else []
  let chomping := match text.reverse with
    | [] => ['-']
    | last :: before =>
      if !isLineBreak last then ['-']
      else if before.isEmpty || beginsWith isLineBreak before then ['+'] else []
  '|' :: hint ++ chomping ++ '\n' :: indentLines width true text

/-- A text as a scalar whose later lines have an indentation. A key is written on one line. -/
def scalar (isKey : Bool) (width : Nat) (text : String) : List Char :=
  let chars := text.toList
  if chars.contains '\n' then
    if admitsLiteral chars && !isKey then literal width chars else doubleQuoted chars
  else if !isOtherWord text && admitsPlain chars then chars
  else if admitsSingle chars then singleQuoted width chars
  else doubleQuoted chars

/-- Ends the line unless it is ended. -/
def endLine (text : List Char) : List Char :=
  if endsIn isLineBreak text then text else text ++ ['\n']

/-- The longest key that stands on one line with its value, in bytes. -/
def longestKey : Nat := 128

def isSimpleKey (key : String) : Bool :=
  !key.toList.any isLineBreak && decide (key.utf8ByteSize ≤ longestKey)

/-- A key and the colon after it. A key with several lines, or too long a one, is marked as a key. -/
def keyText (depth : Nat) (key : String) : List Char :=
  if isSimpleKey key then pad depth ++ scalar true (depth + 2) key ++ [':']
  else pad depth ++ '?' :: ' ' :: endLine (scalar false (depth + 2) key) ++ pad depth ++ [':']

/-! ### Collections -/

mutual

/-- What follows a key or a dash: the value, and line breaks as they are needed. -/
def afterMark (depth : Nat) : Value → List Char
  | .null => " null\n".toList
  | .flag holds => (if holds then " true\n" else " false\n").toList
  | .natural n => ' ' :: Nat.toDigits 10 n ++ ['\n']
  | .otherNumber => " .nan\n".toList
  | .text content => ' ' :: endLine (scalar false (depth + 2) content)
  | .list [] => " []\n".toList
  | .record [] => " \x7b\x7d\n".toList
  | .list (item :: rest) => '\n' :: listText depth (item :: rest)
  | .record (member :: rest) => '\n' :: recordText (depth + 2) (member :: rest)

def recordText (depth : Nat) : List (String × Value) → List Char
  | [] => []
  | (key, value) :: rest => keyText depth key ++ afterMark depth value ++ recordText depth rest

/-- A collection that is an item of a list begins on the line of its dash. -/
def listText (depth : Nat) : List Value → List Char
  | [] => []
  | .list (item :: items) :: rest =>
    pad depth ++ '-' :: ' ' :: (listText (depth + 2) (item :: items)).drop (depth + 2) ++ listText depth rest
  | .record (member :: members) :: rest =>
    pad depth ++ '-' :: ' ' :: (recordText (depth + 2) (member :: members)).drop (depth + 2) ++
      listText depth rest
  | item :: rest => pad depth ++ '-' :: afterMark depth item ++ listText depth rest

end

/-- The text of a document. -/
def text (value : Value) : String :=
  String.ofList (match value with
    | .record (member :: members) => recordText 0 (member :: members)
    | .list (item :: items) => listText 0 (item :: items)
    | other => (afterMark 0 other).drop 1)

end VipKeeper.Yaml
