/-! Lines of a byte stream, and the texts that bytes encode in UTF-8. -/

namespace VipKeeper.Text

/-! ### Lines -/

def newline : UInt8 := 0x0A

/-- The lines of a stream, each with its line end. The last one may lack it. -/
def lines : List UInt8 → List (List UInt8)
  | [] => []
  | byte :: rest =>
    if byte = newline then [byte] :: lines rest
    else match lines rest with
      | [] => [[byte]]
      | line :: later => (byte :: line) :: later

/-- No byte of a stream is lost or added. -/
theorem flatten_lines (bytes : List UInt8) : (lines bytes).flatten = bytes := by
  induction bytes with
  | nil => rfl
  | cons byte rest ih =>
    unfold lines
    split
    · simp [ih]
    · split
      next empty => simp [empty] at ih; simp [ih]
      next line later found => simp [found] at ih; simp [ih]

def isEnded (line : List UInt8) : Bool :=
  line.getLast? == some newline

/-- The end of a line is a newline, or a carriage return and a newline. -/
def withoutEnd (line : List UInt8) : List UInt8 :=
  match line.reverse with
  | 0x0A :: 0x0D :: rest => rest.reverse
  | 0x0A :: rest => rest.reverse
  | _ => line

/-! ### UTF-8 -/

/-- The text that bytes encode. -/
def ofBytes? (bytes : List UInt8) : Option String :=
  String.fromUTF8? ⟨bytes.toArray⟩

/-- What is wrong with bytes that encode no text: a sequence that cannot go on as it does, or one that the
bytes end in. The index is that of its first byte. -/
inductive Malformed where
  | invalid (length index : Nat)
  | incomplete (index : Nat)
  deriving DecidableEq

namespace Malformed

def message : Malformed → String
  | invalid length index =>
    "invalid utf-8 sequence of " ++ toString length ++ " bytes from index " ++ toString index
  | incomplete index => "incomplete utf-8 byte sequence from index " ++ toString index

end Malformed

/-- The ranges of the bytes that may follow a first byte; a byte that can come first nowhere has none. -/
def followers? (lead : UInt8) : Option (List (UInt8 × UInt8)) :=
  if lead < 0x80 then some []
  else if lead < 0xC2 then none
  else if lead < 0xE0 then some [(0x80, 0xBF)]
  else if lead = 0xE0 then some [(0xA0, 0xBF), (0x80, 0xBF)]
  else if lead = 0xED then some [(0x80, 0x9F), (0x80, 0xBF)]
  else if lead < 0xF0 then some [(0x80, 0xBF), (0x80, 0xBF)]
  else if lead = 0xF0 then some [(0x90, 0xBF), (0x80, 0xBF), (0x80, 0xBF)]
  else if lead < 0xF4 then some [(0x80, 0xBF), (0x80, 0xBF), (0x80, 0xBF)]
  else if lead = 0xF4 then some [(0x80, 0x8F), (0x80, 0xBF), (0x80, 0xBF)]
  else none

/-- Takes one byte for each range. Of bytes that do not fit the ranges it tells how many do. -/
def takeFollowers : List (UInt8 × UInt8) → List UInt8 → Except (Nat × Bool) Unit
  | [], _ => .ok ()
  | _ :: _, [] => .error (0, true)
  | (low, high) :: ranges, byte :: rest =>
    if low ≤ byte ∧ byte ≤ high then
      match takeFollowers ranges rest with
      | .ok () => .ok ()
      | .error (count, ended) => .error (count + 1, ended)
    else .error (0, false)

/-- The first thing wrong with bytes from an index on. -/
def malformed? (index : Nat) : List UInt8 → Option Malformed
  | [] => none
  | lead :: rest =>
    match followers? lead with
    | none => some (.invalid 1 index)
    | some ranges =>
      match takeFollowers ranges rest with
      | .error (_, true) => some (.incomplete index)
      | .error (count, false) => some (.invalid (count + 1) index)
      | .ok () => malformed? (index + 1 + ranges.length) (rest.drop ranges.length)
termination_by bytes => bytes.length

/-- The text of a line without its end. -/
def ofLine (line : List UInt8) : Except Malformed String :=
  match ofBytes? line, ofBytes? (withoutEnd line) with
  | some _, some text => .ok text
  | _, _ => .error ((malformed? 0 line).getD (.incomplete line.length))

end VipKeeper.Text
