import VipKeeper.Net.Address
import VipKeeper.Yaml.Spot

/-! Scalars in their five styles: plain, in single or double quotes, literal and folded blocks.

A line break inside a plain or quoted scalar is folded: alone it is a space, and of several in a row the
first is dropped. -/

namespace VipKeeper.Yaml

inductive Style where
  | plain
  | singleQuoted
  | doubleQuoted
  | literal
  | folded
  deriving DecidableEq

/-- White space between two words of a scalar: blanks, or a line break and more line breaks, each list in
reverse. -/
structure Gap where
  blanks : List Char
  broken : Bool
  first : List Char
  later : List Char

namespace Gap

def none : Gap := ⟨[], false, [], []⟩

/-- The gap after a line break that was escaped. -/
def escaped : Gap := ⟨[], true, [], []⟩

def isNone (gap : Gap) : Bool := gap.blanks.isEmpty && !gap.broken

/-- Blanks count only before the first line break. -/
def add (gap : Gap) (spot : Spot) : Gap :=
  if spot.isBreak then
    if gap.broken then { gap with later := spot.char :: gap.later } else ⟨[], true, [spot.char], []⟩
  else if gap.broken then gap else { gap with blanks := spot.char :: gap.blanks }

/-- The text of a gap, in reverse. -/
def folded (gap : Gap) : List Char :=
  if gap.broken then
    if gap.first == ['\n'] then if gap.later.isEmpty then [' '] else gap.later
    else gap.later ++ gap.first
  else gap.blanks

end Gap

/-! ### Plain scalars -/

def isFlowIndicator (c : Char) : Bool :=
  c == ',' || c == '[' || c == ']' || c == '\x7b' || c == '\x7d'

/-- Whether a plain scalar ends before the next character. -/
def endsPlain (inFlow : Bool) : List Spot → Bool
  | [] => true
  | spot :: rest => (spot.char == ':' && endsWord rest) || (inFlow && isFlowIndicator spot.char)

/-- Whether a colon stands where a flow collection admits none. -/
def strayColon (inFlow : Bool) : List Spot → Bool
  | colon :: next :: _ =>
    inFlow && colon.char == ':' && (isFlowIndicator next.char || next.char == '?')
  | _ => false

/-- Whether what follows white space is no more part of a plain scalar: a comment, a marker, or in a block
collection a line with too little indentation. -/
def leavesPlain (inFlow : Bool) (margin : Nat) : List Spot → Bool
  | [] => true
  | spot :: rest =>
    spot.char == '#' || (!inFlow && decide (spot.column < margin)) || isAnyMarker (spot :: rest)

/-- Reads a plain scalar whose text so far is given in reverse. The second result tells whether it was left
at the start of a line. -/
def readPlain (inFlow : Bool) (margin : Nat) (text : List Char) (gap : Gap) :
    List Spot → Option (String × Bool × List Spot)
  | [] => some (String.ofList text.reverse, gap.broken, [])
  | spot :: rest =>
    if spot.isGap then
      if gap.broken && decide (spot.column < margin) && spot.char == '\t' then none
      else readPlain inFlow margin text (gap.add spot) rest
    else if !gap.isNone && leavesPlain inFlow margin (spot :: rest) then
      some (String.ofList text.reverse, gap.broken, spot :: rest)
    else if strayColon inFlow (spot :: rest) then none
    else if endsPlain inFlow (spot :: rest) then
      some (String.ofList text.reverse, gap.broken, spot :: rest)
    else readPlain inFlow margin (spot.char :: (gap.folded ++ text)) Gap.none rest

/-! ### Quoted scalars -/

/-- Reads the rest of a scalar in single quotes; two quotes stand for one. -/
def readSingle (text : List Char) (gap : Gap) : List Spot → Option (String × List Spot)
  | [] => none
  | spot :: rest =>
    if spot.isGap then readSingle text (gap.add spot) rest
    else if isAnyMarker (spot :: rest) then none
    else if spot.char == '\'' then
      match rest with
      | second :: rest' =>
        if second.char == '\'' then readSingle ('\'' :: (gap.folded ++ text)) Gap.none rest'
        else some (String.ofList (gap.folded ++ text).reverse, rest)
      | [] => some (String.ofList (gap.folded ++ text).reverse, [])
    else readSingle (spot.char :: (gap.folded ++ text)) Gap.none rest

/-- The character that an escape of one letter stands for. -/
def shortEscape? (c : Char) : Option Char :=
  match c with
  | '0' => some '\x00'
  | 'a' => some '\x07'
  | 'b' => some '\x08'
  | 't' | '\t' => some '\t'
  | 'n' => some '\n'
  | 'v' => some '\x0b'
  | 'f' => some '\x0c'
  | 'r' => some '\r'
  | 'e' => some '\x1b'
  | ' ' => some ' '
  | '"' => some '"'
  | '/' => some '/'
  | '\\' => some '\\'
  | 'N' => some '\u0085'
  | '_' => some '\u00a0'
  | 'L' => some '\u2028'
  | 'P' => some '\u2029'
  | _ => none

/-- How many hexadecimal digits follow the letter of an escape. -/
def escapeWidth? (c : Char) : Option Nat :=
  match c with
  | 'x' => some 2
  | 'u' => some 4
  | 'U' => some 8
  | _ => none

def hexChar? (width : Nat) (digits : List Char) : Option Char :=
  let code := Address.digitsValue 16 digits
  if digits.length = width ∧ digits.all (Address.isDigit 16) then
    if valid : code.isValidChar then some (Char.ofNatAux code valid) else none
  else none

/-- Reads the rest of a scalar in double quotes. -/
def readDouble (text : List Char) (gap : Gap) : List Spot → Option (String × List Spot)
  | [] => none
  | spot :: rest =>
    if spot.isGap then readDouble text (gap.add spot) rest
    else if isAnyMarker (spot :: rest) then none
    else if spot.char == '"' then some (String.ofList (gap.folded ++ text).reverse, rest)
    else if spot.char == '\\' then
      match rest with
      | [] => none
      | letter :: rest' =>
        if letter.isBreak then readDouble (gap.folded ++ text) Gap.escaped rest'
        else match shortEscape? letter.char, escapeWidth? letter.char with
          | some c, _ => readDouble (c :: (gap.folded ++ text)) Gap.none rest'
          | none, some width =>
            match hexChar? width (chars (rest'.take width)) with
            | some c => readDouble (c :: (gap.folded ++ text)) Gap.none (rest'.drop width)
            | none => none
          | none, none => none
    else readDouble (spot.char :: (gap.folded ++ text)) Gap.none rest
termination_by spots => spots.length
decreasing_by all_goals simp_wf; try omega

/-! ### Block scalars -/

/-- What becomes of the line breaks at the end of a block. -/
inductive Chomping where
  | strip
  | clip
  | keep
  deriving DecidableEq

def chomping? (c : Char) : Option Chomping :=
  if c == '-' then some .strip else if c == '+' then some .keep else none

/-- A digit other than zero that tells the indentation of a block. Zero is an error. -/
def indentDigit? (c : Char) : Option Nat :=
  if c.isDigit then some (c.toNat - '0'.toNat) else none

/-- The header of a block: its chomping and its indentation, in either order, each at most once. -/
def readHeader : List Spot → Option (Chomping × Nat × List Spot)
  | [] => some (.clip, 0, [])
  | first :: rest =>
    match chomping? first.char, indentDigit? first.char with
    | some chomping, _ =>
      match rest with
      | [] => some (chomping, 0, [])
      | second :: rest' =>
        match indentDigit? second.char with
        | some 0 => none
        | some indent => some (chomping, indent, rest')
        | none => some (chomping, 0, rest)
    | none, some 0 => none
    | none, some indent =>
      match rest with
      | [] => some (.clip, indent, [])
      | second :: rest' =>
        match chomping? second.char with
        | some chomping => some (chomping, indent, rest')
        | none => some (.clip, indent, rest)
    | none, none => some (.clip, 0, first :: rest)

/-- The lines of a stream, each with its line break. -/
def breakLines : List Spot → List (List Spot)
  | [] => []
  | spot :: rest =>
    if spot.isBreak then [spot] :: breakLines rest
    else match breakLines rest with
      | [] => [[spot]]
      | line :: later => (spot :: line) :: later

/-- The indentation of a block that does not tell it: that of its first line with text, or more if a blank
line before it has more. -/
def detectIndent (least most : Nat) : List (List Spot) → Option Nat
  | [] => some (max least most)
  | line :: later =>
    match line.dropWhile (fun spot => spot.char == ' ') with
    | [] => some (max least most)
    | spot :: _ =>
      if spot.char == '\t' then none
      else if spot.isBreak then detectIndent least (max most spot.column) later
      else some (max least (max most spot.column))

/-- The text of a block so far, in reverse, the break of its last line, the breaks of blank lines after it,
and whether that line began with a blank. -/
structure Block where
  text : List Char
  pending : List Char
  blankLines : List Char
  indented : Bool

namespace Block

def start : Block := ⟨[], [], [], false⟩

/-- Adds a line. In a folded block a break between two lines that begin with no blank is folded. -/
def addLine (isFolded : Bool) (block : Block) (body : List Spot) : Block :=
  let blank := match body with
    | spot :: _ => spot.isBlank
    | [] => false
  let joint :=
    if isFolded && block.pending == ['\n'] && !block.indented && !blank then
      if block.blankLines.isEmpty then [' '] else []
    else block.pending
  let words := body.takeWhile (fun spot => !spot.isBreak)
  ⟨(chars words).reverse ++ (block.blankLines ++ (joint ++ block.text)),
    chars (body.dropWhile (fun spot => !spot.isBreak)), [], blank⟩

def finish (chomping : Chomping) (block : Block) : String :=
  String.ofList (match chomping with
    | .strip => block.text
    | .clip => block.pending ++ block.text
    | .keep => block.blankLines ++ (block.pending ++ block.text)).reverse

/-- Drops spaces up to a column. -/
def dropIndent (indent : Nat) (line : List Spot) : List Spot :=
  line.dropWhile (fun spot => spot.char == ' ' && decide (spot.column < indent))

/-- Reads lines as long as they are indented far enough. -/
def readLines (isFolded : Bool) (indent : Nat) (block : Block) :
    List (List Spot) → Option (Block × List Spot)
  | [] => some (block, [])
  | line :: later =>
    match dropIndent indent line with
    | [] => some (block, later.flatten)
    | spot :: rest =>
      if spot.isBreak then
        readLines isFolded indent { block with blankLines := spot.char :: block.blankLines } later
      else if spot.column < indent then
        if spot.char == '\t' then none else some (block, spot :: rest ++ later.flatten)
      else if spot.column = indent then readLines isFolded indent (block.addLine isFolded (spot :: rest)) later
      else some (block, spot :: rest ++ later.flatten)

end Block

/-- Reads a block after its indicator. The margin is the column after that of the collection around it. -/
def readBlock (isFolded : Bool) (margin : Nat) (spots : List Spot) : Option (String × List Spot) := do
  let (chomping, given, rest) ← readHeader spots
  let rest := skipComment (skipBlanks rest)
  let lines ← match rest with
    | [] => some []
    | spot :: rest => if spot.isBreak then some (breakLines rest) else none
  let indent ← if given = 0 then detectIndent (max margin 1) 0 lines else some (margin - 1 + given)
  let (block, rest) ← Block.readLines isFolded indent Block.start lines
  return (block.finish chomping, rest)

end VipKeeper.Yaml
