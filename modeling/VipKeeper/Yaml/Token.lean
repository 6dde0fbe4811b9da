import VipKeeper.Yaml.Scalar

/-! The tokens of a YAML stream.

Indentation opens and closes block collections, so tokens for their starts and ends are made from the columns
of what stands in them. A key is known as one only by the colon after it; the tokens before a key are then put
where it began. -/

namespace VipKeeper.Yaml

inductive Token where
  | version (major minor : Nat)
  | handle (name uri : String)
  | documentStart
  | documentEnd
  | blockSequence
  | blockMapping
  | blockEnd
  | flowSequence
  | flowSequenceEnd
  | flowMapping
  | flowMappingEnd
  | blockEntry
  | flowEntry
  | key
  | value
  | alias (name : String)
  | anchor (name : String)
  | tag (handle suffix : String)
  | scalar (style : Style) (text : String)
  deriving DecidableEq

/-- A place where a key may have begun: the number of tokens before it and its spot. A needed key stands at
the indentation of its block collection and can be nothing else. -/
structure KeyStart where
  number : Nat
  spot : Spot
  needed : Bool

/-- A stream in the middle of its reading. Tokens are in reverse, and the columns of the open block
collections and the key starts of the open flow collections begin with the innermost one. -/
structure Scanner where
  rest : List Spot
  tokens : List Token
  count : Nat
  columns : List Nat
  keyAllowed : Bool
  keyStart : Option KeyStart
  outerStarts : List (Option KeyStart)

namespace Scanner

def start (spots : List Spot) : Scanner :=
  ⟨spots, [], 0, [], true, none, []⟩

def inFlow (scanner : Scanner) : Bool := !scanner.outerStarts.isEmpty

/-- The column after that of the innermost block collection. -/
def margin (scanner : Scanner) : Nat :=
  match scanner.columns with
  | [] => 0
  | column :: _ => column + 1

def emit (scanner : Scanner) (token : Token) (rest : List Spot) : Scanner :=
  { scanner with tokens := token :: scanner.tokens, count := scanner.count + 1, rest := rest }

/-- Puts a token before all but a number of earlier ones. -/
def insert (scanner : Scanner) (number : Nat) (token : Token) : Scanner :=
  let later := scanner.count - number
  { scanner with
    tokens := scanner.tokens.take later ++ token :: scanner.tokens.drop later
    count := scanner.count + 1 }

/-! ### Indentation -/

/-- Opens a block collection if a column lies deeper than the innermost one. -/
def open_ (scanner : Scanner) (column number : Nat) (token : Token) : Scanner :=
  if !scanner.inFlow && decide (scanner.margin ≤ column) then
    { scanner.insert number token with columns := column :: scanner.columns }
  else scanner

/-- Closes block collections as long as a condition on their column holds. -/
def closeWhile (closes : Nat → Bool) (scanner : Scanner) : Scanner :=
  if scanner.inFlow then scanner
  else
    let ended := scanner.columns.takeWhile closes
    { scanner with
      tokens := ended.map (fun _ => Token.blockEnd) ++ scanner.tokens
      count := scanner.count + ended.length
      columns := scanner.columns.dropWhile closes }

def closeTo (column : Nat) : Scanner → Scanner :=
  closeWhile (fun open_ => decide (column < open_))

def closeAll : Scanner → Scanner :=
  closeWhile (fun _ => true)

/-! ### Keys -/

/-- The longest key, in characters. -/
def longestKey : Nat := 1024

/-- A key must end on its line and within the longest length. -/
def isInReach (key : KeyStart) (spot : Spot) : Bool :=
  decide (spot.line ≤ key.spot.line) && decide (spot.index ≤ key.spot.index + longestKey)

/-- Gives up the innermost key start, unless it is needed. -/
def dropKey? (scanner : Scanner) : Option Scanner :=
  match scanner.keyStart with
  | some ⟨_, _, true⟩ => none
  | _ => some { scanner with keyStart := none }

/-- Notes that a key may begin here. -/
def noteKey? (scanner : Scanner) (spot : Spot) : Option Scanner :=
  if scanner.keyAllowed then
    scanner.dropKey?.map (fun scanner =>
      { scanner with
        keyStart := some ⟨scanner.count, spot, !scanner.inFlow && scanner.columns.head? == some spot.column⟩ })
  else some scanner

def allow (keys : Bool) (scanner : Scanner) : Scanner :=
  { scanner with keyAllowed := keys }

/-! ### Steps for single tokens -/

def enterFlow (scanner : Scanner) (spot : Spot) (rest : List Spot) (token : Token) : Option Scanner := do
  let scanner ← scanner.noteKey? spot
  return { (scanner.allow true).emit token rest with
    keyStart := none, outerStarts := scanner.keyStart :: scanner.outerStarts }

def leaveFlow (scanner : Scanner) (rest : List Spot) (token : Token) : Option Scanner := do
  let scanner ← scanner.dropKey?
  let scanner := (scanner.allow false).emit token rest
  return match scanner.outerStarts with
    | [] => scanner
    | key :: outer => { scanner with keyStart := key, outerStarts := outer }

def flowEntry (scanner : Scanner) (rest : List Spot) : Option Scanner := do
  return ((← scanner.dropKey?).allow true).emit .flowEntry rest

/-- Opens a block collection at the next token, where one may begin. -/
def openHere? (scanner : Scanner) (spot : Spot) (token : Token) : Option Scanner :=
  if scanner.inFlow then some scanner
  else if scanner.keyAllowed then some (scanner.open_ spot.column scanner.count token)
  else none

def blockEntry (scanner : Scanner) (spot : Spot) (rest : List Spot) : Option Scanner := do
  let scanner ← scanner.openHere? spot .blockSequence
  return ((← scanner.dropKey?).allow true).emit .blockEntry rest

def explicitKey (scanner : Scanner) (spot : Spot) (rest : List Spot) : Option Scanner := do
  let scanner ← (← scanner.openHere? spot .blockMapping).dropKey?
  return (scanner.allow (!scanner.inFlow)).emit .key rest

/-- A colon makes a key of what began at the key start, if that is in reach. -/
def value (scanner : Scanner) (spot : Spot) (rest : List Spot) : Option Scanner :=
  match scanner.keyStart with
  | some key =>
    if isInReach key spot then
      let scanner := (scanner.insert key.number .key).open_ key.spot.column key.number .blockMapping
      some ({ scanner with keyStart := none, keyAllowed := false }.emit .value rest)
    else if key.needed then none
    else explicitValue scanner
  | none => explicitValue scanner
where
  explicitValue (scanner : Scanner) : Option Scanner := do
    let scanner ← scanner.openHere? spot .blockMapping
    return ({ scanner with keyStart := none }.allow (!scanner.inFlow)).emit .value rest

/-- The end of all block collections before a directive or a marker. -/
def endContent (scanner : Scanner) : Option Scanner := do
  return (← scanner.closeAll.dropKey?).allow false

/-- A token that may begin a key and does not let another begin after it. -/
def content (scanner : Scanner) (spot : Spot) (token : Token) (rest : List Spot) : Option Scanner := do
  return ((← scanner.noteKey? spot).allow false).emit token rest

/-! ### Names and tags -/

def takeName (spots : List Spot) : List Char × List Spot :=
  (chars (spots.takeWhile (fun spot => isNameChar spot.char)), spots.dropWhile (fun spot => isNameChar spot.char))

/-- The name of an anchor and what follows it: white space or one of some indicators. -/
def readAnchor (spots : List Spot) : Option (String × List Spot) :=
  let (name, rest) := takeName spots
  let ended := endsWord rest || "?:,]\x7d%@\x60".toList.any (fun c => startsWith c rest)
  if name.isEmpty || !ended then none else some (String.ofList name, rest)

def isUriChar (verbatim : Bool) (c : Char) : Bool :=
  isNameChar c || ";/?:@&=+$.%!~*'()".toList.contains c || (verbatim && ",[]".toList.contains c)

/-- The bytes that escapes of a percent sign and two digits stand for. -/
def escapedBytes : List Char → Option (List UInt8)
  | [] => some []
  | '%' :: high :: low :: rest =>
    if Address.isDigit 16 high && Address.isDigit 16 low then
      (escapedBytes rest).map (fun bytes => (Address.digitsValue 16 [high, low]).toUInt8 :: bytes)
    else none
  | c :: rest =>
    if c = '%' then none else (escapedBytes rest).map (fun bytes => c.toString.toUTF8.toList ++ bytes)

/-- A tag or a part of one, after a part that was read before. -/
def readUri (verbatim : Bool) (before : List Char) (spots : List Spot) : Option (String × List Spot) := do
  let body := chars (spots.takeWhile (fun spot => isUriChar verbatim spot.char))
  let rest := spots.dropWhile (fun spot => isUriChar verbatim spot.char)
  if before.isEmpty && body.isEmpty then none
  else
    let text ← String.fromUTF8? ⟨(← escapedBytes (before.drop 1 ++ body)).toArray⟩
    return (text, rest)

/-- A handle: an exclamation mark, or a name between two. The first mark is read already. -/
def readHandle (spots : List Spot) : List Char × List Spot :=
  let (name, rest) := takeName spots
  match rest with
  | spot :: rest' => if spot.char == '!' then ('!' :: name ++ ['!'], rest') else ('!' :: name, rest)
  | [] => ('!' :: name, [])

/-- Reads a tag after its exclamation mark. -/
def readTag (spots : List Spot) : Option (String × String × List Spot) :=
  if startsWith '<' spots then do
    let (suffix, rest) ← readUri true [] (spots.drop 1)
    match rest with
    | spot :: rest' => if spot.char == '>' then some ("", suffix, rest') else none
    | [] => none
  else
    let (handle, rest) := readHandle spots
    if 1 < handle.length && handle.getLast? == some '!' then
      (readUri false [] rest).map (fun (suffix, rest) => (String.ofList handle, suffix, rest))
    else
      (readUri false handle rest).map (fun (suffix, rest) =>
        if suffix.isEmpty then ("", "!", rest) else ("!", suffix, rest))

/-! ### Directives -/

/-- Up to nine digits. -/
def readVersionNumber (spots : List Spot) : Option (Nat × List Spot) :=
  (Address.readNumber 10 9 (chars spots)).map (fun (digits, _) =>
    (Address.digitsValue 10 digits, spots.drop digits.length))

def readVersion (spots : List Spot) : Option (Token × List Spot) := do
  let (major, rest) ← readVersionNumber (skipBlanks spots)
  if startsWith '.' rest then
    let (minor, rest) ← readVersionNumber (rest.drop 1)
    return (.version major minor, rest)
  else none

def readHandleDirective (spots : List Spot) : Option (Token × List Spot) :=
  let spots := skipBlanks spots
  if startsWith '!' spots then
    let (handle, rest) := readHandle (spots.drop 1)
    if handle.getLast? == some '!' && (skipBlanks rest).length < rest.length then do
      let (uri, rest) ← readUri true [] (skipBlanks rest)
      if endsWord rest then some (.handle (String.ofList handle) uri, rest) else none
    else none
  else none

/-- A directive after its percent sign, up to the end of its line. -/
def readDirective (spots : List Spot) : Option (Token × List Spot) := do
  let (name, rest) := takeName spots
  let (token, rest) ←
    if !endsWord rest then none
    else if name == "YAML".toList then readVersion rest
    else if name == "TAG".toList then readHandleDirective rest
    else none
  match skipComment (skipBlanks rest) with
  | [] => return (token, [])
  | spot :: rest => if spot.isBreak then return (token, rest) else none

/-! ### The whole stream -/

/-- Skips white space and comments. A tab is white space only where no key may begin or in a flow
collection; after a line break a key may begin. -/
def skipGap (inFlow : Bool) : Bool → List Spot → Bool × List Spot
  | allowed, [] => (allowed, [])
  | allowed, spot :: rest =>
    if spot.char == ' ' || (spot.char == '\t' && (inFlow || !allowed)) then skipGap inFlow allowed rest
    else if spot.isBreak then skipGap inFlow (allowed || !inFlow) rest
    else if spot.char == '#' then skipRemark inFlow allowed rest
    else (allowed, spot :: rest)
where
  skipRemark (inFlow : Bool) : Bool → List Spot → Bool × List Spot
    | allowed, [] => (allowed, [])
    | allowed, spot :: rest =>
      if spot.isBreak then skipGap inFlow (allowed || !inFlow) rest else skipRemark inFlow allowed rest

/-- Whether a plain scalar begins here. -/
def startsPlain (inFlow : Bool) : List Spot → Bool
  | [] => false
  | spot :: rest =>
    (!spot.isGap && !"-?:,[]\x7b\x7d#&*!|>'\"%@\x60".toList.contains spot.char) ||
    (spot.char == '-' && !(match rest with
      | next :: _ => next.isBlank
      | [] => false)) ||
    (!inFlow && (spot.char == '?' || spot.char == ':') && !endsWord rest)

/-- Reads the token at the first spot. -/
def readToken (scanner : Scanner) (spot : Spot) (rest : List Spot) : Option Scanner :=
  let here := spot :: rest
  if spot.column == 0 && spot.char == '%' then do
    let (token, rest) ← readDirective rest
    return (← scanner.endContent).emit token rest
  else if isMarker '-' here then scanner.endContent.map (fun scanner => scanner.emit .documentStart (rest.drop 2))
  else if isMarker '.' here then scanner.endContent.map (fun scanner => scanner.emit .documentEnd (rest.drop 2))
  else if spot.char == '[' then scanner.enterFlow spot rest .flowSequence
  else if spot.char == '\x7b' then scanner.enterFlow spot rest .flowMapping
  else if spot.char == ']' then scanner.leaveFlow rest .flowSequenceEnd
  else if spot.char == '\x7d' then scanner.leaveFlow rest .flowMappingEnd
  else if spot.char == ',' then scanner.flowEntry rest
  else if spot.char == '-' && endsWord rest then scanner.blockEntry spot rest
  else if spot.char == '?' && (scanner.inFlow || endsWord rest) then scanner.explicitKey spot rest
  else if spot.char == ':' && (scanner.inFlow || endsWord rest) then scanner.value spot rest
  else if spot.char == '*' then do
    let (name, rest) ← readAnchor rest
    scanner.content spot (.alias name) rest
  else if spot.char == '&' then do
    let (name, rest) ← readAnchor rest
    scanner.content spot (.anchor name) rest
  else if spot.char == '!' then do
    let (handle, suffix, rest) ← readTag rest
    if endsWord rest || (scanner.inFlow && startsWith ',' rest) then
      scanner.content spot (.tag handle suffix) rest
    else none
  else if (spot.char == '|' || spot.char == '>') && !scanner.inFlow then do
    let isFolded := spot.char == '>'
    let scanner ← scanner.dropKey?
    let (text, rest) ← readBlock isFolded scanner.margin rest
    return (scanner.allow true).emit (.scalar (if isFolded then .folded else .literal) text) rest
  else if spot.char == '\'' then do
    let (text, rest) ← readSingle [] Gap.none rest
    scanner.content spot (.scalar .singleQuoted text) rest
  else if spot.char == '"' then do
    let (text, rest) ← readDouble [] Gap.none rest
    scanner.content spot (.scalar .doubleQuoted text) rest
  else if startsPlain scanner.inFlow here then do
    let (text, broken, rest) ← readPlain scanner.inFlow scanner.margin [] Gap.none here
    let scanner ← scanner.content spot (.scalar .plain text) rest
    return scanner.allow broken
  else none

/-- Reads token after token. Every token takes at least one character of the stream. -/
def run (scanner : Scanner) : Option (List Token) :=
  match skipGap scanner.inFlow scanner.keyAllowed scanner.rest with
  | (_, []) => (scanner.closeAll.dropKey?).map (fun scanner => scanner.tokens.reverse)
  | (allowed, spot :: rest) =>
    match readToken ((scanner.allow allowed).closeTo spot.column) spot rest with
    | none => none
    | some next => if next.rest.length < scanner.rest.length then run next else none
termination_by scanner.rest.length

end Scanner

/-- The tokens of a stream. -/
def tokens? (text : String) : Option (List Token) :=
  (spots? text).bind (fun spots => (Scanner.start spots).run)

end VipKeeper.Yaml
