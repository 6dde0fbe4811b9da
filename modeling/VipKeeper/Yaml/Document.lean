import VipKeeper.Document.Format
import VipKeeper.Yaml.Node

/-! YAML streams of at most one document, and what their nodes mean.

Only plain scalars have a meaning besides their text: a null, a truth value or an integer. A text may be
written in any style. -/

namespace VipKeeper.Yaml

/-! ### The stream -/

/-- The deepest nesting of collections in a document. -/
def deepest : Nat := 128

/-- The tag handles that every document has. -/
def standardHandles : Node.Handles :=
  [("!", "!"), ("!!", "tag:yaml.org,2002:")]

/-- The directives before a document: a version at most once, and each handle at most once. -/
def readDirectives (versioned : Bool) (handles : Node.Handles) : List Token → Option (Node.Handles × List Token)
  | .version major minor :: rest =>
    if versioned || major ≠ 1 || (minor ≠ 1 && minor ≠ 2) then none else readDirectives true handles rest
  | .handle name uri :: rest =>
    if handles.any (fun entry => entry.1 == name) then none
    else readDirectives versioned ((name, uri) :: handles) rest
  | tokens => some (handles, tokens)

def endsContent : List Token → Bool
  | [] => true
  | .version _ _ :: _ | .handle _ _ :: _ | .documentStart :: _ | .documentEnd :: _ => true
  | _ => false

/-- Reads the root of a document. Only a document that begins with its content needs no start marker. -/
def readRoot (tokens : List Token) : Option (Node String × List Token) :=
  match tokens with
  | [] => some (.void, [])
  | .version _ _ :: _ | .handle _ _ :: _ | .documentStart :: _ =>
    match readDirectives false [] tokens with
    | some (handles, .documentStart :: rest) =>
      if endsContent rest then some (.void, rest)
      else Node.read deepest (handles ++ standardHandles) .block rest
    | _ => none
  | _ => Node.read deepest standardHandles .block tokens

/-- The root of a stream that holds nothing after its document but end markers. -/
def root? (text : String) : Option (Node String) := do
  let (root, rest) ← readRoot (← tokens? text)
  if rest.all (fun token => token == .documentEnd) then some root else none

/-! ### Anchors

A defined anchor gets the number of different names before it. A name that is defined again so shares its
number with the next new name, and of nodes with one number the last counts. -/

abbrev Names := List (String × Nat)

def numberAnchor (names : Names) : Option String → Option Nat × Names
  | none => (none, names)
  | some name => (some names.length, (name, names.length) :: names.filter (fun entry => !(entry.1 == name)))

mutual

/-- Replaces the labels of a node by numbers, unless an alias has no anchor before it. -/
def number (names : Names) : Node String → Option (Node Nat × Names)
  | .alias name => (names.lookup name).map (fun target => (.alias target, names))
  | .scalar anchor tag style text =>
    let (label, names) := numberAnchor names anchor
    some (.scalar label tag style text, names)
  | .sequence anchor items =>
    let (label, names) := numberAnchor names anchor
    (numberAll names items).map (fun (items, names) => (.sequence label items, names))
  | .mapping anchor entries =>
    let (label, names) := numberAnchor names anchor
    (numberPairs names entries).map (fun (entries, names) => (.mapping label entries, names))

def numberAll (names : Names) : List (Node String) → Option (List (Node Nat) × Names)
  | [] => some ([], names)
  | item :: rest =>
    match number names item with
    | none => none
    | some (item, names) => (numberAll names rest).map (fun (items, names) => (item :: items, names))

def numberPairs (names : Names) :
    List (Node String × Node String) → Option (List (Node Nat × Node Nat) × Names)
  | [] => some ([], names)
  | (key, content) :: rest =>
    match number names key with
    | none => none
    | some (key, names) =>
      match number names content with
      | none => none
      | some (content, names) =>
        (numberPairs names rest).map (fun (entries, names) => ((key, content) :: entries, names))

end

mutual

/-- The numbered nodes inside a node, in the order in which they begin. -/
def anchored : Node Nat → List (Nat × Node Nat)
  | .alias _ => []
  | .scalar anchor tag style text => (anchor.map (fun n => (n, .scalar anchor tag style text))).toList
  | .sequence anchor items =>
    (anchor.map (fun n => (n, .sequence anchor items))).toList ++ anchoredAll items
  | .mapping anchor entries =>
    (anchor.map (fun n => (n, .mapping anchor entries))).toList ++ anchoredPairs entries

def anchoredAll : List (Node Nat) → List (Nat × Node Nat)
  | [] => []
  | item :: rest => anchored item ++ anchoredAll rest

def anchoredPairs : List (Node Nat × Node Nat) → List (Nat × Node Nat)
  | [] => []
  | (key, content) :: rest => anchored key ++ anchored content ++ anchoredPairs rest

end

/-! ### Meaning -/

def isNullWord (text : String) : Bool :=
  text == "null" || text == "Null" || text == "NULL" || text == "~"

def flagOfWord? (text : String) : Option Bool :=
  if text == "true" || text == "True" || text == "TRUE" then some true
  else if text == "false" || text == "False" || text == "FALSE" then some false
  else none

/-- The digits of a number and their base. -/
def baseOf : List Char → Nat × List Char
  | '0' :: 'x' :: digits => (16, digits)
  | '0' :: 'o' :: digits => (8, digits)
  | '0' :: 'b' :: digits => (2, digits)
  | digits => (10, digits)

/-- Whether digits in base ten begin with a zero that they do not need. -/
def isPadded : List Char → Bool
  | '0' :: _ :: _ => true
  | _ => false

/-- A natural number below a bound: an optional plus sign, then digits in base ten or after the mark of
another base. -/
def naturalOfWord? (bound : Nat) (text : List Char) : Option Nat :=
  let unsigned := match text with
    | '+' :: rest => rest
    | _ => text
  let (base, digits) := baseOf unsigned
  if digits.isEmpty || !digits.all (Address.isDigit base) || (base == 10 && isPadded digits) then none
  else
    let value := Address.digitsValue base digits
    if value < bound then some value else none

def nullTag : String := "tag:yaml.org,2002:null"
def intTag : String := "tag:yaml.org,2002:int"
def flagTag : String := "tag:yaml.org,2002:bool"

/-- Whether a scalar may be of a type that is known by the words for its values. -/
def mayBe (typeTag : String) (style : Style) (tag : Option String) : Bool :=
  style == .plain || (style == .literal && tag == some typeTag)

/-- A tag that is not among the standard ones names an alternative. -/
def ownTag? (tag : Option String) : Option String :=
  tag.bind (fun text => match text.toList with
    | '!' :: name => some (String.ofList name)
    | _ => none)

namespace Node

/-- The node that an alias stands for. -/
def deref (anchors : List (Nat × Node Nat)) : Node Nat → Node Nat
  | .alias target => ((anchors.filter (fun entry => entry.1 == target)).getLast?.map Prod.snd).getD .void
  | node => node

def isVoid : Node Nat → Bool
  | .scalar _ _ .plain text => text.isEmpty
  | _ => false

def text? : Node Nat → Option String
  | .scalar _ _ _ text => some text
  | _ => none

def natural? : Node Nat → Option Nat
  | .scalar _ tag style text =>
    if mayBe intTag style tag then naturalOfWord? UInt64.size text.toList else none
  | _ => none

def flag? : Node Nat → Option Bool
  | .scalar _ tag style text => if mayBe flagTag style tag then flagOfWord? text else none
  | _ => none

/-- A plain scalar is absent if it is empty or a word for null. With the tag for null it must be such a word,
and with another tag it is there. -/
def optional? : Node Nat → Option (Option (Node Nat))
  | .scalar anchor tag .plain text =>
    let there := some (some (.scalar anchor tag .plain text))
    match tag with
    | none => if text.isEmpty || isNullWord text then some none else there
    | some name => if name = nullTag then if isNullWord text then some none else none else there
  | node => some (some node)

/-- A tag of the document's own names an alternative, whose content must then be nothing. -/
def variant? : Node Nat → Option String
  | .scalar _ tag style text =>
    match ownTag? tag with
    | some name => if style == .plain && (text.isEmpty || isNullWord text) then some name else none
    | none => some text
  | _ => none

def items? : Node Nat → Option (List (Node Nat))
  | .sequence _ items => some items
  | node => if node.isVoid then some [] else none

def entries? : Node Nat → Option (List (Node Nat × Node Nat))
  | .mapping _ entries => some entries
  | node => if node.isVoid then some [] else none

end Node

/-- How nodes are read when aliases stand for the nodes with some numbers. -/
def format (anchors : List (Nat × Node Nat)) : Format (Node Nat) :=
  let deref := Node.deref anchors
  ⟨fun node => (deref node).text?, fun node => (deref node).natural?, fun node => (deref node).flag?,
    fun node => (deref node).optional?, fun node => (deref node).variant?, fun node => (deref node).items?,
    fun node => (deref node).entries?,
    fun fields node => do
      let entries ← (deref node).entries?
      Field.collect fields (← entries.mapM (fun (key, content) => do return (← (deref key).text?, content)))⟩

/-- Reads the document of a stream by a rule that serves every notation. -/
def decode? {α : Type} (read : {ν : Type} → Format ν → ν → Option α) (text : String) : Option α := do
  let (root, _) ← number [] (← root? text)
  read (format (anchored root)) root

end VipKeeper.Yaml
