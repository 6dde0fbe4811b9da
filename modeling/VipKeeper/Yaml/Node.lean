import VipKeeper.Yaml.Token

/-! Nodes of a YAML document, and how they are made of tokens. -/

namespace VipKeeper.Yaml

/-- A node. Anchors and the aliases that refer to them carry labels; tags matter only on scalars. -/
inductive Node (α : Type) where
  | alias (target : α)
  | scalar (anchor : Option α) (tag : Option String) (style : Style) (text : String)
  | sequence (anchor : Option α) (items : List (Node α))
  | mapping (anchor : Option α) (entries : List (Node α × Node α))
  deriving Inhabited

namespace Node

/-- The node that stands where nothing is written. -/
def void {α : Type} : Node α := .scalar none none .plain ""

/-- Where a node stands. Inside a block mapping the entries of a sequence need no deeper indentation than the
key. -/
inductive Place where
  | block
  | blockMapping
  | flow
  deriving DecidableEq

/-- The tag handles of a document. -/
abbrev Handles := List (String × String)

/-- The tag that a handle and a suffix stand for. -/
def resolveTag (handles : Handles) (handle suffix : String) : Option String :=
  if handle.isEmpty then some suffix
  else (handles.find? (fun entry => entry.1 == handle)).map (fun entry => entry.2 ++ suffix)

def readAnchor : List Token → Option String × List Token
  | .anchor name :: rest => (some name, rest)
  | tokens => (none, tokens)

def readTag (handles : Handles) : List Token → Option (Option String × List Token)
  | .tag handle suffix :: rest => (resolveTag handles handle suffix).map (fun tag => (some tag, rest))
  | tokens => some (none, tokens)

/-- An anchor and a tag, in either order, each at most once. -/
def readProperties (handles : Handles) (tokens : List Token) :
    Option (Option String × Option String × List Token) :=
  match readAnchor tokens with
  | (some name, rest) => (readTag handles rest).map (fun (tag, rest) => (some name, tag, rest))
  | (none, _) =>
    (readTag handles tokens).map (fun (tag, rest) =>
      let (anchor, rest) := readAnchor rest
      (anchor, tag, rest))

/-- Whether a token ends an entry of a block collection, so that an entry without a node is void. -/
def endsBlock : List Token → Bool
  | .blockEntry :: _ | .key :: _ | .value :: _ | .blockEnd :: _ => true
  | _ => false

def endsItem : List Token → Bool
  | .blockEntry :: _ | .blockEnd :: _ => true
  | _ => false

def endsPair : List Token → Bool
  | .key :: _ | .value :: _ | .blockEnd :: _ => true
  | _ => false

def endsFlow (closing : Token) : List Token → Bool
  | token :: _ => token == .flowEntry || token == closing
  | [] => false

/-- A tag of a single exclamation mark says only that the scalar has no other. -/
def scalarTag (tag : Option String) : Option String :=
  if tag = some "!" then none else tag

/-- Properties alone make a void node. -/
def readVoid (anchor tag : Option String) (rest : List Token) : Option (Node String × List Token) :=
  if anchor.isSome || tag.isSome then some (.scalar anchor tag .plain "", rest) else none

mutual

/-- Reads a node in which collections may nest only up to a depth. -/
def read (depth : Nat) (handles : Handles) (place : Place) (tokens : List Token) :
    Option (Node String × List Token) :=
  match tokens with
  | .alias name :: rest => some (.alias name, rest)
  | _ =>
    match readProperties handles tokens with
    | none => none
    | some (anchor, tag, rest) =>
      match rest, depth with
      | .scalar style text :: rest', _ => some (.scalar anchor (scalarTag tag) style text, rest')
      | .flowSequence :: rest', depth + 1 =>
        (readFlowItem depth handles rest').map (fun (items, rest) => (.sequence anchor items, rest))
      | .flowMapping :: rest', depth + 1 =>
        (readFlowPair depth handles rest').map (fun (entries, rest) => (.mapping anchor entries, rest))
      | .blockSequence :: rest', depth + 1 =>
        if place = .flow then readVoid anchor tag rest
        else (readItems depth handles rest').map (fun (items, rest) => (.sequence anchor items, rest))
      | .blockMapping :: rest', depth + 1 =>
        if place = .flow then readVoid anchor tag rest
        else (readPairs depth handles rest').map (fun (entries, rest) => (.mapping anchor entries, rest))
      | .blockEntry :: _, depth + 1 =>
        if place = .blockMapping then
          (readFlatItems depth handles rest).map (fun (items, rest) => (.sequence anchor items, rest))
        else readVoid anchor tag rest
      | .flowSequence :: _, 0 | .flowMapping :: _, 0 | .blockSequence :: _, 0 | .blockMapping :: _, 0 => none
      | _, _ => readVoid anchor tag rest
termination_by (depth, tokens.length, 1)

/-- The items of a block sequence, up to its end. -/
def readItems (depth : Nat) (handles : Handles) (tokens : List Token) :
    Option (List (Node String) × List Token) :=
  match tokens with
  | .blockEntry :: rest =>
    match if endsItem rest then some (void, rest) else read depth handles .block rest with
    | none => none
    | some (item, later) =>
      if later.length ≤ rest.length then
        (readItems depth handles later).map (fun (items, rest) => (item :: items, rest))
      else none
  | .blockEnd :: rest => some ([], rest)
  | _ => none
termination_by (depth, tokens.length, 0)

/-- The items of a sequence without an indentation of its own. -/
def readFlatItems (depth : Nat) (handles : Handles) (tokens : List Token) :
    Option (List (Node String) × List Token) :=
  match tokens with
  | .blockEntry :: rest =>
    match if endsBlock rest then some (void, rest) else read depth handles .block rest with
    | none => none
    | some (item, later) =>
      if later.length ≤ rest.length then
        (readFlatItems depth handles later).map (fun (items, rest) => (item :: items, rest))
      else none
  | _ => some ([], tokens)
termination_by (depth, tokens.length, 0)

/-- The entries of a block mapping, up to its end. -/
def readPairs (depth : Nat) (handles : Handles) (tokens : List Token) :
    Option (List (Node String × Node String) × List Token) :=
  match tokens with
  | .key :: rest =>
    match if endsPair rest then some (void, rest) else read depth handles .blockMapping rest with
    | none => none
    | some (key, middle) =>
      if middle.length ≤ rest.length then
        match readBlockValue depth handles middle with
        | none => none
        | some (content, later) =>
          if later.length ≤ rest.length then
            (readPairs depth handles later).map (fun (entries, rest) => ((key, content) :: entries, rest))
          else none
      else none
  | .blockEnd :: rest => some ([], rest)
  | _ => none
termination_by (depth, tokens.length, 2)

/-- The value of a pair in a block mapping, if one is given. -/
def readBlockValue (depth : Nat) (handles : Handles) (tokens : List Token) :
    Option (Node String × List Token) :=
  match tokens with
  | .value :: rest => if endsPair rest then some (void, rest) else read depth handles .blockMapping rest
  | _ => some (void, tokens)
termination_by (depth, tokens.length, 2)

/-- The value of a pair in a flow collection, if one is given. -/
def readFlowValue (depth : Nat) (handles : Handles) (closing : Token) (tokens : List Token) :
    Option (Node String × List Token) :=
  match tokens with
  | .value :: rest =>
    if endsFlow closing rest then some (void, rest) else read depth handles .flow rest
  | _ => some (void, tokens)
termination_by (depth, tokens.length, 2)

/-- The items of a flow sequence from one on, up to its end. An item may be a pair, which is a mapping of its
own; where its key is not given, the token in its place is passed over. -/
def readFlowItem (depth : Nat) (handles : Handles) (tokens : List Token) :
    Option (List (Node String) × List Token) :=
  match tokens with
  | .flowSequenceEnd :: rest => some ([], rest)
  | .key :: rest =>
    if 0 < depth then
      match
        if endsFlow .flowSequenceEnd rest || rest.head? == some .value then some (void, rest.drop 1)
        else read (depth - 1) handles .flow rest with
      | none => none
      | some (key, middle) =>
        match readFlowValue (depth - 1) handles .flowSequenceEnd middle with
        | none => none
        | some (content, later) =>
          if later.length ≤ rest.length then
            (readFlowItems depth handles later).map (fun (items, rest) =>
              (.mapping none [(key, content)] :: items, rest))
          else none
    else none
  | here =>
    match read depth handles .flow here with
    | none => none
    | some (item, later) =>
      if later.length < here.length then
        (readFlowItems depth handles later).map (fun (items, rest) => (item :: items, rest))
      else none
termination_by (depth, tokens.length, 4)

/-- The items of a flow sequence after one of them. -/
def readFlowItems (depth : Nat) (handles : Handles) (tokens : List Token) :
    Option (List (Node String) × List Token) :=
  match tokens with
  | .flowSequenceEnd :: rest => some ([], rest)
  | .flowEntry :: rest => readFlowItem depth handles rest
  | _ => none
termination_by (depth, tokens.length, 3)

/-- The entries of a flow mapping from one on, up to its end. A node that is no key has a void value. -/
def readFlowPair (depth : Nat) (handles : Handles) (tokens : List Token) :
    Option (List (Node String × Node String) × List Token) :=
  match tokens with
  | .flowMappingEnd :: rest => some ([], rest)
  | .key :: rest =>
    match
      if endsFlow .flowMappingEnd rest || rest.head? == some .value then some (void, rest)
      else read depth handles .flow rest with
    | none => none
    | some (key, middle) =>
      if middle.length ≤ rest.length then
        match readFlowValue depth handles .flowMappingEnd middle with
        | none => none
        | some (content, later) =>
          if later.length ≤ rest.length then
            (readFlowPairs depth handles later).map (fun (entries, rest) => ((key, content) :: entries, rest))
          else none
      else none
  | here =>
    match read depth handles .flow here with
    | none => none
    | some (key, later) =>
      if later.length < here.length then
        (readFlowPairs depth handles later).map (fun (entries, rest) => ((key, void) :: entries, rest))
      else none
termination_by (depth, tokens.length, 4)

/-- The entries of a flow mapping after one of them. -/
def readFlowPairs (depth : Nat) (handles : Handles) (tokens : List Token) :
    Option (List (Node String × Node String) × List Token) :=
  match tokens with
  | .flowMappingEnd :: rest => some ([], rest)
  | .flowEntry :: rest => readFlowPair depth handles rest
  | _ => none
termination_by (depth, tokens.length, 3)

end

end Node

end VipKeeper.Yaml
