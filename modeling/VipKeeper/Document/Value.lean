import VipKeeper.Document.Format

/-! Document trees in the JSON notation, and how they are read. -/

namespace VipKeeper

/-- A document tree. A number that is no natural number is kept without its value. -/
inductive Value where
  | null
  | flag (holds : Bool)
  | natural (n : Nat)
  | otherNumber
  | text (content : String)
  | list (items : List Value)
  | record (members : List (String × Value))
  deriving Inhabited

namespace Value

def text? : Value → Option String
  | text content => some content
  | _ => none

def natural? : Value → Option Nat
  | natural n => some n
  | _ => none

def flag? : Value → Option Bool
  | flag holds => some holds
  | _ => none

def optional? : Value → Option (Option Value)
  | null => some none
  | value => some (some value)

/-- An alternative without content is a text, or a record whose only member has no value. -/
def variant? : Value → Option String
  | text name => some name
  | record [(name, null)] => some name
  | _ => none

def items? : Value → Option (List Value)
  | list items => some items
  | _ => none

def entries? : Value → Option (List (Value × Value))
  | record members => some (members.map (fun member => (text member.1, member.2)))
  | _ => none

/-- A record may also be a list of its members in the order of the fields, without the last ones. -/
def record? (fields : List Field) : Value → Option (String → Option Value)
  | record members => Field.collect fields members
  | list items =>
    if items.length ≤ fields.length then Field.collect fields ((fields.map Field.name).zip items) else none
  | _ => none

def format : Format Value :=
  ⟨text?, natural?, flag?, optional?, variant?, items?, entries?, record?⟩

end Value

end VipKeeper
