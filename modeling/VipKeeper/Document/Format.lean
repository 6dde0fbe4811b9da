import VipKeeper.Net.Address

/-! What a program asks of a document tree, whatever notation the tree was written in. -/

namespace VipKeeper

/-- A member of a record: its name, and other names that are read but never written. -/
structure Field where
  name : String
  aliases : List String

namespace Field

def named (name : String) : Field :=
  ⟨name, []⟩

def answers (field : Field) (name : String) : Bool :=
  name == field.name || field.aliases.contains name

/-- The members of a record by field. A field that is given twice makes the record unreadable; members that
answer to no field are of no interest. -/
def collect {ν : Type} (fields : List Field) (members : List (String × ν)) : Option (String → Option ν) :=
  let mentions (field : Field) := members.filter (fun member => field.answers member.1)
  if fields.all (fun field => decide ((mentions field).length ≤ 1)) then
    some (fun name => (fields.find? (fun field => field.name == name)).bind (fun field =>
      (mentions field).head?.map Prod.snd))
  else none

end Field

/-- The questions that can be put to the values of a notation. `optional?` tells an absent value from one that
is there, `variant?` names one of several alternatives, and `record?` looks up members by the name of their
field. -/
structure Format (ν : Type) where
  text? : ν → Option String
  natural? : ν → Option Nat
  flag? : ν → Option Bool
  optional? : ν → Option (Option ν)
  variant? : ν → Option String
  items? : ν → Option (List ν)
  entries? : ν → Option (List (ν × ν))
  record? : List Field → ν → Option (String → Option ν)

namespace Format

variable {ν α : Type}

def required (read : ν → Option α) (value : Option ν) : Option α :=
  value.bind read

/-- A member that may be missing, but not wrong. -/
def defaulted (fallback : α) (read : ν → Option α) : Option ν → Option α
  | none => some fallback
  | some value => read value

variable (format : Format ν)

def address? (value : ν) : Option Address :=
  (format.text? value).bind Address.ofText?

def word? (value : ν) : Option UInt32 :=
  (format.natural? value).bind (fun n => if n < UInt32.size then some n.toUInt32 else none)

def list? (read : ν → Option α) (value : ν) : Option (List α) :=
  (format.items? value).bind (fun items => items.mapM read)

def option? (read : ν → Option α) (value : ν) : Option (Option α) :=
  match format.optional? value with
  | none => none
  | some none => some none
  | some (some inner) => (read inner).map some

/-- A table; of several entries with one key the last counts. -/
def table? {κ : Type} [Ranked κ] (readKey : ν → Option κ) (read : ν → Option α) (value : ν) :
    Option (OrderedMap κ α) :=
  (format.entries? value).bind (fun entries =>
    (entries.mapM (fun (key, content) => do return (← readKey key, ← read content))).map OrderedMap.ofList)

end Format

end VipKeeper
