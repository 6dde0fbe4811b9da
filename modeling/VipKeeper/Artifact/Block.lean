/-! The grammar of configuration files: statements, and blocks in braces that hold more of them.

A line holds a statement, the header of a block and its opening brace, or a closing brace; its depth is
shown by four spaces for each block around it. Blank lines separate blocks. -/

namespace VipKeeper

inductive Item where
  | statement (words : String)
  | block (header : String) (items : List Item)
  | gap

namespace Item

def indent (depth : Nat) : String :=
  String.ofList (List.replicate (4 * depth) ' ')

mutual

/-- The lines of an item inside a number of blocks. -/
def lines (depth : Nat) : Item → List String
  | statement words => [indent depth ++ words]
  | block header items => (indent depth ++ header ++ " \x7b") :: linesOf (depth + 1) items ++ [indent depth ++ "\x7d"]
  | gap => [""]

def linesOf (depth : Nat) : List Item → List String
  | [] => []
  | item :: rest => lines depth item ++ linesOf depth rest

end

/-- The text of a configuration file; every line is ended. -/
def render (items : List Item) : String :=
  String.join ((linesOf 0 items).map (fun line => line ++ "\n"))

end Item

end VipKeeper
