/-!
# Shapes of values

The diagnostic text of a value follows its shape: a record with named fields, a tuple, a list, or
an atom that is already text. A shape is written on one line, or as a block with one part on each
line.
-/

namespace SchemeNegotiation.Text

/-- How a value is put together. An open record has parts that are not shown. -/
inductive Shape where
  | atom (text : String)
  | record (name : String) (fields : List (String × Shape)) (isOpen : Bool)
  | tuple (name : String) (items : List Shape)
  | list (items : List Shape)

namespace Shape

/-- The text of a shape on one line. -/
def line : Shape → String
  | .atom text => text
  | .record name fields isOpen =>
    let parts := fieldLines fields ++ (if isOpen then [".."] else [])
    if parts.isEmpty then name else name ++ " \x7b " ++ ", ".intercalate parts ++ " \x7d"
  | .tuple name items => name ++ "(" ++ ", ".intercalate (lines items) ++ ")"
  | .list items => "[" ++ ", ".intercalate (lines items) ++ "]"
where
  /-- The lines of several shapes. -/
  lines : List Shape → List String
    | [] => []
    | item :: rest => item.line :: lines rest
  /-- The lines of named fields. -/
  fieldLines : List (String × Shape) → List String
    | [] => []
    | (name, value) :: rest => (name ++ ": " ++ value.line) :: fieldLines rest

/-- A part of a block, on a line of its own. -/
def part (depth : Nat) (text : String) : String :=
  String.ofList (List.replicate (4 * (depth + 1)) ' ') ++ text ++ "\n"

/-- The end of a block at a depth. -/
def closing (depth : Nat) (text : String) : String :=
  String.ofList (List.replicate (4 * depth) ' ') ++ text

/-- The text of a shape as a block, from the second line on indented to `depth`. -/
def block : Nat → Shape → String
  | _, .atom text => text
  | depth, .record name fields isOpen =>
    let parts := fieldBlocks (depth + 1) fields ++ (if isOpen then [".."] else [])
    if parts.isEmpty then name
    else name ++ " \x7b\n" ++ String.join (parts.map (part depth)) ++ closing depth "\x7d"
  | depth, .tuple name items =>
    name ++ "(\n" ++ String.join ((blocks (depth + 1) items).map (part depth)) ++ closing depth ")"
  | depth, .list items =>
    if items.isEmpty then "[]"
    else "[\n" ++ String.join ((blocks (depth + 1) items).map (part depth)) ++ closing depth "]"
where
  /-- The blocks of several shapes, each followed by a comma. -/
  blocks : Nat → List Shape → List String
    | _, [] => []
    | depth, item :: rest => (item.block depth ++ ",") :: blocks depth rest
  /-- The blocks of named fields, each followed by a comma. -/
  fieldBlocks : Nat → List (String × Shape) → List String
    | _, [] => []
    | depth, (name, value) :: rest =>
      (name ++ ": " ++ value.block depth ++ ",") :: fieldBlocks depth rest

/-- A closed record. -/
def fields (name : String) (parts : List (String × Shape)) : Shape :=
  .record name parts false

/-- A number, in decimal. -/
def number (n : Nat) : Shape :=
  .atom n.repr

/-- A value that may be missing. -/
def option (value : Option Shape) : Shape :=
  match value with
  | none => .atom "None"
  | some value => .tuple "Some" [value]

end Shape

end SchemeNegotiation.Text
