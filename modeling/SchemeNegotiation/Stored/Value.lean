/-!
# Stored values

The tree in which values are kept between runs: texts, numbers, lists and records. Reading a value
from a tree either gives the value, or finds that the tree is not one of its forms.
-/

namespace SchemeNegotiation

/-- A tree of stored data. Numbers that are not natural are kept apart, as nothing reads them. -/
inductive Stored where
  | null
  | flag (value : Bool)
  | natural (value : Nat)
  | otherNumber
  | text (value : String)
  | list (items : List Stored)
  | record (fields : List (String × Stored))
  deriving Inhabited

namespace Stored

/-- The text in a tree. -/
def text? : Stored → Option String
  | text value => some value
  | _ => none

/-- The number in a tree, if it is below a bound. -/
def below? (bound : Nat) : Stored → Option Nat
  | natural n => if n < bound then some n else none
  | _ => none

/-- The 16-bit number in a tree. -/
def word? (s : Stored) : Option UInt16 :=
  (s.below? UInt16.size).map UInt16.ofNat

/-- The 64-bit number in a tree. -/
def longWord? (s : Stored) : Option UInt64 :=
  (s.below? UInt64.size).map UInt64.ofNat

/-- The items of a list, each read in the same way. -/
def listOf? {α : Type} (read : Stored → Option α) : Stored → Option (List α)
  | list items => items.mapM read
  | _ => none

/-- The tag of a plain alternative: its text, or the record of nothing under that tag. -/
def tag? : Stored → Option String
  | text tag => some tag
  | record [(tag, null)] => some tag
  | _ => none

/-- The trees that stand under a name among the fields of a record, in order. -/
def under (name : String) (fields : List (String × Stored)) : List Stored :=
  (fields.filter fun field => field.1 == name).map Prod.snd

/-- The tree of a required field. A field that is there twice is no better than one that is not. -/
def field? (name : String) (fields : List (String × Stored)) : Option Stored :=
  match under name fields with
  | [value] => some value
  | _ => none

/--
The trees of some named fields, which are required. They stand in a record once under their names,
where other fields do not count, or all in a list in this order.
-/
def fields? (names : List String) : Stored → Option (List Stored)
  | record fields => names.mapM fun name => field? name fields
  | list items => if items.length = names.length then some items else none
  | _ => none

end Stored

end SchemeNegotiation
