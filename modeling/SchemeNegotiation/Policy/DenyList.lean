import SchemeNegotiation.Diagnostics.Traced
import SchemeNegotiation.Text.Reading

/-!
# Policies over algorithms

A policy over algorithm names may be decided elsewhere (`Constraints`). The one that is decided here
refuses the algorithms on a list (`DenyList`): an entry refuses the algorithm of that name, every
algorithm with a component of that name, and parameters with a digest of that name.

An algorithm name such as `SHA256withRSAandMGF1` is put together from the names of a digest and of
other algorithms. Its components are the non-blank pieces between the words `with`, `and` and the
slash, in upper case. A digest component with a hyphen also counts under the name without it.
-/

namespace SchemeNegotiation

/-! ### Constraints -/

/-- The answers of a policy over algorithms. -/
structure Constraints where
  /-- Whether an algorithm with its parameters may be used in each of some ways. -/
  permits : List Primitive → String → Option PssParams → Bool

namespace Constraints

/-- The policy that permits everything. -/
def permitAll : Constraints := ⟨fun _ _ _ => true⟩

/-- Asks a policy about an algorithm. -/
def ask (c : Constraints) (primitives : List Primitive) (algorithm : String)
    (params : Option PssParams) : Traced Bool :=
  .ask (.permits primitives algorithm params) (c.permits primitives algorithm params)

end Constraints

/-! ### Components of algorithm names -/

namespace Components

open Text

/-- The words at which a name is cut, one after the other. -/
def separators : List String := ["WITH", "AND", "/"]

/-- The pieces of a name in upper case between all separators. -/
def cutAll (cs : List Char) : List (List Char) :=
  separators.foldl (fun parts word => parts.flatMap (pieces word.toList)) [cs]

/-- The components that stand in a name, in order. -/
def standing (algorithm : String) : List (List Char) :=
  ((cutAll (upper algorithm).toList).map (strip isBlank)).filter (! ·.isEmpty)

/-- A name without its first hyphen. -/
def unhyphenated (cs : List Char) : List Char :=
  cs.erase '-'

/-- Whether a component is a digest name with a hyphen. -/
def isHyphenated (cs : List Char) : Bool :=
  "SHA".toList.isPrefixOf cs && cs.contains '-'

/-- The other names under which digest components count, in order. -/
def aliases (components : List (List Char)) : List (List Char) :=
  (components.filter isHyphenated).map unhyphenated

/-- The components of an algorithm name: those that stand in it, then their other names. -/
def ofName (algorithm : String) : List String :=
  (standing algorithm ++ aliases (standing algorithm)).map String.ofList

end Components

/-! ### Deny-lists -/

/-- The names that are refused, in upper case and without blanks around them. -/
structure DenyList where
  entries : List String
  deriving DecidableEq

namespace DenyList

open Text

/-- The deny-list of some names; blank names are dropped. -/
def ofNames (names : List String) : DenyList :=
  ⟨(names.map fun name => upper (trim name)).filter (· ≠ "")⟩

/-- The deny-list of names that are separated by commas. -/
def parse (text : String) : DenyList :=
  ofNames (commaSeparated text)

/-- Whether nothing is refused. -/
def isEmpty (l : DenyList) : Bool :=
  l.entries.isEmpty

/-- Whether a name is on the list, up to the case of letters. -/
def contains (l : DenyList) (name : String) : Bool :=
  l.entries.contains (upper name)

/-- The name under which the digest of some parameters is looked up. -/
def hashName (h : Hash) : String :=
  String.ofList (Components.unhyphenated h.name.toList)

/-- Whether parameters name a digest on the list. -/
def containsHash (l : DenyList) (params : Option PssParams) : Bool :=
  match params with
  | none => false
  | some p => l.contains (hashName p.hash) || l.contains (hashName p.maskHash)

/-- Whether an algorithm with its parameters is not refused; one without a name always is. -/
def permits (l : DenyList) (algorithm : String) (params : Option PssParams) : Bool :=
  algorithm ≠ "" && !l.contains algorithm && !(Components.ofName algorithm).any l.contains &&
    !l.containsHash params

/-- The policy of a deny-list, which does not depend on the kind of use. -/
def constraints (l : DenyList) : Constraints :=
  ⟨fun _ => l.permits⟩

end DenyList

end SchemeNegotiation
