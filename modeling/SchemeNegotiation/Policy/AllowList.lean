import SchemeNegotiation.Diagnostics.Traced
import SchemeNegotiation.Scheme
import SchemeNegotiation.Scheme.Table
import SchemeNegotiation.Text.Quoted
import SchemeNegotiation.Text.Reading

/-!
# Allow-lists

The configured list of enabled schemes. An empty list enables every scheme, so a list in which
nothing was recognised must not pass for an empty one: `validate` refuses it.
-/

namespace SchemeNegotiation

/-- The configured schemes, and the entries that are no scheme. -/
structure AllowList where
  /-- The identifiers of the enabled schemes, each once. -/
  ids : List UInt16
  /-- The entries that were not recognised. -/
  unrecognized : List String
  deriving DecidableEq

namespace AllowList

open Text

/-- The list that enables every scheme. -/
def unrestricted : AllowList := ⟨[], []⟩

/-- Enables one more scheme, unless it is enabled already. -/
def enable (l : AllowList) (id : UInt16) : AllowList :=
  if l.ids.contains id then l else { l with ids := l.ids ++ [id] }

/-- Records an entry that is no scheme. -/
def reject (l : AllowList) (entry : String) : AllowList :=
  { l with unrecognized := l.unrecognized ++ [entry] }

/-- Adds an identifier. -/
def addId (l : AllowList) (id : UInt16) : AllowList :=
  if (Definition.ofId? id).isSome then l.enable id else l.reject (wireHex id)

/-- The list of some identifiers, in order. -/
def ofIds (ids : List UInt16) : AllowList :=
  ids.foldl addId unrestricted

/-- Adds a name, up to the case of letters; a blank one is skipped, an unknown one is told. -/
def addName (l : AllowList) (entry : String) : Traced AllowList :=
  let name := trim entry
  if name = "" then return l
  else
    match Definition.ofName? name with
    | some d => return l.enable d.id
    | none => do
      .tell (.unknownName name)
      return l.reject name

/-- Adds several names in order. -/
def addNames (l : AllowList) : List String → Traced AllowList
  | [] => return l
  | entry :: rest => do
    let next ← l.addName entry
    next.addNames rest

/-- The list of some names, in order. -/
def ofNames (names : List String) : Traced AllowList :=
  unrestricted.addNames names

/-- The list of names that are separated by commas. -/
def parse (text : String) : Traced AllowList :=
  ofNames (commaSeparated text)

/-- The diagnostic form of a list of texts. -/
def textsShape (texts : List String) : Shape :=
  .list (texts.map fun text => .atom (quote text))

/-- Refuses a list in which entries were given and none was recognised. -/
def validate (l : AllowList) : Except Error Unit :=
  if l.ids.isEmpty && !l.unrecognized.isEmpty then
    .error (.configuration
      ("no supported signature scheme in " ++ (textsShape l.unrecognized).line))
  else .ok ()

/-- A list that has been validated. -/
def validated (l : AllowList) : Except Error AllowList := do
  l.validate
  return l

/-- The environment variable that holds the list. -/
def variableName : String := "TLS_SIGNATURE_SCHEMES"

/-- The error for a value of the variable that is not UTF-8. -/
def notUnicode (value : ByteArray) : Error :=
  .configuration (variableName ++ ": environment variable was not valid unicode: " ++
    quoteBytes value.data.toList)

/--
The list in the value of the environment variable. A variable that is unset or blank enables every
scheme; double quotes around the value do not count.
-/
def ofVariable (value? : Option ByteArray) : Traced (Except Error AllowList) :=
  match value? with
  | none => return .ok unrestricted
  | some value =>
    match String.fromUTF8? value with
    | none => return .error (notUnicode value)
    | some text =>
      if trim text = "" then return .ok unrestricted
      else do return (← parse (unquote text)).validated

/-- Whether every scheme is enabled. -/
def isUnrestricted (l : AllowList) : Bool :=
  l.ids.isEmpty

/-- Whether a scheme is enabled. -/
def permits (l : AllowList) (s : Scheme) : Bool :=
  l.isUnrestricted || l.ids.contains s.id

/-- The diagnostic form of a list. -/
def shape (l : AllowList) : Shape :=
  .fields "SignatureConfig"
    [("signature_schemes", .list (l.ids.map fun id => .number id.toNat)),
      ("unrecognized", textsShape l.unrecognized)]

end AllowList

end SchemeNegotiation
