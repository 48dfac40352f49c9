import SchemeNegotiation.Scheme
import SchemeNegotiation.Scheme.Table

/-!
# Registries

A registry holds every known scheme, in the order of the table, with whether its provider can carry
it out. The provider is asked once for each scheme, when the registry is built; nothing in a
registry changes afterwards.
-/

namespace SchemeNegotiation

/-- What is excluded from a registry though the provider has it. -/
structure Exclusion where
  /-- Whether a scheme is excluded. -/
  excludes : Definition → Bool

namespace Exclusion

/-- Excludes nothing. -/
def nothing : Exclusion := ⟨fun _ => false⟩

/-- Excludes the schemes whose identifier starts with a byte. -/
def ofHashByte (b : UInt8) : Exclusion := ⟨fun d => d.hashByte == b⟩

end Exclusion

/-- Every known scheme with its availability, and the provider that was asked. -/
structure Registry where
  schemes : List Scheme
  provider : Provider

namespace Registry

/-- Whether a scheme is available; the first reason against it is told and ends the questions. -/
def probe (provider : Provider) (exclusion : Exclusion) (d : Definition) : Traced Bool := do
  let curves ←
    if d.keyAlgorithm = .ec then .ask .ecAvailable provider.ecAvailable else pure true
  if !curves then
    .tell (.noEllipticCurves d)
    return false
  let instantiable ← .ask (.canInstantiate d.algorithm) (provider.canInstantiate d.algorithm)
  if !instantiable then
    .tell (.notInstantiable d)
    return false
  let excluded ← .ask (.excludes d) (exclusion.excludes d)
  if excluded then
    .tell (.excluded d)
    return false
  return true

/-- A scheme with its availability. -/
def check (provider : Provider) (exclusion : Exclusion) (d : Definition) : Traced Scheme := do
  let available ← probe provider exclusion d
  return ⟨d, available⟩

/-- Builds a registry, asking the provider and the exclusion about each scheme of the table. -/
def build (provider : Provider) (exclusion : Exclusion) : Traced Registry := do
  let schemes ← Traced.mapAll (check provider exclusion) Definition.table
  return ⟨schemes, provider⟩

/-- The scheme with an identifier. -/
def ofId? (r : Registry) (id : UInt16) : Option Scheme :=
  r.schemes.find? (·.id == id)

/-- The scheme with a name, up to the case of letters. -/
def ofName? (r : Registry) (name : String) : Option Scheme :=
  r.schemes.find? fun s => Text.sameLetters s.name name

/-- The name of an identifier, known or not. -/
def nameOfId (r : Registry) (id : UInt16) : String :=
  match r.ofId? id with
  | some s => s.name
  | none => pairName id

/-- The schemes that are available, in order. -/
def available (r : Registry) : List Scheme :=
  r.schemes.filter (·.available)

/-- A verifier of a scheme for a key, made by the provider of the registry. -/
def verifier (r : Registry) (s : Scheme) (key : PublicKey) :
    Traced (Except Error (Option Verifier)) :=
  s.verifier r.provider key

/-- The diagnostic form of a registry. -/
def shape (r : Registry) : Text.Shape :=
  .record "SchemeRegistry" [("schemes", .list (r.schemes.map Scheme.shape))] true

end Registry

end SchemeNegotiation
