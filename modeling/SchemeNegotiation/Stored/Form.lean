import SchemeNegotiation.Policy.AllowList
import SchemeNegotiation.Stored.Value

/-!
# Stored forms

How the values of this library are kept: plain alternatives as their tags, the others as records.
An allow-list is kept by its identifiers alone, and is checked again when it is read.
-/

namespace SchemeNegotiation

/-- The stored form of a key algorithm. -/
def KeyAlgorithm.toStored (a : KeyAlgorithm) : Stored := .text a.tag

/-- Reads a key algorithm. -/
def KeyAlgorithm.ofStored? (s : Stored) : Option KeyAlgorithm := s.tag?.bind ofTag?

/-- The stored form of a digest. -/
def Hash.toStored (h : Hash) : Stored := .text h.tag

/-- Reads a digest. -/
def Hash.ofStored? (s : Stored) : Option Hash := s.tag?.bind ofTag?

/-- The stored form of a group. -/
def NamedGroup.toStored (g : NamedGroup) : Stored := .text g.tag

/-- Reads a group. -/
def NamedGroup.ofStored? (s : Stored) : Option NamedGroup := s.tag?.bind ofTag?

/-- The stored form of a version. -/
def Version.toStored (v : Version) : Stored := .text v.tag

/-- Reads a version. -/
def Version.ofStored? (s : Stored) : Option Version := s.tag?.bind ofTag?

namespace PssParams

/-- The stored form of parameters, under the name of their algorithm. -/
def toStored (p : PssParams) : Stored :=
  .record [("Pss", .record
    [("hash", p.hash.toStored), ("mgf_hash", p.maskHash.toStored),
      ("salt_len", .natural p.saltLength.toNat)])]

/-- Reads parameters; nothing may stand beside the name of their algorithm. -/
def ofStored? : Stored → Option PssParams
  | .record [("Pss", .record fields)] => do
    let hash ← Hash.ofStored? (← Stored.field? "hash" fields)
    let maskHash ← Hash.ofStored? (← Stored.field? "mgf_hash" fields)
    let saltLength ← (← Stored.field? "salt_len" fields).longWord?
    return ⟨hash, maskHash, saltLength⟩
  | _ => none

end PssParams

namespace EcParameters

/-- The stored form of domain parameters. -/
def toStored (p : EcParameters) : Stored :=
  .record [("oid", .text p.oid), ("field_bits", .natural p.fieldBits.toNat)]

/-- Reads domain parameters. -/
def ofStored? (s : Stored) : Option EcParameters := do
  match ← s.fields? ["oid", "field_bits"] with
  | [oid, fieldBits] => return ⟨← oid.text?, ← fieldBits.word?⟩
  | _ => none

end EcParameters

namespace AllowList

/-- The reason why a tree is no allow-list. -/
inductive ReadError where
  /-- The tree does not have the form of one. -/
  | malformed
  /-- The tree has the form of one that is not valid. -/
  | refused (reason : Error)
  deriving DecidableEq

/-- The name of the field that holds the identifiers. -/
def idsField : String := "signature_schemes"

/-- The stored form of a list; entries that are no scheme are not kept. -/
def toStored (l : AllowList) : Stored :=
  .record [(idsField, .list (l.ids.map fun id => .natural id.toNat))]

/-- The identifiers in a tree. They may be left out, for an empty list, but not repeated. -/
def storedIds? : Stored → Option (List UInt16)
  | .record fields =>
    match Stored.under idsField fields with
    | [] => some []
    | [ids] => ids.listOf? Stored.word?
    | _ => none
  | .list [] => some []
  | .list [ids] => ids.listOf? Stored.word?
  | _ => none

/-- Reads a list, which must be valid. -/
def ofStored (s : Stored) : Except ReadError AllowList :=
  match storedIds? s with
  | none => .error .malformed
  | some ids => (ofIds ids).validated.mapError .refused

end AllowList

end SchemeNegotiation
