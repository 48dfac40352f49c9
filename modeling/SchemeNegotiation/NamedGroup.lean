import SchemeNegotiation.Text.Quoted
import SchemeNegotiation.Text.Shape

/-!
# Named groups

The elliptic curves that have a name in the protocol, the domain parameters that a key or a
certificate carries, and what the local side knows about both.
-/

namespace SchemeNegotiation

/-- A named elliptic curve. -/
inductive NamedGroup where
  | secp256r1
  | secp384r1
  | secp521r1
  | x25519
  | x448
  deriving DecidableEq

namespace NamedGroup

/-- Every named group, the preferred ones first. -/
def all : List NamedGroup := [secp256r1, secp384r1, secp521r1, x25519, x448]

/-- The identifier of a group on the wire. -/
def wireId : NamedGroup → UInt16
  | secp256r1 => 0x0017
  | secp384r1 => 0x0018
  | secp521r1 => 0x0019
  | x25519 => 0x001d
  | x448 => 0x001e

/-- The name of a group. -/
def name : NamedGroup → String
  | secp256r1 => "secp256r1"
  | secp384r1 => "secp384r1"
  | secp521r1 => "secp521r1"
  | x25519 => "x25519"
  | x448 => "x448"

/-- The tag of a group in stored and diagnostic forms. -/
def tag : NamedGroup → String
  | secp256r1 => "Secp256r1"
  | secp384r1 => "Secp384r1"
  | secp521r1 => "Secp521r1"
  | x25519 => "X25519"
  | x448 => "X448"

/-- The object identifier of the curve. -/
def oid : NamedGroup → String
  | secp256r1 => "1.2.840.10045.3.1.7"
  | secp384r1 => "1.3.132.0.34"
  | secp521r1 => "1.3.132.0.35"
  | x25519 => "1.3.101.110"
  | x448 => "1.3.101.111"

/-- The number of bits of a field element. -/
def fieldBits : NamedGroup → UInt16
  | secp256r1 => 256
  | secp384r1 => 384
  | secp521r1 => 521
  | x25519 => 255
  | x448 => 448

/-- The group with an identifier on the wire. -/
def ofWireId? (id : UInt16) : Option NamedGroup :=
  all.find? (·.wireId == id)

/-- The group with an object identifier. -/
def ofOid? (text : String) : Option NamedGroup :=
  all.find? (·.oid == text)

/-- The group with a tag. -/
def ofTag? (text : String) : Option NamedGroup :=
  all.find? (·.tag == text)

/-- Every group is found by its identifier. -/
@[simp]
theorem ofWireId?_wireId (g : NamedGroup) : ofWireId? g.wireId = some g := by
  cases g <;> rfl

/-- Every group is found by its tag. -/
@[simp]
theorem ofTag?_tag (g : NamedGroup) : ofTag? g.tag = some g := by
  cases g <;> decide

/-- No group is left out of the list of all. -/
theorem mem_all (g : NamedGroup) : g ∈ all := by
  cases g <;> decide

end NamedGroup

/-- The domain parameters of a curve, which need not be a named one. -/
structure EcParameters where
  /-- The object identifier of the curve. -/
  oid : String
  /-- The number of bits of a field element. -/
  fieldBits : UInt16
  deriving DecidableEq

namespace EcParameters

/-- The domain parameters of a named group. -/
def ofGroup (g : NamedGroup) : EcParameters :=
  ⟨g.oid, g.fieldBits⟩

/-- The text of domain parameters in messages. -/
def text (p : EcParameters) : String :=
  p.oid ++ " (" ++ p.fieldBits.toNat.repr ++ " bits)"

/-- The diagnostic form of domain parameters. -/
def shape (p : EcParameters) : Text.Shape :=
  .fields "EcParameters"
    [("oid", .atom (Text.quote p.oid)), ("field_bits", .number p.fieldBits.toNat)]

end EcParameters

/-- What the local side knows about groups. -/
structure GroupRegistry where
  /-- The group that some domain parameters belong to. -/
  groupOf : EcParameters → Option NamedGroup
  /-- Whether a group is enabled. -/
  isSupported : NamedGroup → Bool

/-- The groups that are enabled, the preferred ones first. -/
structure SupportedGroups where
  groups : List NamedGroup
  deriving DecidableEq

namespace SupportedGroups

/-- Every group enabled. -/
def all : SupportedGroups := ⟨NamedGroup.all⟩

/-- The group with the object identifier and the field size of some domain parameters. -/
def groupOf (p : EcParameters) : Option NamedGroup :=
  (NamedGroup.ofOid? p.oid).filter (·.fieldBits == p.fieldBits)

/-- The registry in which exactly these groups are enabled. -/
def registry (s : SupportedGroups) : GroupRegistry :=
  ⟨groupOf, s.groups.contains⟩

/-- Domain parameters belong to a group exactly when they are the parameters of that group. -/
theorem groupOf_eq_some_iff {p : EcParameters} {g : NamedGroup} :
    groupOf p = some g ↔ p = .ofGroup g := by
  constructor
  · intro found
    simp only [groupOf, Option.filter_eq_some_iff, beq_iff_eq] at found
    obtain ⟨named, sized⟩ := found
    have oid := List.find?_some named
    cases p
    simp_all [EcParameters.ofGroup]
  · rintro rfl
    cases g <;> decide

end SupportedGroups

end SchemeNegotiation
