import SchemeNegotiation.Algorithm
import SchemeNegotiation.NamedGroup
import SchemeNegotiation.Version

/-!
# Scheme definitions

What is fixed about a signature scheme: its identifier and name, the algorithm behind it, the keys
it takes and the versions it belongs to.
-/

namespace SchemeNegotiation

/-- The fixed description of a signature scheme. -/
structure Definition where
  /-- The identifier on the wire. -/
  id : UInt16
  /-- The name, in lower case. -/
  name : String
  /-- The algorithm that a provider is asked for. -/
  algorithm : String
  /-- The kind of keys that the scheme takes. -/
  keyAlgorithm : KeyAlgorithm
  /-- The parameters of the algorithm. -/
  params : Option PssParams
  /-- The group that the scheme is bound to. -/
  group : Option NamedGroup
  /-- The least size of a key in bits. -/
  minimalKeySize : Option UInt32
  /-- The versions in which the scheme may appear. -/
  protocols : List Version
  /-- The versions in which the scheme may sign handshake messages. -/
  handshakeProtocols : List Version
  deriving DecidableEq

namespace Definition

/-- A scheme without parameters, group or limit, the same in and outside handshakes. -/
def plain (id : UInt16) (name algorithm : String) (key : KeyAlgorithm) (protocols : List Version) :
    Definition :=
  ⟨id, name, algorithm, key, none, none, none, protocols, protocols⟩

/-- An ECDSA scheme that is bound to a group. -/
def boundEcdsa (id : UInt16) (name algorithm : String) (group : NamedGroup) : Definition :=
  { plain id name algorithm .ec Version.upTo13 with group := some group }

/-- An RSA scheme with PKCS #1 padding and a least key size. -/
def pkcs1 (id : UInt16) (name algorithm : String) (least : UInt32)
    (protocols handshakeProtocols : List Version) : Definition :=
  { plain id name algorithm .rsa protocols with
    minimalKeySize := some least
    handshakeProtocols := handshakeProtocols }

/-- An RSASSA-PSS scheme with a least key size. -/
def pss (id : UInt16) (name : String) (key : KeyAlgorithm) (hash : Hash) (least : UInt32) :
    Definition :=
  { plain id name "RSASSA-PSS" key Version.from12 with
    params := some (.ofHash hash)
    minimalKeySize := some least }

/-- The leading byte of the identifier, which older versions read as a digest. -/
def hashByte (d : Definition) : UInt8 :=
  UInt8.ofNat (d.id.toNat / 256)

/-- The diagnostic form of a definition. -/
def shape (d : Definition) : Text.Shape :=
  let versions (l : List Version) := Text.Shape.list (l.map fun v => .atom v.tag)
  .fields "SchemeDefinition"
    [("id", .number d.id.toNat),
      ("name", .atom (Text.quote d.name)),
      ("algorithm", .atom (Text.quote d.algorithm)),
      ("key_algorithm", .atom d.keyAlgorithm.tag),
      ("params", .option (d.params.map PssParams.shape)),
      ("named_group", .option (d.group.map fun g => .atom g.tag)),
      ("minimal_key_size", .option (d.minimalKeySize.map fun n => .number n.toNat)),
      ("supported_protocols", versions d.protocols),
      ("handshake_supported_protocols", versions d.handshakeProtocols)]

end Definition

end SchemeNegotiation
