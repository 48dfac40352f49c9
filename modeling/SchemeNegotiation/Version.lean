/-!
# Protocol versions

The versions of TLS and DTLS, and the sets of versions that scheme definitions refer to.
-/

namespace SchemeNegotiation

/-- A protocol version. -/
inductive Version where
  | ssl30
  | tls10
  | tls11
  | tls12
  | tls13
  | dtls10
  | dtls12
  deriving DecidableEq

namespace Version

/-- Every version, which is every version up to TLS 1.3, the preferred ones first. -/
def upTo13 : List Version := [tls13, tls12, tls11, tls10, ssl30, dtls12, dtls10]

/-- Every version up to TLS 1.2. -/
def upTo12 : List Version := [tls12, tls11, tls10, ssl30, dtls12, dtls10]

/-- TLS 1.2, its datagram variant, and TLS 1.3. -/
def from12 : List Version := [tls13, tls12, dtls12]

/-- TLS 1.3 alone. -/
def only13 : List Version := [tls13]

/-- The identifier of a version on the wire. -/
def wireId : Version → UInt16
  | ssl30 => 0x0300
  | tls10 => 0x0301
  | tls11 => 0x0302
  | tls12 => 0x0303
  | tls13 => 0x0304
  | dtls10 => 0xfeff
  | dtls12 => 0xfefd

/-- The name of a version in messages. -/
def name : Version → String
  | ssl30 => "SSLv3"
  | tls10 => "TLSv1"
  | tls11 => "TLSv1.1"
  | tls12 => "TLSv1.2"
  | tls13 => "TLSv1.3"
  | dtls10 => "DTLSv1.0"
  | dtls12 => "DTLSv1.2"

/-- The tag of a version in stored and diagnostic forms. -/
def tag : Version → String
  | ssl30 => "Ssl30"
  | tls10 => "Tls10"
  | tls11 => "Tls11"
  | tls12 => "Tls12"
  | tls13 => "Tls13"
  | dtls10 => "Dtls10"
  | dtls12 => "Dtls12"

/-- The version with an identifier on the wire. -/
def ofWireId? (id : UInt16) : Option Version :=
  upTo13.find? (·.wireId == id)

/-- The version with a tag. -/
def ofTag? (text : String) : Option Version :=
  upTo13.find? (·.tag == text)

/-- Every version is found by its identifier. -/
@[simp]
theorem ofWireId?_wireId (v : Version) : ofWireId? v.wireId = some v := by
  cases v <;> rfl

/-- Every version is found by its tag. -/
@[simp]
theorem ofTag?_tag (v : Version) : ofTag? v.tag = some v := by
  cases v <;> decide

/-- No version is left out of the widest set. -/
theorem mem_upTo13 (v : Version) : v ∈ upTo13 := by
  cases v <;> decide

end Version

end SchemeNegotiation
