import SchemeNegotiation.Text.Reading
import SchemeNegotiation.Text.Shape

/-!
# Algorithms

What algorithms are told apart by beside their names: the kinds of keys that signature schemes are
bound to, the parameters that an algorithm may need, and the kinds of use that a policy is asked
about. RSASSA-PSS is the only algorithm with parameters: it takes a message digest, the digest of
its mask generation, and the length of its salt.
-/

namespace SchemeNegotiation

/-- The kind of a key. -/
inductive KeyAlgorithm where
  | rsa
  | rsaPss
  | ec
  | dsa
  | ed25519
  | ed448
  deriving DecidableEq

namespace KeyAlgorithm

/-- Every key algorithm. -/
def all : List KeyAlgorithm := [rsa, rsaPss, ec, dsa, ed25519, ed448]

/-- The name of a key algorithm. -/
def name : KeyAlgorithm → String
  | rsa => "RSA"
  | rsaPss => "RSASSA-PSS"
  | ec => "EC"
  | dsa => "DSA"
  | ed25519 => "Ed25519"
  | ed448 => "Ed448"

/-- The tag of a key algorithm in stored and diagnostic forms. -/
def tag : KeyAlgorithm → String
  | rsa => "Rsa"
  | rsaPss => "RsaPss"
  | ec => "Ec"
  | dsa => "Dsa"
  | ed25519 => "Ed25519"
  | ed448 => "Ed448"

/-- The key algorithm with a name, up to the case of letters. -/
def ofName? (text : String) : Option KeyAlgorithm :=
  all.find? fun algorithm => Text.sameLetters algorithm.name text

/-- The key algorithm with a tag. -/
def ofTag? (text : String) : Option KeyAlgorithm :=
  all.find? (·.tag == text)

/-- Whether limits on the size of a key apply to this kind. -/
def isRsaFamily : KeyAlgorithm → Bool
  | rsa | rsaPss => true
  | _ => false

/-- Every key algorithm is found by its tag. -/
@[simp]
theorem ofTag?_tag (a : KeyAlgorithm) : ofTag? a.tag = some a := by
  cases a <;> decide

end KeyAlgorithm

/-- A digest that signature parameters name. -/
inductive Hash where
  | sha256
  | sha384
  | sha512
  deriving DecidableEq

namespace Hash

/-- Every digest that signature parameters name. -/
def all : List Hash := [sha256, sha384, sha512]

/-- The name of a digest. -/
def name : Hash → String
  | sha256 => "SHA-256"
  | sha384 => "SHA-384"
  | sha512 => "SHA-512"

/-- The tag of a digest in stored and diagnostic forms. -/
def tag : Hash → String
  | sha256 => "Sha256"
  | sha384 => "Sha384"
  | sha512 => "Sha512"

/-- The number of bytes of a digest. -/
def size : Hash → Nat
  | sha256 => 32
  | sha384 => 48
  | sha512 => 64

/-- The digest with a name, spelled exactly. -/
def ofName? (text : String) : Option Hash :=
  all.find? (·.name == text)

/-- The digest with a tag. -/
def ofTag? (text : String) : Option Hash :=
  all.find? (·.tag == text)

/-- Every digest is found by its tag. -/
@[simp]
theorem ofTag?_tag (h : Hash) : ofTag? h.tag = some h := by
  cases h <;> decide

end Hash

/-- The parameters of RSASSA-PSS. -/
structure PssParams where
  /-- The digest of the message. -/
  hash : Hash
  /-- The digest of the mask generation. -/
  maskHash : Hash
  /-- The length of the salt in bytes. -/
  saltLength : UInt64
  deriving DecidableEq

namespace PssParams

/-- One digest for both purposes, and a salt as long as the digest. -/
def ofHash (h : Hash) : PssParams :=
  ⟨h, h, UInt64.ofNat h.size⟩

/-- The diagnostic form of parameters. -/
def shape (p : PssParams) : Text.Shape :=
  .fields "Pss"
    [("hash", .atom p.hash.tag), ("mgf_hash", .atom p.maskHash.tag),
      ("salt_len", .number p.saltLength.toNat)]

end PssParams

/-- A kind of use of an algorithm. -/
inductive Primitive where
  | messageDigest
  | signature
  | keyAgreement
  | keyEncapsulation
  | cipher
  deriving DecidableEq

/-- The tag of a primitive in diagnostic forms. -/
def Primitive.tag : Primitive → String
  | messageDigest => "MessageDigest"
  | signature => "Signature"
  | keyAgreement => "KeyAgreement"
  | keyEncapsulation => "KeyEncapsulation"
  | cipher => "Cipher"

end SchemeNegotiation
