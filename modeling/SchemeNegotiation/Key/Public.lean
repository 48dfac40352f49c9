import SchemeNegotiation.Algorithm
import SchemeNegotiation.Crypto.Ed25519
import SchemeNegotiation.Crypto.Sec1
import SchemeNegotiation.Error
import SchemeNegotiation.NamedGroup

/-!
# Public keys

Keys that verify signatures. They are of one of the kinds that are handled here, Ed25519 keys and
keys on the curves P-256 and P-384, or they are held elsewhere, as keys that only some provider can
use. What negotiation needs to know about such a key is stated beside material that nobody else
reads, and that no diagnostic form shows.
-/

namespace SchemeNegotiation

open Crypto

/-- The name of a curve in messages about keys. -/
def Crypto.Curve.label : Curve → String
  | .p256 => "P-256"
  | .p384 => "P-384"

/-- The named group of a curve. -/
def Crypto.Curve.group : Curve → NamedGroup
  | .p256 => .secp256r1
  | .p384 => .secp384r1

/-- The kinds of key that are handled here. -/
inductive KeyKind where
  | ed25519
  | ecdsa (c : Curve)
  deriving DecidableEq

/-- The number of bytes in the secret of a key. -/
def KeyKind.secretSize : KeyKind → Nat
  | ed25519 => 32
  | ecdsa c => c.fieldSize

/-- A key that is held elsewhere. -/
structure ExternalKey where
  /-- The name of the key algorithm. -/
  algorithm : String
  /-- The size of the key in bits, if known. -/
  bits : Option UInt32
  /-- The domain parameters of the curve, for keys that have one. -/
  ecParameters : Option EcParameters
  /-- A handle or an encoded key, which only its provider reads. -/
  material : Bytes
  deriving DecidableEq

/-- The diagnostic form of an external key, without its material. -/
def ExternalKey.shape (k : ExternalKey) : Text.Shape :=
  .record "ExternalKey"
    [("algorithm", .atom (Text.quote k.algorithm)),
      ("bits", .option (k.bits.map fun n => .number n.toNat)),
      ("ec_parameters", .option (k.ecParameters.map EcParameters.shape))]
    true

/-- A key that verifies signatures. -/
inductive PublicKey where
  /-- An Ed25519 key, by the bytes it was given as. -/
  | ed25519 (encoding : Octets 32)
  /-- A point of a curve. -/
  | ecdsa (c : Curve) (point : Curve.Point)
  | external (key : ExternalKey)
  deriving DecidableEq

namespace PublicKey

/-- Reads an Ed25519 key, which must encode a point. -/
def ofEd25519Bytes (b : Bytes) : Except Error PublicKey :=
  match Octets.ofBytes? 32 b with
  | none => .error (.invalidKey ("Ed25519 key must be 32 bytes, got " ++ b.length.repr))
  | some encoding =>
    if (Edwards.decode? encoding).isSome then .ok (.ed25519 encoding)
    else .error
      (.invalidKey "Ed25519 point: signature error: Cannot decompress Edwards point")

/-- Reads a point of a curve. -/
def ofSec1 (c : Curve) (b : Bytes) : Except Error PublicKey :=
  match Curve.Point.ofBytes? c b with
  | none => .error (.invalidKey (c.label ++ " point: signature error"))
  | some point => .ok (.ecdsa c point)

/-- Reads a key of a kind. -/
def load : KeyKind → Bytes → Except Error PublicKey
  | .ed25519 => ofEd25519Bytes
  | .ecdsa c => ofSec1 c

/-- The name of the key algorithm. -/
def algorithm : PublicKey → String
  | ed25519 _ => KeyAlgorithm.ed25519.name
  | ecdsa .. => KeyAlgorithm.ec.name
  | external key => key.algorithm

/-- The domain parameters of the curve, for keys that have one. -/
def ecParameters : PublicKey → Option EcParameters
  | ed25519 _ => none
  | ecdsa c _ => some (.ofGroup c.group)
  | external key => key.ecParameters

/-- The bytes of a key: an Ed25519 key as it was given, a point in its uncompressed form. -/
def encoding? : PublicKey → Option Bytes
  | ed25519 encoding => some encoding.val
  | ecdsa c point => some (point.uncompressed c)
  | external _ => none

/-- The compressed form of a point. -/
def compressed? : PublicKey → Option Bytes
  | ecdsa c point => some (point.compressed c)
  | _ => none

/-- The diagnostic form of an external key. -/
def shape? : PublicKey → Option Text.Shape
  | external key => some (.tuple "External" [key.shape])
  | _ => none

end PublicKey

end SchemeNegotiation
