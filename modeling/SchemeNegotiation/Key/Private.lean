import SchemeNegotiation.Crypto.Ed25519
import SchemeNegotiation.Key.Public

/-!
# Private keys

Keys that sign, and the possession of one together with what its certificate says. No diagnostic
form shows a secret.
-/

namespace SchemeNegotiation

open Crypto

/-- A key that signs. -/
inductive PrivateKey where
  | ed25519 (seed : Octets 32)
  | ecdsa (c : Curve) (scalar : c.Scalar)
  | external (key : ExternalKey)
  deriving DecidableEq

namespace PrivateKey

/-- Reads the seed of an Ed25519 key. -/
def ofEd25519Seed (b : Bytes) : Except Error PrivateKey :=
  match Octets.ofBytes? 32 b with
  | none => .error (.invalidKey ("Ed25519 seed must be 32 bytes, got " ++ b.length.repr))
  | some seed => .ok (.ed25519 seed)

/-- Reads the scalar of a curve. -/
def ofScalar (c : Curve) (b : Bytes) : Except Error PrivateKey :=
  match Curve.Scalar.ofBytes? c b with
  | none => .error (.invalidKey (c.label ++ " scalar: signature error"))
  | some scalar => .ok (.ecdsa c scalar)

/-- Reads a key of a kind. -/
def load : KeyKind → Bytes → Except Error PrivateKey
  | .ed25519 => ofEd25519Seed
  | .ecdsa c => ofScalar c

/-- A fresh key of a kind: the first of some random strings that is a key. -/
def generate? (kind : KeyKind) (draws : List Bytes) : Option PrivateKey :=
  draws.findSome? fun draw => (load kind draw).toOption

/-- The name of the key algorithm. -/
def algorithm : PrivateKey → String
  | ed25519 _ => KeyAlgorithm.ed25519.name
  | ecdsa .. => KeyAlgorithm.ec.name
  | external key => key.algorithm

/-- The key algorithm, if it is one that schemes are bound to. -/
def keyAlgorithm? (k : PrivateKey) : Option KeyAlgorithm :=
  KeyAlgorithm.ofName? k.algorithm

/-- The size of the key in bits, if known. -/
def size? : PrivateKey → Option UInt32
  | ed25519 _ => some 255
  | ecdsa .p256 _ => some 256
  | ecdsa .p384 _ => some 384
  | external key => key.bits

/-- The domain parameters of the curve, for keys that have one. -/
def ecParameters : PrivateKey → Option EcParameters
  | ed25519 _ => none
  | ecdsa c _ => some (.ofGroup c.group)
  | external key => key.ecParameters

/-- The matching public key, unless the key is held elsewhere. -/
def publicKey? : PrivateKey → Option PublicKey
  | ed25519 seed => some (.ed25519 (Ed25519.publicKey seed))
  | ecdsa c scalar => some (.ecdsa c scalar.point)
  | external _ => none

/--
The diagnostic form of a key, which tells only its kind. It is one line wherever it stands, that of
an external key included.
-/
def shape : PrivateKey → Text.Shape
  | ed25519 _ => .atom "PrivateKey::Ed25519(..)"
  | ecdsa .p256 _ => .atom "PrivateKey::P256(..)"
  | ecdsa .p384 _ => .atom "PrivateKey::P384(..)"
  | external key => .atom ("PrivateKey::External(" ++ key.shape.line ++ ")")

end PrivateKey

/-- A private key and what its certificate says about it. -/
structure Possession where
  privateKey : PrivateKey
  /-- The domain parameters in the certificate, when they are not those of the key. -/
  certificateEcParameters : Option EcParameters
  deriving DecidableEq

namespace Possession

/-- The domain parameters that count: those of the certificate, else those of the key. -/
def ecParameters (p : Possession) : Option EcParameters :=
  p.certificateEcParameters <|> p.privateKey.ecParameters

/-- The diagnostic form of a possession. -/
def shape (p : Possession) : Text.Shape :=
  .fields "Possession"
    [("private_key", p.privateKey.shape),
      ("certificate_ec_parameters", .option (p.certificateEcParameters.map EcParameters.shape))]

end Possession

end SchemeNegotiation
