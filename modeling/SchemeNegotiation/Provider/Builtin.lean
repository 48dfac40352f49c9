import SchemeNegotiation.Crypto.Der
import SchemeNegotiation.Crypto.Ed25519
import SchemeNegotiation.Crypto.Sec1
import SchemeNegotiation.Provider

/-!
# The built-in provider

Ed25519, and ECDSA over P-256 and P-384 with SHA-224, SHA-256 and SHA-384. It rests on a suite of
four functions: signing and verifying a message with Ed25519, and signing and verifying a digest on
a curve. One reading of an algorithm name, `Builtin.Method.ofName?`, decides what can be made, for
signers and verifiers alike. ECDSA digests a message while it is fed; Ed25519 keeps it whole.
-/

namespace SchemeNegotiation

open Crypto

/-- The signature primitives that a provider rests on. -/
structure Suite where
  /-- Signs a message with a seed. -/
  ed25519Sign : Octets 32 → Bytes → Octets 64
  /-- Whether a signature of a message belongs to a public key. -/
  ed25519Verify : Octets 32 → Bytes → Octets 64 → Bool
  /-- Signs a digest with a scalar of a curve. -/
  ecdsaSign? : {c : Curve} → c.Scalar → Bytes → Option (Ecdsa.Signature c)
  /-- Whether a signature of a digest belongs to a point of a curve. -/
  ecdsaVerify : (c : Curve) → Curve.Point → Bytes → Ecdsa.Signature c → Bool

/-- The primitives as they are defined. -/
def Suite.standard : Suite :=
  ⟨Ed25519.sign, Ed25519.verify, Ecdsa.sign?, Ecdsa.verify⟩

namespace Builtin

/-- The way an algorithm signs. -/
inductive Method where
  | ed25519
  | ecdsa (digest : Sha2)
  deriving DecidableEq

/-- The name of the Ed25519 algorithm. -/
def ed25519Name : String := "Ed25519"

/-- The names of the ECDSA algorithms, with their digests. -/
def ecdsaNames : List (String × Sha2) :=
  [("SHA224withECDSA", .sha224), ("SHA256withECDSA", .sha256), ("SHA384withECDSA", .sha384)]

/-- The method of an algorithm name, up to the case of letters. -/
def Method.ofName? (algorithm : String) : Option Method :=
  if Text.sameLetters algorithm ed25519Name then some .ed25519
  else (ecdsaNames.find? fun entry => Text.sameLetters algorithm entry.1).map fun entry =>
    .ecdsa entry.2

/-- The digest of a message that is fed in pieces. -/
def digestOf (h : Sha2) (chunks : List Bytes) : Bytes :=
  (chunks.foldl Sha2.Hasher.update (Sha2.Hasher.start h)).digest

/-- The Ed25519 signer of a seed. -/
def ed25519Signer (suite : Suite) (seed : Octets 32) : Signer :=
  .start ed25519Name fun chunks => .ok (suite.ed25519Sign seed chunks.flatten).val

/-- The ECDSA signer of a scalar, under the name that was asked for. -/
def ecdsaSigner (suite : Suite) (algorithm : String) (h : Sha2) {c : Curve} (scalar : c.Scalar) :
    Signer :=
  .start algorithm fun chunks =>
    match suite.ecdsaSign? scalar (digestOf h chunks) with
    | some signature => .ok signature.toBytes
    | none => .error (.cryptographic "ECDSA signing failed: signature error")

/-- The Ed25519 verifier of a public key. -/
def ed25519Verifier (suite : Suite) (key : Octets 32) : Verifier :=
  .start ed25519Name fun chunks signature =>
    match Octets.ofBytes? 64 signature with
    | some signature => .ok (suite.ed25519Verify key chunks.flatten signature)
    | none => .error .invalidSignature

/-- The ECDSA verifier of a point, under the name that was asked for. -/
def ecdsaVerifier (suite : Suite) (algorithm : String) (h : Sha2) (c : Curve)
    (point : Curve.Point) : Verifier :=
  .start algorithm fun chunks signature =>
    match Ecdsa.Signature.ofBytes? c signature with
    | some signature => .ok (suite.ecdsaVerify c point (digestOf h chunks) signature)
    | none => .error .invalidSignature

/-- The method of an algorithm, which must be known and take no parameters. -/
def method (algorithm : String) (params : Option PssParams) : Except Error Method :=
  if params.isSome then .error (.unsupportedAlgorithm (algorithm ++ " with parameters"))
  else
    match Method.ofName? algorithm with
    | some found => .ok found
    | none => .error (.unsupportedAlgorithm algorithm)

/-- Makes a signer; the key must be of the kind that the algorithm signs with. -/
def newSigner (suite : Suite) (algorithm : String) (params : Option PssParams) (key : PrivateKey) :
    Except Error Signer := do
  match ← method algorithm params, key with
  | .ed25519, .ed25519 seed => return ed25519Signer suite seed
  | .ecdsa h, .ecdsa _ scalar => return ecdsaSigner suite algorithm h scalar
  | _, key => throw (.keyIncompatible algorithm (key.algorithm ++ " key"))

/-- Makes a verifier; the key must be of the kind that the algorithm verifies with. -/
def newVerifier (suite : Suite) (algorithm : String) (params : Option PssParams)
    (key : PublicKey) : Except Error Verifier := do
  match ← method algorithm params, key with
  | .ed25519, .ed25519 encoding => return ed25519Verifier suite encoding
  | .ecdsa h, .ecdsa c point => return ecdsaVerifier suite algorithm h c point
  | _, key => throw (.invalidKey (key.algorithm ++ " cannot verify " ++ algorithm))

/-- The provider that rests on a suite of primitives. -/
def ofSuite (suite : Suite) : Provider where
  canInstantiate algorithm := (Method.ofName? algorithm).isSome
  ecAvailable := true
  newSigner := newSigner suite
  newVerifier := newVerifier suite

/-- The built-in provider. -/
def provider : Provider := ofSuite .standard

/-- A digest depends on the bytes fed, and not on how they were cut into pieces. -/
theorem digestOf_eq (h : Sha2) (chunks : List Bytes) :
    digestOf h chunks = h.hash chunks.flatten := by
  simp [digestOf, Sha2.hash, Sha2.Hasher.foldl_update]

end Builtin

end SchemeNegotiation
