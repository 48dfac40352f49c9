import SchemeNegotiation.Crypto.Curve
import SchemeNegotiation.Crypto.Sha2

/-!
# ECDSA on digests

Signatures of a digest with a private scalar, and their verification with a public point. The
one-time scalar of a signature is derived from the key and the digest with a keyed digest that
belongs to the curve, so signing is a function.
-/

namespace SchemeNegotiation.Crypto.Ecdsa

open Curve

/-- A signature: two scalars of the curve. -/
structure Signature (c : Curve) where
  r : Scalar c
  s : Scalar c
  deriving DecidableEq

/-- The digest with which one-time scalars are derived on a curve. -/
def nonceHash : Curve → Sha2
  | .p256 => .sha256
  | .p384 => .sha384

/-- A digest as a number: its leading bytes, as many as fit into a field element. -/
def digestNumber (c : Curve) (digest : Bytes) : Nat :=
  Bytes.toNatBE (digest.take c.fieldSize)

/-- The state of the derivation of one-time scalars: a key and a chained value. -/
structure Generator where
  key : Bytes
  value : Bytes

namespace Generator

/-- Mixes a tag and a seed into the state. -/
def absorb (h : Sha2) (g : Generator) (tag : UInt8) (seed : Bytes) : Generator :=
  let key := hmac h g.key (g.value ++ [tag] ++ seed)
  ⟨key, hmac h key g.value⟩

/-- The state that starts from a seed. -/
def start (h : Sha2) (seed : Bytes) : Generator :=
  let blank : Generator := ⟨List.replicate h.size 0, List.replicate h.size 1⟩
  (blank.absorb h 0 seed).absorb h 1 seed

/-- The first scalar in range among the next `tries` chained values. -/
def scalar? (c : Curve) (h : Sha2) : Nat → Generator → Option (Scalar c)
  | 0, _ => none
  | tries + 1, g =>
    let value := hmac h g.key g.value
    match Scalar.ofNat? c (Bytes.toNatBE value) with
    | some k => some k
    | none => scalar? c h tries (absorb h ⟨g.key, value⟩ 0 [])

end Generator

/-- The number of values tried for a one-time scalar; a value is out of range once in 2³². -/
def nonceTries : Nat := 64

/-- The one-time scalar for a key and the number of a digest, which need not be below the order. -/
def nonce? {c : Curve} (key : Scalar c) (z : Nat) : Option (Scalar c) :=
  let h := nonceHash c
  let seed := Bytes.ofNatBE c.fieldSize key.value ++ Bytes.ofNatBE c.fieldSize z
  (Generator.start h seed).scalar? c h nonceTries

/-- The signature of a digest that is at least half as long as a field element. -/
def sign? {c : Curve} (key : Scalar c) (digest : Bytes) : Option (Signature c) := do
  if 2 * digest.length < c.fieldSize then none
  let z := digestNumber c digest
  let k ← nonce? key z
  let q ← c.affine? (c.multiply k.value c.base.jacobian)
  let r ← Scalar.ofNat? c (q.x % c.order)
  let s ← Scalar.ofNat? c
    (Modular.inverse c.order k.value * ((z + r.value * key.value) % c.order) % c.order)
  return ⟨r, s⟩

/-- Whether a signature of a digest belongs to a public point. -/
def verify (c : Curve) (q : Point) (digest : Bytes) (signature : Signature c) : Bool :=
  if 2 * digest.length < c.fieldSize then false
  else
    let w := Modular.inverse c.order signature.s.value
    let u := digestNumber c digest * w % c.order
    let v := signature.r.value * w % c.order
    match c.affine? (c.add (c.multiply u c.base.jacobian) (c.multiply v q.jacobian)) with
    | some sum => sum.x % c.order == signature.r.value
    | none => false

end SchemeNegotiation.Crypto.Ecdsa
