import SchemeNegotiation.Crypto.Curve
import SchemeNegotiation.Crypto.Sha2

/-!
# Ed25519

Signatures of whole messages with a key that is derived from a seed of 32 bytes. A public key and
the first half of a signature are compared as bytes, never as points.

The curve is `-x² + y² = 1 + d·x²·y²` over the field of order `2²⁵⁵ - 19`, with points in extended
coordinates `(x / z, y / z)` and `t = x·y / z`. The law of addition has no exceptions on it.
-/

namespace SchemeNegotiation.Crypto

/-! ### The twisted Edwards curve -/

namespace Edwards

/-- The order of the field, `2²⁵⁵ - 19`. -/
def prime : Nat := 0x7fffffffffffffffffffffffffffffffffffffffffffffffffffffffffffffed

/-- The order of the subgroup of the base point. -/
def order : Nat := 0x1000000000000000000000000000000014def9dea2f79cd65812631a5cf5d3ed

/-- The constant `d` of the equation. -/
def d : Nat := 0x52036cee2b6ffe738cc740797779e89800700a4d4141d8ab75eb4dca135978a3

/-- A square root of minus one. -/
def rootOfMinusOne : Nat := 0x2b8324804fc1df0b2b4d00993dfbd7a72f431806ad2fe478c4ee1b274a0ea0b0

/-- A point in extended coordinates. -/
structure Point where
  x : Nat
  y : Nat
  z : Nat
  t : Nat

/-- The point with the given coordinates. -/
def Point.ofCoordinates (x y : Nat) : Point := ⟨x, y, 1, x * y % prime⟩

/-- The neutral point. -/
def neutral : Point := .ofCoordinates 0 1

/-- The base point. -/
def base : Point :=
  .ofCoordinates 0x216936d3cd6e53fec0a4e231fdd6dc5c692cc7609525a7b2c9562d608f25d51a
    0x6666666666666666666666666666666666666666666666666666666666666658

/-- The opposite of a point. -/
def negate (q : Point) : Point :=
  ⟨Modular.sub prime 0 q.x, q.y, q.z, Modular.sub prime 0 q.t⟩

/-- The sum of two points. -/
def add (q r : Point) : Point :=
  let a := Modular.sub prime q.y q.x * Modular.sub prime r.y r.x % prime
  let b := (q.y + q.x) * (r.y + r.x) % prime
  let c := 2 * d * (q.t * r.t % prime) % prime
  let e := 2 * (q.z * r.z % prime) % prime
  let f := Modular.sub prime b a
  let g := Modular.sub prime e c
  let h := (e + c) % prime
  let k := (b + a) % prime
  ⟨f * g % prime, h * k % prime, g * h % prime, f * k % prime⟩

/-- A multiple of a point, by doubling and adding for each binary digit. -/
def multiply (n : Nat) (q : Point) : Point :=
  (bits n).foldl (fun acc bit => if bit then add (add acc acc) q else add acc acc) neutral

/-- The bit that tells the sign of the first coordinate in an encoded point. -/
def signBit : Nat := 0x8000000000000000000000000000000000000000000000000000000000000000

/-- A point in 32 bytes: the second coordinate and the parity of the first. -/
def encode (q : Point) : Octets 32 :=
  let w := Modular.inverse prime q.z
  let x := q.x * w % prime
  let y := q.y * w % prime
  ⟨Bytes.ofNatLE 32 (y + x % 2 * signBit), by simp⟩

/-- The even square root of a quotient of field elements, if it has one. -/
def sqrtRatio? (u v : Nat) : Option Nat :=
  let v3 := v * v % prime * v % prime
  let v7 := v3 * v3 % prime * v % prime
  let guess := u * v3 % prime * Modular.pow prime (u * v7 % prime) ((prime - 5) / 8) % prime
  let check := v * (guess * guess % prime) % prime
  let root :=
    if check = u then some guess
    else if check = Modular.sub prime 0 u then some (guess * rootOfMinusOne % prime)
    else none
  root.map fun x => if x % 2 = 0 then x else prime - x

/--
Reads a point. The second coordinate may be written as any number below `2²⁵⁵`, and the sign bit
may be set for a first coordinate of zero.
-/
def decode? (b : Octets 32) : Option Point :=
  let n := Bytes.toNatLE b.val
  let y := n % signBit % prime
  let y2 := y * y % prime
  (sqrtRatio? (Modular.sub prime y2 1) ((d * y2 + 1) % prime)).map fun x =>
    .ofCoordinates (if n < signBit then x else Modular.sub prime 0 x) y

end Edwards

/-! ### Signatures -/

namespace Ed25519

open Edwards

/-- A number below the order of the base point, from the digest of some bytes. -/
def challenge (b : Bytes) : Nat :=
  Bytes.toNatLE (Sha2.sha512.hash b) % order

/-- The secret scalar of a seed: the lower half of its digest, with five bits fixed. -/
def secretScalar (seed : Octets 32) : Nat :=
  let n := Bytes.toNatLE ((Sha2.sha512.hash seed.val).take 32)
  n % (signBit / 2) / 8 * 8 + signBit / 2

/-- The part of a seed that makes one-time scalars unpredictable. -/
def noncePart (seed : Octets 32) : Bytes :=
  (Sha2.sha512.hash seed.val).drop 32

/-- The public key of a seed. -/
def publicKey (seed : Octets 32) : Octets 32 :=
  encode (multiply (secretScalar seed) base)

/-- The signature of a message. -/
def sign (seed : Octets 32) (message : Bytes) : Octets 64 :=
  let r := challenge (noncePart seed ++ message)
  let point := encode (multiply r base)
  let k := challenge (point.val ++ (publicKey seed).val ++ message)
  ⟨point.val ++ Bytes.ofNatLE 32 ((r + k * secretScalar seed) % order), by simp [point.property]⟩

/-- Whether a signature of a message belongs to a public key. -/
def verify (key : Octets 32) (message : Bytes) (signature : Octets 64) : Bool :=
  let first := signature.val.take 32
  let s := Bytes.toNatLE (signature.val.drop 32)
  if s < order then
    match decode? key with
    | some point =>
      let k := challenge (first ++ key.val ++ message)
      (encode (add (multiply s base) (multiply k (negate point)))).val == first
    | none => false
  else false

end Ed25519

end SchemeNegotiation.Crypto
