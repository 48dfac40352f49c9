import SchemeNegotiation.Bytes

/-!
# The curves P-256 and P-384

Points of a short Weierstrass curve `y² = x³ - 3x + b` over a prime field. Points are computed
with in Jacobian coordinates, where `z = 0` stands for the point at infinity, and are shown in
affine coordinates.

Residues modulo a number are natural numbers below it. Division and square roots are powers, which
is right for a prime modulus.
-/

namespace SchemeNegotiation.Crypto

/-! ### Arithmetic of residues -/

/-- The binary digits of a number, the most significant first. -/
def bits (n : Nat) : List Bool :=
  (List.range (n.log2 + 1)).reverse.map n.testBit

namespace Modular

/-- The difference of two residues. -/
def sub (m a b : Nat) : Nat :=
  (a + (m - b)) % m

/-- The power of a residue, by squaring for each binary digit of the exponent. -/
def pow (m a n : Nat) : Nat :=
  (bits n).foldl (fun acc bit => if bit then acc * acc % m * a % m else acc * acc % m) (1 % m)

/-- The inverse of a non-zero residue modulo a prime. -/
def inverse (m a : Nat) : Nat :=
  pow m a (m - 2)

/-- A difference of residues is a residue. -/
theorem sub_lt {m : Nat} (pos : 0 < m) (a b : Nat) : sub m a b < m :=
  Nat.mod_lt _ pos

end Modular

/-! ### Curves -/

/-- The prime-order curves in use. -/
inductive Curve where
  | p256
  | p384
  deriving DecidableEq

namespace Curve

/-- The number of bytes of a field element, which is also that of a scalar. -/
def fieldSize : Curve → Nat
  | p256 => 32
  | p384 => 48

/-- The order of the field. -/
def prime : Curve → Nat
  | p256 => 0xffffffff00000001000000000000000000000000ffffffffffffffffffffffff
  | p384 => 0xfffffffffffffffffffffffffffffffffffffffffffffffffffffffffffffffeffffffff0000000000000000ffffffff

/-- The order of the group of points, a prime. -/
def order : Curve → Nat
  | p256 => 0xffffffff00000000ffffffffffffffffbce6faada7179e84f3b9cac2fc632551
  | p384 => 0xffffffffffffffffffffffffffffffffffffffffffffffffc7634d81f4372ddf581a0db248b0a77aecec196accc52973

/-- The constant term `b` of the equation. -/
def constantTerm : Curve → Nat
  | p256 => 0x5ac635d8aa3a93e7b3ebbd55769886bc651d06b0cc53b0f63bce3c3e27d2604b
  | p384 => 0xb3312fa7e23ee7e4988e056be3f82d19181d9c6efe8141120314088f5013875ac656398d8a2ed19d2a85c8edd3ec2aef

/-- The first coordinate of the base point. -/
def baseX : Curve → Nat
  | p256 => 0x6b17d1f2e12c4247f8bce6e563a440f277037d812deb33a0f4a13945d898c296
  | p384 => 0xaa87ca22be8b05378eb1c71ef320ad746e1d3b628ba79b9859f741e082542a385502f25dbf55296c3a545e3872760ab7

/-- The second coordinate of the base point. -/
def baseY : Curve → Nat
  | p256 => 0x4fe342e2fe1a7f9b8ee7eb4a7c0f9e162bce33576b315ececbb6406837bf51f5
  | p384 => 0x3617de4a96262c6f5d9e98bf9292dc29f8f41dbd289a147ce9da3113b5f0b8c00a60b1ce1d7e819d7a431d7c90ea0e5f

/-- The value of `x³ - 3x + b`. -/
def rightSide (c : Curve) (x : Nat) : Nat :=
  (x * x % c.prime * x + Modular.sub c.prime c.constantTerm (3 * x % c.prime)) % c.prime

/-- Whether a pair of residues is on the curve. -/
def contains (c : Curve) (x y : Nat) : Bool :=
  y * y % c.prime == c.rightSide x

/-- A square root of a field element, if it has one. The prime is three modulo four. -/
def sqrt? (c : Curve) (a : Nat) : Option Nat :=
  let root := Modular.pow c.prime a ((c.prime + 1) / 4)
  if root * root % c.prime = a then some root else none

/-- A scalar that is neither zero nor as large as the order. -/
structure Scalar (c : Curve) where
  value : Nat
  pos : 0 < value
  lt_order : value < c.order
  deriving DecidableEq

/-- A number as a scalar, if it is in range. -/
def Scalar.ofNat? (c : Curve) (n : Nat) : Option (Scalar c) :=
  if h : 0 < n ∧ n < c.order then some ⟨n, h.1, h.2⟩ else none

/-- A scalar is the scalar of its value. -/
@[simp]
theorem Scalar.ofNat?_value {c : Curve} (k : Scalar c) : Scalar.ofNat? c k.value = some k := by
  simp [Scalar.ofNat?, k.pos, k.lt_order]

/-- A point other than the one at infinity, by its coordinates. -/
structure Point where
  x : Nat
  y : Nat
  deriving DecidableEq

/-- A point in Jacobian coordinates: `(x / z², y / z³)`, or infinity when `z` is zero. -/
structure Jacobian where
  x : Nat
  y : Nat
  z : Nat

/-- The point at infinity. -/
def infinity : Jacobian := ⟨1, 1, 0⟩

/-- The base point. -/
def base (c : Curve) : Point := ⟨c.baseX, c.baseY⟩

/-- A point in Jacobian coordinates. -/
def Point.jacobian (q : Point) : Jacobian := ⟨q.x, q.y, 1⟩

/-- The affine form of a point, unless it is at infinity. -/
def affine? (c : Curve) (q : Jacobian) : Option Point :=
  if q.z = 0 then none
  else
    let w := Modular.inverse c.prime q.z
    let w2 := w * w % c.prime
    some ⟨q.x * w2 % c.prime, q.y * w2 % c.prime * w % c.prime⟩

/-- Twice a point. -/
def double (c : Curve) (q : Jacobian) : Jacobian :=
  let p := c.prime
  let delta := q.z * q.z % p
  let gamma := q.y * q.y % p
  let beta := q.x * gamma % p
  let alpha := 3 * (Modular.sub p q.x delta * (q.x + delta) % p) % p
  let x := Modular.sub p (alpha * alpha % p) (8 * beta % p)
  let z := 2 * (q.y * q.z % p) % p
  let y := Modular.sub p (alpha * Modular.sub p (4 * beta % p) x % p) (8 * (gamma * gamma % p) % p)
  ⟨x, y, z⟩

/-- The sum of two points. -/
def add (c : Curve) (q r : Jacobian) : Jacobian :=
  if q.z = 0 then r
  else if r.z = 0 then q
  else
    let p := c.prime
    let qz2 := q.z * q.z % p
    let rz2 := r.z * r.z % p
    let u := q.x * rz2 % p
    let v := r.x * qz2 % p
    let s := q.y * rz2 % p * r.z % p
    let t := r.y * qz2 % p * q.z % p
    if u = v then
      if s = t then c.double q else infinity
    else
      let h := Modular.sub p v u
      let d := Modular.sub p t s
      let h2 := h * h % p
      let h3 := h2 * h % p
      let w := u * h2 % p
      let x := Modular.sub p (Modular.sub p (d * d % p) h3) (2 * w % p)
      let y := Modular.sub p (d * Modular.sub p w x % p) (s * h3 % p)
      ⟨x, y, q.z * r.z % p * h % p⟩

/-- A multiple of a point, by doubling and adding for each binary digit. -/
def multiply (c : Curve) (n : Nat) (q : Jacobian) : Jacobian :=
  (bits n).foldl
    (fun acc bit => if bit then c.add (c.double acc) q else c.double acc) infinity

end Curve

end SchemeNegotiation.Crypto
