import SchemeNegotiation.Crypto.Curve

/-!
# Points as bytes

The encodings of a curve point: a tag byte, then the first coordinate, then in the uncompressed
form the second. A compressed form tells the second coordinate by its parity, the compact form
takes the smaller of the two.
-/

namespace SchemeNegotiation.Crypto.Curve

/-- The uncompressed form of a point. -/
def Point.uncompressed (c : Curve) (q : Point) : Bytes :=
  0x04 :: (Bytes.ofNatBE c.fieldSize q.x ++ Bytes.ofNatBE c.fieldSize q.y)

/-- The compressed form of a point. -/
def Point.compressed (c : Curve) (q : Point) : Bytes :=
  (if q.y % 2 = 0 then 0x02 else 0x03) :: Bytes.ofNatBE c.fieldSize q.x

/-- The two second coordinates that go with a first one, if it is the coordinate of a point. -/
def lifts? (c : Curve) (x : Nat) : Option (Nat × Nat) :=
  if x < c.prime then
    (c.sqrt? (c.rightSide x)).map fun y => (y, Modular.sub c.prime 0 y)
  else none

/-- The point with a first coordinate and a parity of the second. -/
def decompress? (c : Curve) (x parity : Nat) : Option Point :=
  (c.lifts? x).map fun (y, other) => ⟨x, if y % 2 = parity then y else other⟩

/-- The point with a first coordinate and the smaller second coordinate. -/
def decompact? (c : Curve) (x : Nat) : Option Point :=
  (c.lifts? x).map fun (y, other) => ⟨x, min y other⟩

/-- The point with two given coordinates. -/
def ofCoordinates? (c : Curve) (x y : Nat) : Option Point :=
  if x < c.prime ∧ y < c.prime ∧ c.contains x y then some ⟨x, y⟩ else none

/-- Reads a point other than the one at infinity. -/
def Point.ofBytes? (c : Curve) : Bytes → Option Point
  | [] => none
  | tag :: body =>
    if body.length = c.fieldSize then
      let x := Bytes.toNatBE body
      if tag = 0x02 then c.decompress? x 0
      else if tag = 0x03 then c.decompress? x 1
      else if tag = 0x05 then c.decompact? x
      else none
    else if body.length = 2 * c.fieldSize ∧ tag = 0x04 then
      c.ofCoordinates? (Bytes.toNatBE (body.take c.fieldSize)) (Bytes.toNatBE (body.drop c.fieldSize))
    else none

/-- The fewest bytes in which a private scalar is accepted. -/
def shortestScalar : Nat := 24

/-- Reads a private scalar; one shorter than a field element has its leading zeros left out. -/
def Scalar.ofBytes? (c : Curve) (b : Bytes) : Option (Scalar c) :=
  if shortestScalar ≤ b.length ∧ b.length ≤ c.fieldSize then Scalar.ofNat? c (Bytes.toNatBE b)
  else none

/-- The public point of a private scalar. -/
def Scalar.point {c : Curve} (k : Scalar c) : Point :=
  (c.affine? (c.multiply k.value c.base.jacobian)).getD c.base

end SchemeNegotiation.Crypto.Curve
