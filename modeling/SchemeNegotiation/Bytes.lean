/-!
# Byte strings

Byte strings, and the two ways of writing a natural number in a fixed number of bytes. Reading is
the inverse of writing as long as the number fits.
-/

namespace SchemeNegotiation

/-- A byte string. -/
abbrev Bytes := List UInt8

/-- A byte string of a fixed length. -/
abbrev Octets (n : Nat) := { b : Bytes // b.length = n }

/-- A byte string as a string of the given length, if it has that length. -/
def Octets.ofBytes? (n : Nat) (b : Bytes) : Option (Octets n) :=
  if h : b.length = n then some ⟨b, h⟩ else none

namespace Bytes

/-- A number in `width` bytes, the least significant first. Higher digits are lost. -/
def ofNatLE : Nat → Nat → Bytes
  | 0, _ => []
  | width + 1, n => UInt8.ofNat (n % 256) :: ofNatLE width (n / 256)

/-- The number that some bytes write, the least significant first. -/
def toNatLE : Bytes → Nat
  | [] => 0
  | b :: rest => b.toNat + 256 * toNatLE rest

/-- A number in `width` bytes, the most significant first. Higher digits are lost. -/
def ofNatBE (width n : Nat) : Bytes :=
  (ofNatLE width n).reverse

/-- The number that some bytes write, the most significant first. -/
def toNatBE (b : Bytes) : Nat :=
  toNatLE b.reverse

/-- Writing a number fixes the number of bytes. -/
@[simp]
theorem length_ofNatLE (width n : Nat) : (ofNatLE width n).length = width := by
  induction width generalizing n with
  | zero => rfl
  | succ width ih => simp [ofNatLE, ih]

/-- Writing a number fixes the number of bytes. -/
@[simp]
theorem length_ofNatBE (width n : Nat) : (ofNatBE width n).length = width := by
  simp [ofNatBE]

/-- A number that fits is read back. -/
theorem toNatLE_ofNatLE {width n : Nat} (fits : n < Nat.pow 256 width) :
    toNatLE (ofNatLE width n) = n := by
  induction width generalizing n with
  | zero =>
    change n < 1 at fits
    simp [ofNatLE, toNatLE]
    omega
  | succ width ih =>
    change n < Nat.pow 256 width * 256 at fits
    have smaller : n / 256 < Nat.pow 256 width := by omega
    simp only [ofNatLE, toNatLE, ih smaller, UInt8.toNat_ofNat']
    omega

/-- A number that fits is read back. -/
theorem toNatBE_ofNatBE {width n : Nat} (fits : n < Nat.pow 256 width) :
    toNatBE (ofNatBE width n) = n := by
  simp [toNatBE, ofNatBE, toNatLE_ofNatLE fits]

end Bytes

end SchemeNegotiation
