import SchemeNegotiation.Crypto.Ecdsa

/-!
# Signatures as bytes

The encoding of an ECDSA signature as a DER sequence of two integers. Decoding is strict: lengths
and integers are written in the only way that DER allows, no integer is negative, and nothing
follows. Two integers in range take fewer than 128 bytes, so a length is always a single byte.
-/

namespace SchemeNegotiation.Crypto

namespace Der

/-- The content of an integer: a zero byte keeps the leading bit clear. -/
def content (n : Nat) : Bytes :=
  Bytes.ofNatBE ((n.log2 + 1) / 8 + 1) n

/-- A value with its tag and its length. -/
def tagged (tag : UInt8) (body : Bytes) : Bytes :=
  tag :: UInt8.ofNat body.length :: body

/-- Reads a value with a tag, and what follows it. -/
def untag? (tag : UInt8) : Bytes → Option (Bytes × Bytes)
  | found :: length :: rest =>
    if found = tag ∧ length < 0x80 ∧ length.toNat ≤ rest.length then
      some (rest.take length.toNat, rest.drop length.toNat)
    else none
  | _ => none

/-- Reads the content of an integer that is not negative. -/
def natural? : Bytes → Option Nat
  | [] => none
  | [b] => if b < 0x80 then some b.toNat else none
  | b :: c :: rest =>
    if b < 0x80 ∧ ¬ (b = 0 ∧ c < 0x80) then some (Bytes.toNatBE (b :: c :: rest)) else none

/-- The tag of an integer. -/
def integerTag : UInt8 := 0x02

/-- The tag of a sequence. -/
def sequenceTag : UInt8 := 0x30

/-- A sequence of two integers. -/
def encode (r s : Nat) : Bytes :=
  tagged sequenceTag (tagged integerTag (content r) ++ tagged integerTag (content s))

/-- Reads a sequence of two integers, with nothing after it. -/
def decode? (b : Bytes) : Option (Nat × Nat) := do
  let (body, after) ← untag? sequenceTag b
  let (first, rest) ← untag? integerTag body
  let (second, excess) ← untag? integerTag rest
  if after = [] ∧ excess = [] then
    let r ← natural? first
    let s ← natural? second
    return (r, s)
  else none

end Der

namespace Ecdsa.Signature

/-- The encoding of a signature. -/
def toBytes {c : Curve} (signature : Signature c) : Bytes :=
  Der.encode signature.r.value signature.s.value

/-- Reads a signature whose two numbers are in range. -/
def ofBytes? (c : Curve) (b : Bytes) : Option (Signature c) := do
  let (r, s) ← Der.decode? b
  let r ← Curve.Scalar.ofNat? c r
  let s ← Curve.Scalar.ofNat? c s
  return ⟨r, s⟩

end Ecdsa.Signature

end SchemeNegotiation.Crypto
