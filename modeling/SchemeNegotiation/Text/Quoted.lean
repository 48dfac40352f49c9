import SchemeNegotiation.Text.Hidden

/-!
# Quoted texts

A text between double quotes, with everything escaped that would not show as itself; single quotes
stand for themselves. Code points and bytes are shown in lower-case hexadecimal, with as few digits
as possible or padded with zeros. A byte string that need not be UTF-8 is read as far as it is:
wherever a whole scalar value stands it is a character, and every byte that belongs to none is kept
as a stray byte.
-/

namespace SchemeNegotiation.Text

/-! ### Hexadecimal digits -/

/-- The lower-case hexadecimal digit of a number below 16. -/
def hexDigit (n : Nat) : Char :=
  "0123456789abcdef".toList.getD n '0'

/-- The last `width` hexadecimal digits of a number, the first of them leading. -/
def paddedHex : Nat → Nat → List Char
  | 0, _ => []
  | width + 1, n => paddedHex width (n / 16) ++ [hexDigit (n % 16)]

/-- The hexadecimal digits of a number, without leading zeros. -/
def hex (n : Nat) : List Char :=
  paddedHex (n.log2 / 4 + 1) n

/-- A 16-bit identifier as `0x` and four digits. -/
def wireHex (id : UInt16) : String :=
  String.ofList ('0' :: 'x' :: paddedHex 4 id.toNat)

/-- Padding fixes the number of digits. -/
@[simp]
theorem length_paddedHex (width n : Nat) : (paddedHex width n).length = width := by
  induction width generalizing n with
  | zero => rfl
  | succ width ih => simp [paddedHex, ih]

/-! ### Escapes -/

/-- A character shown by its code point. -/
def byNumber (c : Char) : List Char :=
  ['\\', 'u', '\x7b'] ++ hex c.toNat ++ ['\x7d']

/-- The spelling of one character inside double quotes. -/
def escape (c : Char) : List Char :=
  if c = '"' then ['\\', '"']
  else if c = '\\' then ['\\', '\\']
  else if c = '\n' then ['\\', 'n']
  else if c = '\r' then ['\\', 'r']
  else if c = '\t' then ['\\', 't']
  else if c = '\x00' then ['\\', '0']
  else if isHidden c then byNumber c
  else [c]

/-- A text between double quotes. -/
def quote (s : String) : String :=
  String.ofList (['"'] ++ s.toList.flatMap escape ++ ['"'])

/-! ### Byte strings -/

/-- A part of a byte string: a scalar value, or a byte that belongs to none. -/
inductive Fragment where
  | char (c : Char)
  | stray (b : UInt8)
  deriving DecidableEq

/-- The number built from `count` continuation bytes below the bits in `high`. -/
def continued : Nat → Nat → List UInt8 → Option Nat
  | 0, high, _ => some high
  | _ + 1, _, [] => none
  | count + 1, high, b :: rest =>
    if 0x80 ≤ b.toNat && b.toNat < 0xc0 then continued count (high * 64 + (b.toNat - 0x80)) rest
    else none

/--
The scalar value encoded by `lead` and its continuation bytes, with their number. Over-long
encodings, surrogates and values past the last code point are refused.
-/
def scalar? (lead : UInt8) (rest : List UInt8) : Option (Char × Nat) :=
  let n := lead.toNat
  if n < 0x80 then some (Char.ofNat n, 0)
  else if n < 0xc0 then none
  else if n < 0xe0 then wide 1 (n - 0xc0) 0x80
  else if n < 0xf0 then wide 2 (n - 0xe0) 0x800
  else if n < 0xf8 then wide 3 (n - 0xf0) 0x10000
  else none
where
  /-- A scalar value of `count` continuation bytes that is at least `least`. -/
  wide (count high least : Nat) : Option (Char × Nat) :=
    match continued count high rest with
    | some value =>
      if least ≤ value ∧ value.isValidChar then some (Char.ofNat value, count) else none
    | none => none

/-- The fragments of a byte string of which the first `skip` bytes continue a scalar value. -/
def fragmentsFrom : Nat → List UInt8 → List Fragment
  | _, [] => []
  | skip + 1, _ :: rest => fragmentsFrom skip rest
  | 0, b :: rest =>
    match scalar? b rest with
    | some (c, count) => .char c :: fragmentsFrom count rest
    | none => .stray b :: fragmentsFrom 0 rest

/-- The fragments of a byte string, in order. -/
def fragments (bytes : List UInt8) : List Fragment :=
  fragmentsFrom 0 bytes

/-- The spelling of one fragment inside double quotes; a stray byte is shown in hexadecimal. -/
def Fragment.escape : Fragment → List Char
  | .char c => Text.escape c
  | .stray b => '\\' :: 'x' :: (paddedHex 2 b.toNat).map Char.toUpper

/-- A byte string between double quotes. -/
def quoteBytes (bytes : List UInt8) : String :=
  String.ofList (['"'] ++ (fragments bytes).flatMap Fragment.escape ++ ['"'])

end SchemeNegotiation.Text
