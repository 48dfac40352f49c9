import Mathlib.Tactic.Lemma
import SchemeNegotiation.Crypto.Der

/-!
# Reading signatures back

The bytes of a signature are read as the signature, and no other bytes are
(`Ecdsa.Signature.ofBytes?_eq_some_iff`). For that the content of an integer has to be long enough
to keep its leading bit clear and no longer (`Der.natural?_content`, `Der.content_of_natural?`), and
what is written has to be so short that its length is one byte (`Der.decode?_encode`), which two
scalars of a curve always are.
-/

namespace SchemeNegotiation

namespace Bytes

/-- In one more byte a number has its next digit in front. -/
lemma ofNatBE_succ (width n : Nat) :
    ofNatBE (width + 1) n = UInt8.ofNat (n / Nat.pow 256 width % 256) :: ofNatBE width n := by
  have last (width n : Nat) : ofNatLE (width + 1) n =
      ofNatLE width n ++ [UInt8.ofNat (n / Nat.pow 256 width % 256)] := by
    induction width generalizing n with
    | zero => simp [ofNatLE]
    | succ width ih =>
      have digit : n / 256 / Nat.pow 256 width = n / Nat.pow 256 (width + 1) := by
        rw [Nat.div_div_eq_div_mul, Nat.mul_comm]
        rfl
      rw [ofNatLE, ih, digit, ofNatLE, List.cons_append]
  rw [ofNatBE, last, List.reverse_append]
  rfl

/-- The number that some bytes write fits into as many. -/
lemma toNatLE_lt (b : Bytes) : toNatLE b < Nat.pow 256 b.length := by
  induction b with
  | nil => exact Nat.one_pos
  | cons x rest ih =>
    have digit : x.toNat < 256 := x.toNat_lt
    change x.toNat + 256 * toNatLE rest < Nat.pow 256 rest.length * 256
    omega

/-- Big-endian bytes write a number below 256 to the power of how many there are. -/
lemma toNatBE_lt (b : Bytes) : toNatBE b < Nat.pow 256 b.length := by
  have fits := toNatLE_lt b.reverse
  rw [List.length_reverse] at fits
  exact fits

/-- A byte in front counts for as much as there is room for in the bytes after it. -/
lemma toNatBE_cons (x : UInt8) (b : Bytes) :
    toNatBE (x :: b) = x.toNat * Nat.pow 256 b.length + toNatBE b := by
  have last (b : Bytes) : toNatLE (b ++ [x]) = x.toNat * Nat.pow 256 b.length + toNatLE b := by
    induction b with
    | nil =>
      change x.toNat + 256 * 0 = x.toNat * 1 + 0
      omega
    | cons y rest ih =>
      change y.toNat + 256 * toNatLE (rest ++ [x]) =
        x.toNat * (Nat.pow 256 rest.length * 256) + (y.toNat + 256 * toNatLE rest)
      rw [ih, ← Nat.mul_assoc]
      omega
  rw [toNatBE, List.reverse_cons, last, List.length_reverse, toNatBE]

/-- What was read is written again. -/
lemma ofNatBE_toNatBE (b : Bytes) : ofNatBE b.length (toNatBE b) = b := by
  have written (b : Bytes) : ofNatLE b.length (toNatLE b) = b := by
    induction b with
    | nil => rfl
    | cons x rest ih =>
      have digit : x.toNat < 256 := x.toNat_lt
      have low : toNatLE (x :: rest) % 256 = x.toNat := by
        change (x.toNat + 256 * toNatLE rest) % 256 = x.toNat
        omega
      have high : toNatLE (x :: rest) / 256 = toNatLE rest := by
        change (x.toNat + 256 * toNatLE rest) / 256 = toNatLE rest
        omega
      rw [List.length_cons, ofNatLE, low, high, ih, UInt8.ofNat_toNat]
  have same := written b.reverse
  rw [List.length_reverse] at same
  rw [ofNatBE, toNatBE, same, List.reverse_reverse]

end Bytes

namespace Crypto

namespace Der

/-- The number of bytes in the content of an integer after the first one. -/
def tailWidth (n : Nat) : Nat :=
  (n.log2 + 1) / 8

/-- The content of an integer is as long as its width says. -/
lemma length_content (n : Nat) : (content n).length = tailWidth n + 1 :=
  Bytes.length_ofNatBE _ _

/-- Half of the numbers that some bytes and one more can write. -/
lemma pow_half (w : Nat) : Nat.pow 2 (8 * w + 7) = 128 * Nat.pow 256 w := by
  change 2 ^ (8 * w + 7) = 128 * 256 ^ w
  rw [Nat.pow_add, Nat.pow_mul, Nat.mul_comm]

/-- An integer is below half of what its content can write. -/
lemma lt_half (n : Nat) : n < 128 * Nat.pow 256 (tailWidth n) := by
  have bits : n.log2 + 1 ≤ 8 * tailWidth n + 7 := by
    unfold tailWidth
    omega
  rw [← pow_half]
  exact Nat.lt_of_lt_of_le Nat.lt_log2_self (Nat.pow_le_pow_right (by decide) bits)

/-- An integer is not below half of what one byte less can write. -/
lemma half_le {n k : Nat} (longer : tailWidth n = k + 1) : 128 * Nat.pow 256 k ≤ n := by
  have bits : 8 * k + 7 ≤ n.log2 := by
    unfold tailWidth at longer
    omega
  have nonzero : n ≠ 0 := by
    rintro rfl
    rw [Nat.log2_zero] at bits
    omega
  rw [← pow_half]
  exact Nat.le_trans (Nat.pow_le_pow_right (by decide) bits) (Nat.log2_self_le nonzero)

/-- An integer takes no more bytes than it needs. -/
lemma tailWidth_le {n w : Nat} (below : n < 128 * Nat.pow 256 w) : tailWidth n ≤ w := by
  refine Nat.le_of_not_lt fun longer => ?_
  obtain ⟨k, width⟩ : ∃ k, tailWidth n = k + 1 := ⟨tailWidth n - 1, by omega⟩
  have large : 128 * Nat.pow 256 w ≤ 128 * Nat.pow 256 k :=
    Nat.mul_le_mul_left _ (Nat.pow_le_pow_right (by decide) (by omega))
  exact Nat.not_lt.2 (Nat.le_trans large (half_le width)) below

/-- An integer takes as many bytes as it needs. -/
lemma lt_tailWidth {n w : Nat} (large : 128 * Nat.pow 256 w ≤ n) : w < tailWidth n := by
  refine Nat.lt_of_not_le fun short => ?_
  have small : 128 * Nat.pow 256 (tailWidth n) ≤ 128 * Nat.pow 256 w :=
    Nat.mul_le_mul_left _ (Nat.pow_le_pow_right (by decide) short)
  exact Nat.not_lt.2 large (Nat.lt_of_lt_of_le (lt_half n) small)

/-- A digit is a byte with its leading bit clear when it is below half of the base. -/
lemma ofNat_lt_iff (m : Nat) : UInt8.ofNat m < 0x80 ↔ m % 256 < 128 := by
  rw [UInt8.lt_iff_toNat_lt, UInt8.toNat_ofNat']
  rfl

/-- A digit is the zero byte when it is zero. -/
lemma ofNat_eq_zero_iff (m : Nat) : UInt8.ofNat m = 0 ↔ m % 256 = 0 := by
  rw [← UInt8.toNat_inj, UInt8.toNat_ofNat']
  rfl

/-- The content of an integer is read as the integer. -/
lemma natural?_content (n : Nat) : natural? (content n) = some n := by
  have below := lt_half n
  have whole : Bytes.toNatBE (content n) = n := by
    apply Bytes.toNatBE_ofNatBE
    change n < Nat.pow 256 (tailWidth n) * 256
    omega
  have lead : n / Nat.pow 256 (tailWidth n) < 128 :=
    Nat.div_lt_of_lt_mul (by rw [Nat.mul_comm]; exact below)
  have clear : UInt8.ofNat (n / Nat.pow 256 (tailWidth n) % 256) < 0x80 := by
    rw [ofNat_lt_iff, Nat.mod_mod]
    exact Nat.lt_of_le_of_lt (Nat.mod_le _ _) lead
  have form : content n = Bytes.ofNatBE (tailWidth n + 1) n := rfl
  rw [form, Bytes.ofNatBE_succ] at whole ⊢
  cases width : tailWidth n with
  | zero =>
    rw [width] at lead clear
    have one : n / Nat.pow 256 0 = n := Nat.div_one n
    rw [one] at lead clear ⊢
    simp only [Bytes.ofNatBE, Bytes.ofNatLE, List.reverse_nil, natural?, if_pos clear,
      UInt8.toNat_ofNat', Option.some_inj]
    omega
  | succ k =>
    rw [width] at lead clear
    rw [width, Bytes.ofNatBE_succ] at whole
    rw [Bytes.ofNatBE_succ]
    have pos : 0 < Nat.pow 256 k := Nat.pow_pos (by decide)
    have least : 128 ≤ n / Nat.pow 256 k := (Nat.le_div_iff_mul_le pos).2 (half_le width)
    have next : n / Nat.pow 256 (k + 1) = n / Nat.pow 256 k / 256 := by
      rw [Nat.div_div_eq_div_mul]
      rfl
    -- A leading zero byte is there only to keep the leading bit of the next one from the front.
    have minimal : ¬ (UInt8.ofNat (n / Nat.pow 256 (k + 1) % 256) = 0 ∧
        UInt8.ofNat (n / Nat.pow 256 k % 256) < 0x80) := by
      rw [ofNat_eq_zero_iff, ofNat_lt_iff]
      rw [next] at lead ⊢
      generalize n / Nat.pow 256 k = digits at lead least
      omega
    rw [natural?, if_pos ⟨clear, minimal⟩, whole]

/-- Bytes that are read as an integer are as many as the content of the integer takes. -/
lemma natural?_eq_some {b : Bytes} {n : Nat} (read : natural? b = some n) :
    Bytes.toNatBE b = n ∧ tailWidth n + 1 = b.length := by
  match b, read with
  | [x], read =>
    obtain ⟨clear, rfl⟩ : x < 0x80 ∧ x.toNat = n := by simpa [natural?] using read
    have width : tailWidth x.toNat ≤ 0 := tailWidth_le (UInt8.lt_iff_toNat_lt.1 clear)
    exact ⟨rfl, congrArg (· + 1) (Nat.le_zero.1 width)⟩
  | x :: y :: rest, read =>
    rw [natural?] at read
    split at read
    case isFalse => cases read
    case isTrue minimal =>
      obtain ⟨clear, needed⟩ := minimal
      obtain rfl := Option.some.inj read
      refine ⟨rfl, congrArg (· + 1) ?_⟩
      have first : x.toNat < 128 := UInt8.lt_iff_toNat_lt.1 clear
      have whole := Bytes.toNatBE_cons x (y :: rest)
      have inner := Bytes.toNatBE_cons y rest
      have below := Bytes.toNatBE_lt (y :: rest)
      have digits : Nat.pow 256 (y :: rest).length = Nat.pow 256 rest.length * 256 := rfl
      have most : Bytes.toNatBE (x :: y :: rest) < 128 * Nat.pow 256 (y :: rest).length := by
        have lead : x.toNat * Nat.pow 256 (y :: rest).length ≤
            127 * Nat.pow 256 (y :: rest).length := Nat.mul_le_mul_right _ (by omega)
        omega
      have least : 128 * Nat.pow 256 rest.length ≤ Bytes.toNatBE (x :: y :: rest) := by
        -- A leading zero byte is there because the byte after it has its leading bit set.
        by_cases zero : x = 0
        · have large : ¬ y.toNat < 128 := fun small =>
            needed ⟨zero, UInt8.lt_iff_toNat_lt.2 small⟩
          have next : 128 ≤ y.toNat := Nat.le_of_not_lt large
          have lead := Nat.mul_le_mul_right (Nat.pow 256 rest.length) next
          omega
        · have nonzero : x.toNat ≠ 0 := fun none => zero (UInt8.toNat_inj.1 none)
          have one : 1 ≤ x.toNat := Nat.one_le_iff_ne_zero.2 nonzero
          have lead := Nat.mul_le_mul_right (Nat.pow 256 (y :: rest).length) one
          omega
      exact Nat.le_antisymm (tailWidth_le most) (lt_tailWidth least)

/-- The bytes that are read as an integer are its content. -/
lemma content_of_natural? {b : Bytes} {n : Nat} (read : natural? b = some n) : content n = b := by
  obtain ⟨number, width⟩ := natural?_eq_some read
  calc content n
    _ = Bytes.ofNatBE (tailWidth n + 1) n := rfl
    _ = Bytes.ofNatBE b.length (Bytes.toNatBE b) := by rw [width, number]
    _ = b := Bytes.ofNatBE_toNatBE b

/-- A value with its tag is read back, whatever follows it. -/
lemma untag?_tagged (tag : UInt8) {body : Bytes} (short : body.length < 128) (after : Bytes) :
    untag? tag (tagged tag body ++ after) = some (body, after) := by
  have length : (UInt8.ofNat body.length).toNat = body.length := by
    rw [UInt8.toNat_ofNat']
    omega
  have one : UInt8.ofNat body.length < 0x80 := (ofNat_lt_iff body.length).2 (by omega)
  simp [tagged, untag?, length, one]

/-- A value that is read stands in front, with its tag. -/
lemma eq_of_untag? {tag : UInt8} {b body after : Bytes} (read : untag? tag b = some (body, after)) :
    b = tagged tag body ++ after ∧ body.length < 128 := by
  unfold untag? at read
  split at read
  case h_1 found length rest =>
    split at read
    case isTrue fits =>
      obtain ⟨rfl, short, within⟩ := fits
      obtain ⟨rfl, rfl⟩ := Prod.mk.inj (Option.some.inj read)
      have limit : length.toNat < 128 := UInt8.lt_iff_toNat_lt.1 short
      have size : (rest.take length.toNat).length = length.toNat := by
        rw [List.length_take]
        omega
      refine ⟨?_, by rw [size]; exact limit⟩
      rw [tagged, size, UInt8.ofNat_toNat, List.cons_append, List.cons_append,
        List.take_append_drop]
    case isFalse => cases read
  case h_2 => cases read

/-- Two integers are read back when what is written of them is short. -/
lemma decode?_encode {r s : Nat} (short : (content r).length + (content s).length < 124) :
    decode? (encode r s) = some (r, s) := by
  have first : (content r).length < 128 := by omega
  have second : (content s).length < 128 := by omega
  have both : (tagged integerTag (content r) ++ tagged integerTag (content s)).length < 128 := by
    simp only [tagged, List.length_append, List.length_cons]
    omega
  have outer := untag?_tagged sequenceTag both []
  have left := untag?_tagged integerTag first (tagged integerTag (content s))
  have right := untag?_tagged integerTag second []
  rw [List.append_nil] at outer right
  simp [decode?, encode, outer, left, right, natural?_content]

/-- The bytes that are read as two integers are those that are written for them. -/
lemma encode_of_decode? {b : Bytes} {r s : Nat} (read : decode? b = some (r, s)) :
    encode r s = b := by
  simp only [decode?, Option.bind_eq_bind, Option.bind_eq_some_iff] at read
  obtain ⟨⟨body, after⟩, outer, ⟨first, rest⟩, left, ⟨second, excess⟩, right, numbers⟩ := read
  split at numbers
  case isTrue ends =>
    obtain ⟨rfl, rfl⟩ : after = [] ∧ excess = [] := ends
    obtain ⟨m, one, numbers⟩ := Option.bind_eq_some_iff.1 numbers
    obtain ⟨n, two, same⟩ := Option.bind_eq_some_iff.1 numbers
    cases same
    have whole : b = tagged sequenceTag body ++ [] := (eq_of_untag? outer).1
    have front : body = tagged integerTag first ++ rest := (eq_of_untag? left).1
    have back : rest = tagged integerTag second ++ [] := (eq_of_untag? right).1
    have leading : content r = first := content_of_natural? one
    have trailing : content s = second := content_of_natural? two
    rw [whole, front, back, encode, leading, trailing, List.append_nil, List.append_nil]
  case isFalse => cases numbers

end Der

/-- The scalar of a number has it as its value. -/
lemma Curve.Scalar.value_of_ofNat? {c : Curve} {n : Nat} {k : c.Scalar}
    (found : Scalar.ofNat? c n = some k) : k.value = n := by
  unfold Scalar.ofNat? at found
  split at found
  · cases found
    rfl
  · cases found

namespace Ecdsa.Signature

/-- The content of a scalar is at most one byte longer than a field element of P-384. -/
lemma length_content_le {c : Curve} (k : c.Scalar) : (Der.content k.value).length ≤ 49 := by
  have order : c.order ≤ 128 * Nat.pow 256 48 := by cases c <;> decide
  rw [Der.length_content]
  exact Nat.succ_le_succ (Der.tailWidth_le (Nat.lt_of_lt_of_le k.lt_order order))

/-- The bytes of a signature are read as the signature. -/
lemma ofBytes?_toBytes {c : Curve} (signature : Signature c) :
    ofBytes? c signature.toBytes = some signature := by
  have r := length_content_le signature.r
  have s := length_content_le signature.s
  have read := Der.decode?_encode (r := signature.r.value) (s := signature.s.value) (by omega)
  simp [ofBytes?, toBytes, read]

/-- The bytes that are read as a signature are those of the signature. -/
lemma ofBytes?_eq_some_iff {c : Curve} {b : Bytes} {signature : Signature c} :
    ofBytes? c b = some signature ↔ signature.toBytes = b := by
  constructor
  · intro read
    simp only [ofBytes?, Option.bind_eq_bind, Option.bind_eq_some_iff] at read
    obtain ⟨⟨m, n⟩, numbers, r, one, s, two, same⟩ := read
    cases same
    have first : r.value = m := Curve.Scalar.value_of_ofNat? one
    have second : s.value = n := Curve.Scalar.value_of_ofNat? two
    rw [toBytes, first, second, Der.encode_of_decode? numbers]
  · rintro rfl
    exact ofBytes?_toBytes signature

end Ecdsa.Signature

end Crypto

end SchemeNegotiation
