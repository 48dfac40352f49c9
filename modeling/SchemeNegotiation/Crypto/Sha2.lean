import SchemeNegotiation.Bytes

/-!
# The SHA-2 digests

SHA-224, SHA-256, SHA-384 and SHA-512 over one description of a round, with the word size as a
parameter. A digest is computed by a hasher that is fed bytes; `update_append` says that it only
matters which bytes were fed, not how they were cut into pieces. A keyed digest of a message is put
together from two digests.
-/

namespace SchemeNegotiation.Crypto

/-- The digests of the SHA-2 family that are in use. -/
inductive Sha2 where
  | sha224
  | sha256
  | sha384
  | sha512
  deriving DecidableEq

namespace Sha2

/-- The number of bits of a word. -/
def width : Sha2 → Nat
  | sha224 | sha256 => 32
  | sha384 | sha512 => 64

/-- The number of bytes of a digest. -/
def size : Sha2 → Nat
  | sha224 => 28
  | sha256 => 32
  | sha384 => 48
  | sha512 => 64

/-- The number of bytes that are compressed at a time: sixteen words. -/
def blockSize (h : Sha2) : Nat :=
  2 * h.width

/-- The first 64 bits of the fractional parts of the cube roots of the first eighty primes. -/
def cubeRoots : List Nat :=
  [0x428a2f98d728ae22, 0x7137449123ef65cd, 0xb5c0fbcfec4d3b2f, 0xe9b5dba58189dbbc,
   0x3956c25bf348b538, 0x59f111f1b605d019, 0x923f82a4af194f9b, 0xab1c5ed5da6d8118,
   0xd807aa98a3030242, 0x12835b0145706fbe, 0x243185be4ee4b28c, 0x550c7dc3d5ffb4e2,
   0x72be5d74f27b896f, 0x80deb1fe3b1696b1, 0x9bdc06a725c71235, 0xc19bf174cf692694,
   0xe49b69c19ef14ad2, 0xefbe4786384f25e3, 0x0fc19dc68b8cd5b5, 0x240ca1cc77ac9c65,
   0x2de92c6f592b0275, 0x4a7484aa6ea6e483, 0x5cb0a9dcbd41fbd4, 0x76f988da831153b5,
   0x983e5152ee66dfab, 0xa831c66d2db43210, 0xb00327c898fb213f, 0xbf597fc7beef0ee4,
   0xc6e00bf33da88fc2, 0xd5a79147930aa725, 0x06ca6351e003826f, 0x142929670a0e6e70,
   0x27b70a8546d22ffc, 0x2e1b21385c26c926, 0x4d2c6dfc5ac42aed, 0x53380d139d95b3df,
   0x650a73548baf63de, 0x766a0abb3c77b2a8, 0x81c2c92e47edaee6, 0x92722c851482353b,
   0xa2bfe8a14cf10364, 0xa81a664bbc423001, 0xc24b8b70d0f89791, 0xc76c51a30654be30,
   0xd192e819d6ef5218, 0xd69906245565a910, 0xf40e35855771202a, 0x106aa07032bbd1b8,
   0x19a4c116b8d2d0c8, 0x1e376c085141ab53, 0x2748774cdf8eeb99, 0x34b0bcb5e19b48a8,
   0x391c0cb3c5c95a63, 0x4ed8aa4ae3418acb, 0x5b9cca4f7763e373, 0x682e6ff3d6b2b8a3,
   0x748f82ee5defb2fc, 0x78a5636f43172f60, 0x84c87814a1f0ab72, 0x8cc702081a6439ec,
   0x90befffa23631e28, 0xa4506cebde82bde9, 0xbef9a3f7b2c67915, 0xc67178f2e372532b,
   0xca273eceea26619c, 0xd186b8c721c0c207, 0xeada7dd6cde0eb1e, 0xf57d4f7fee6ed178,
   0x06f067aa72176fba, 0x0a637dc5a2c898a6, 0x113f9804bef90dae, 0x1b710b35131c471b,
   0x28db77f523047d84, 0x32caab7b40c72493, 0x3c9ebe0a15c9bebc, 0x431d67c49c100d4c,
   0x4cc5d4becb3e42b6, 0x597f299cfc657e2a, 0x5fcb6fab3ad6faec, 0x6c44198c4a475817]

/-- The first 64 bits of the fractional parts of the square roots of the first eight primes. -/
def squareRoots : List Nat :=
  [0x6a09e667f3bcc908, 0xbb67ae8584caa73b, 0x3c6ef372fe94f82b, 0xa54ff53a5f1d36f1,
   0x510e527fade682d1, 0x9b05688c2b3e6c1f, 0x1f83d9abfb41bd6b, 0x5be0cd19137e2179]

/-- The first 64 bits of the fractional parts of the square roots of the next eight primes. -/
def nextSquareRoots : List Nat :=
  [0xcbbb9d5dc1059ed8, 0x629a292a367cd507, 0x9159015a3070dd17, 0x152fecd8f70e5939,
   0x67332667ffc00b31, 0x8eb44a8768581511, 0xdb0c2e0d64f98fa7, 0x47b5481dbefa4fa4]

/-- The constant of each round. Narrow words take the upper half of the first 64 constants. -/
def roundConstants (h : Sha2) : List (BitVec h.width) :=
  match h with
  | sha224 | sha256 => (cubeRoots.take 64).map fun k => BitVec.ofNat 32 (k >>> 32)
  | sha384 | sha512 => cubeRoots.map (BitVec.ofNat 64)

/-- The amounts of the rotations in the two functions of a working word. -/
def workRotations (h : Sha2) : List Nat × List Nat :=
  match h with
  | sha224 | sha256 => ([2, 13, 22], [6, 11, 25])
  | sha384 | sha512 => ([28, 34, 39], [14, 18, 41])

/-- The two rotations and the shift in the two functions of a scheduled word. -/
def scheduleRotations (h : Sha2) : (List Nat × Nat) × (List Nat × Nat) :=
  match h with
  | sha224 | sha256 => (([7, 18], 3), ([17, 19], 10))
  | sha384 | sha512 => (([1, 8], 7), ([19, 61], 6))

/-- The sum, bit by bit, of several rotations of a word to the right. -/
def rotations {w : Nat} (amounts : List Nat) (x : BitVec w) : BitVec w :=
  amounts.foldl (fun acc n => acc ^^^ x.rotateRight n) 0

/-- The function of a scheduled word: its rotations and one shift. -/
def mix {w : Nat} (amounts : List Nat × Nat) (x : BitVec w) : BitVec w :=
  rotations amounts.1 x ^^^ (x >>> amounts.2)

/-- The eight words carried from block to block. -/
structure Words (w : Nat) where
  a : BitVec w
  b : BitVec w
  c : BitVec w
  d : BitVec w
  e : BitVec w
  f : BitVec w
  g : BitVec w
  h : BitVec w
  deriving DecidableEq

namespace Words

/-- Eight words from the first eight numbers of a list. -/
def ofNats (w : Nat) (ns : List Nat) : Words w :=
  let word i := BitVec.ofNat w (ns.getD i 0)
  ⟨word 0, word 1, word 2, word 3, word 4, word 5, word 6, word 7⟩

/-- The eight words in order. -/
def toList {w : Nat} (s : Words w) : List (BitVec w) :=
  [s.a, s.b, s.c, s.d, s.e, s.f, s.g, s.h]

/-- Adds two states word by word. -/
def add {w : Nat} (s t : Words w) : Words w :=
  ⟨s.a + t.a, s.b + t.b, s.c + t.c, s.d + t.d, s.e + t.e, s.f + t.f, s.g + t.g, s.h + t.h⟩

end Words

/-- The words that a digest starts from. SHA-224 takes the lower half of those of SHA-384. -/
def initial (h : Sha2) : Words h.width :=
  match h with
  | sha224 => Words.ofNats 32 nextSquareRoots
  | sha256 => Words.ofNats 32 (squareRoots.map (· >>> 32))
  | sha384 => Words.ofNats 64 nextSquareRoots
  | sha512 => Words.ofNats 64 squareRoots

/-- One round on the working words, with its constant plus its scheduled word. -/
def round (h : Sha2) (s : Words h.width) (input : BitVec h.width) : Words h.width :=
  let choice := (s.e &&& s.f) ^^^ (~~~s.e &&& s.g)
  let majority := (s.a &&& s.b) ^^^ (s.a &&& s.c) ^^^ (s.b &&& s.c)
  let first := s.h + rotations h.workRotations.2 s.e + choice + input
  let second := rotations h.workRotations.1 s.a + majority
  ⟨first + second, s.a, s.b, s.c, s.d + first, s.e, s.f, s.g⟩

/-- Moves the window of sixteen scheduled words on by one word. -/
def advance (h : Sha2) (window : List (BitVec h.width)) : List (BitVec h.width) :=
  window.tail ++
    [mix h.scheduleRotations.2 (window.getD 14 0) + window.getD 9 0 +
      mix h.scheduleRotations.1 (window.getD 1 0) + window.headD 0]

/-- The state after one more block of sixteen words. -/
def compress (h : Sha2) (s : Words h.width) (block : List (BitVec h.width)) : Words h.width :=
  let step := fun (window, t) k => (h.advance window, h.round t (k + window.headD 0))
  s.add (h.roundConstants.foldl step (block, s)).2

/-- The sixteen words of a block of bytes. -/
def blockWords (h : Sha2) (block : Bytes) : List (BitVec h.width) :=
  let wordSize := h.width / 8
  (List.range 16).map fun i =>
    BitVec.ofNat h.width (Bytes.toNatBE ((block.drop (i * wordSize)).take wordSize))

/-- A computation of a digest in progress. -/
structure Hasher (h : Sha2) where
  /-- The state after the full blocks. -/
  words : Words h.width
  /-- The bytes of the block in progress, the latest first. -/
  pending : Bytes
  /-- The number of bytes fed. -/
  count : Nat
  deriving DecidableEq

namespace Hasher

/-- A computation that has been fed nothing. -/
def start (h : Sha2) : Hasher h :=
  ⟨h.initial, [], 0⟩

variable {h : Sha2}

/-- Feeds one byte. -/
def push (s : Hasher h) (b : UInt8) : Hasher h :=
  if (s.count + 1) % h.blockSize = 0 then
    ⟨h.compress s.words (h.blockWords (b :: s.pending).reverse), [], s.count + 1⟩
  else
    ⟨s.words, b :: s.pending, s.count + 1⟩

/-- Feeds the bytes of a string in order. -/
def update (s : Hasher h) (b : Bytes) : Hasher h :=
  b.foldl push s

/-- What is fed after the message: a one bit, zeros up to a full block, and the bit count. -/
def padding (s : Hasher h) : Bytes :=
  let countSize := h.width / 4
  let used := (s.count + 1 + countSize) % h.blockSize
  let zeros := (h.blockSize - used) % h.blockSize
  0x80 :: List.replicate zeros 0 ++ Bytes.ofNatBE countSize (8 * s.count)

/-- The digest of the bytes fed. -/
def digest (s : Hasher h) : Bytes :=
  let last := s.update s.padding
  (last.words.toList.flatMap fun word => Bytes.ofNatBE (h.width / 8) word.toNat).take h.size

/-- Feeding one string and then another is feeding both as one string. -/
theorem update_append (s : Hasher h) (b c : Bytes) : s.update (b ++ c) = (s.update b).update c := by
  simp [update]

/-- Feeding the empty string changes nothing. -/
@[simp]
theorem update_nil (s : Hasher h) : s.update [] = s := rfl

/-- Feeding strings one after the other is feeding them as one string. -/
theorem foldl_update (s : Hasher h) (chunks : List Bytes) :
    chunks.foldl update s = s.update chunks.flatten := by
  induction chunks generalizing s with
  | nil => rfl
  | cons chunk rest ih => simp [ih, update_append]

end Hasher

/-- The digest of a byte string. -/
def hash (h : Sha2) (b : Bytes) : Bytes :=
  ((Hasher.start h).update b).digest

end Sha2

/-- The key of a keyed digest as one block: a long key is hashed first, a short one gets zeros. -/
def blockKey (h : Sha2) (key : Bytes) : Bytes :=
  let short := if key.length ≤ h.blockSize then key else h.hash key
  short ++ List.replicate (h.blockSize - short.length) 0

/-- The keyed digest of a message. -/
def hmac (h : Sha2) (key message : Bytes) : Bytes :=
  let padded := blockKey h key
  h.hash (padded.map (· ^^^ 0x5c) ++ h.hash (padded.map (· ^^^ 0x36) ++ message))

end SchemeNegotiation.Crypto
