import SchemeNegotiation.Algorithm
import SchemeNegotiation.Key.Private

/-!
# Providers

Whoever carries out signatures. A provider says once what it is able to do, and later makes the
signers and verifiers it is asked for. These are bound to one key and one algorithm. They are fed a
message in pieces and are asked once for their result, and what they make of the pieces is up to the
provider.
-/

namespace SchemeNegotiation

/-- A signature in progress. -/
structure Signer where
  /-- The algorithm that the signer was made for. -/
  algorithm : String
  /-- The pieces of the message fed so far. -/
  chunks : List Bytes
  /-- The signature of a message fed in pieces. -/
  finish : List Bytes → Except Error Bytes

namespace Signer

/-- A signer that has been fed nothing. -/
def start (algorithm : String) (finish : List Bytes → Except Error Bytes) : Signer :=
  ⟨algorithm, [], finish⟩

/-- Feeds a piece of the message. -/
def update (s : Signer) (chunk : Bytes) : Signer :=
  { s with chunks := s.chunks ++ [chunk] }

/-- The signature of what was fed. -/
def sign (s : Signer) : Except Error Bytes :=
  s.finish s.chunks

/-- The signature of several pieces after what was fed. -/
def signChunks (s : Signer) (chunks : List Bytes) : Except Error Bytes :=
  (chunks.foldl update s).sign

/-- Feeding pieces keeps what the signer was made for and records them in order. -/
theorem foldl_update (s : Signer) (chunks : List Bytes) :
    chunks.foldl update s = ⟨s.algorithm, s.chunks ++ chunks, s.finish⟩ := by
  induction chunks generalizing s with
  | nil => simp
  | cons chunk rest ih => simp [ih, update]

/-- A signer sees all pieces in order. -/
theorem signChunks_eq (s : Signer) (chunks : List Bytes) :
    s.signChunks chunks = s.finish (s.chunks ++ chunks) := by
  simp [signChunks, foldl_update, sign]

end Signer

/-- A verification in progress. -/
structure Verifier where
  /-- The algorithm that the verifier was made for. -/
  algorithm : String
  /-- The pieces of the message fed so far. -/
  chunks : List Bytes
  /--
  The verdict on a message fed in pieces and a signature. A signature that can be read is true or
  false; one that cannot is an error.
  -/
  finish : List Bytes → Bytes → Except Error Bool

namespace Verifier

/-- A verifier that has been fed nothing. -/
def start (algorithm : String) (finish : List Bytes → Bytes → Except Error Bool) : Verifier :=
  ⟨algorithm, [], finish⟩

/-- Feeds a piece of the message. -/
def update (v : Verifier) (chunk : Bytes) : Verifier :=
  { v with chunks := v.chunks ++ [chunk] }

/-- The verdict on what was fed and a signature. -/
def verify (v : Verifier) (signature : Bytes) : Except Error Bool :=
  v.finish v.chunks signature

/-- The verdict on several pieces after what was fed. -/
def verifyChunks (v : Verifier) (chunks : List Bytes) (signature : Bytes) : Except Error Bool :=
  (chunks.foldl update v).verify signature

/-- Feeding pieces keeps what the verifier was made for and records them in order. -/
theorem foldl_update (v : Verifier) (chunks : List Bytes) :
    chunks.foldl update v = ⟨v.algorithm, v.chunks ++ chunks, v.finish⟩ := by
  induction chunks generalizing v with
  | nil => simp
  | cons chunk rest ih => simp [ih, update]

/-- A verifier sees all pieces in order. -/
theorem verifyChunks_eq (v : Verifier) (chunks : List Bytes) (signature : Bytes) :
    v.verifyChunks chunks signature = v.finish (v.chunks ++ chunks) signature := by
  simp [verifyChunks, foldl_update, verify]

end Verifier

/-- The answers of a provider of signature algorithms. -/
structure Provider where
  /-- Whether signers and verifiers of an algorithm can be made at all. -/
  canInstantiate : String → Bool
  /-- Whether signatures on elliptic curves can be used. -/
  ecAvailable : Bool
  /-- A signer of an algorithm, with its parameters, for a key. -/
  newSigner : String → Option PssParams → PrivateKey → Except Error Signer
  /-- A verifier of an algorithm, with its parameters, for a key. -/
  newVerifier : String → Option PssParams → PublicKey → Except Error Verifier

end SchemeNegotiation
