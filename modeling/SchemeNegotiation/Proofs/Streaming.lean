import SchemeNegotiation.Proofs.BuiltinAnswers

/-!
# Messages in pieces

What a built-in signer or verifier answers depends on the bytes that it was fed, and not on the
pieces they came in: an ECDSA method digests them as they come (`Builtin.digestOf_eq`), and Ed25519
keeps them all. Whether there is a verdict at all depends on less. The bytes of a signature can be
read for a kind of key or they cannot (`Readable`), whatever the message, the key and the digest.
-/

namespace SchemeNegotiation

open Crypto

/-- The bytes that can be read as a signature made with a kind of key. -/
inductive Readable : KeyKind → Bytes → Prop where
  | ed25519 (signature : Octets 64) : Readable .ed25519 signature.val
  | ecdsa {c : Curve} (signature : Ecdsa.Signature c) : Readable (.ecdsa c) signature.toBytes

/-- A signer to which a message is its bytes. -/
def Signer.SeesBytes (s : Signer) : Prop :=
  ∀ xs ys : List Bytes, xs.flatten = ys.flatten → s.signChunks xs = s.signChunks ys

/-- A verifier to which a message is its bytes. -/
def Verifier.SeesBytes (v : Verifier) : Prop :=
  ∀ xs ys : List Bytes, xs.flatten = ys.flatten →
    ∀ signature, v.verifyChunks xs signature = v.verifyChunks ys signature

/-- A verifier that fails on the signatures that cannot be read, and on no others. -/
def Verifier.FailsOnUnreadable (v : Verifier) (kind : KeyKind) : Prop :=
  ∀ chunks signature e, v.verifyChunks chunks signature = .error e ↔
    e = .invalidSignature ∧ ¬ Readable kind signature

/-- A provider whose signers and verifiers go by the bytes of a message and of a signature. -/
structure Provider.GoesByBytes (provider : Provider) : Prop where
  signer : ∀ {algorithm params key signer},
    provider.newSigner algorithm params key = .ok signer → signer.SeesBytes
  verifier : ∀ {algorithm params key verifier},
    provider.newVerifier algorithm params key = .ok verifier → verifier.SeesBytes
  /-- Only the kind of the key counts for whether there is a verdict on a signature. -/
  verdict : ∀ {algorithm params key verifier},
    provider.newVerifier algorithm params key = .ok verifier →
      ∃ kind ∈ key.kind?, verifier.FailsOnUnreadable kind

/-- An Ed25519 signature can be read when it has 64 bytes. -/
lemma readable_ed25519_iff {b : Bytes} :
    Readable .ed25519 b ↔ ∃ signature, Octets.ofBytes? 64 b = some signature := by
  constructor
  · intro readable
    cases readable with
    | ed25519 signature => exact ⟨signature, Octets.ofBytes?_val signature⟩
  · rintro ⟨signature, read⟩
    unfold Octets.ofBytes? at read
    split at read
    case isTrue length => exact .ed25519 ⟨b, length⟩
    case isFalse => cases read

/-- An ECDSA signature can be read when it decodes for the curve. -/
lemma readable_ecdsa_iff {c : Curve} {b : Bytes} :
    Readable (.ecdsa c) b ↔ ∃ signature, Ecdsa.Signature.ofBytes? c b = some signature := by
  simp only [Ecdsa.Signature.ofBytes?_eq_some_iff]
  constructor
  · intro readable
    cases readable with
    | ecdsa signature => exact ⟨signature, rfl⟩
  · rintro ⟨signature, rfl⟩
    exact .ecdsa signature

namespace Builtin

variable {suite : Suite} {algorithm : String} {params : Option PssParams}

namespace Method

variable {m : Method}

/-- To a signer that a method makes, a message is its bytes. -/
lemma MakesSigner.seesBytes {key : PrivateKey} {signer : Signer}
    (made : m.MakesSigner suite algorithm key signer) : signer.SeesBytes := by
  intro xs ys same
  rw [Signer.signChunks_eq, Signer.signChunks_eq]
  cases made with
  | ed25519 seed => simp only [ed25519Signer, Signer.start, List.nil_append, same]
  | ecdsa h scalar => simp only [ecdsaSigner, Signer.start, List.nil_append, digestOf_eq, same]

/-- To a verifier that a method makes, a message is its bytes. -/
lemma MakesVerifier.seesBytes {key : PublicKey} {verifier : Verifier}
    (made : m.MakesVerifier suite algorithm key verifier) : verifier.SeesBytes := by
  intro xs ys same signature
  rw [Verifier.verifyChunks_eq, Verifier.verifyChunks_eq]
  cases made with
  | ed25519 encoding => simp only [ed25519Verifier, Verifier.start, List.nil_append, same]
  | ecdsa h c point => simp only [ecdsaVerifier, Verifier.start, List.nil_append, digestOf_eq, same]

/-- A verifier that a method makes fails on what cannot be read for the kind of its key. -/
lemma MakesVerifier.failsOnUnreadable {key : PublicKey} {verifier : Verifier}
    (made : m.MakesVerifier suite algorithm key verifier) :
    ∃ kind ∈ key.kind?, verifier.FailsOnUnreadable kind := by
  cases made with
  | ed25519 encoding =>
    refine ⟨_, rfl, fun chunks signature e => ?_⟩
    rw [Verifier.verifyChunks_eq, readable_ed25519_iff]
    simp only [ed25519Verifier, Verifier.start]
    cases Octets.ofBytes? 64 signature <;> simp [eq_comm]
  | ecdsa h c point =>
    refine ⟨_, rfl, fun chunks signature e => ?_⟩
    rw [Verifier.verifyChunks_eq, readable_ecdsa_iff]
    simp only [ecdsaVerifier, Verifier.start]
    cases Ecdsa.Signature.ofBytes? c signature <;> simp [eq_comm]

end Method

/-- Built-in signers and verifiers go by the bytes of a message and of a signature. -/
theorem goesByBytes_ofSuite (suite : Suite) : (ofSuite suite).GoesByBytes where
  signer made := by
    obtain ⟨m, makes⟩ := exists_makesSigner made
    exact makes.seesBytes
  verifier made := by
    obtain ⟨m, makes⟩ := exists_makesVerifier made
    exact makes.seesBytes
  verdict made := by
    obtain ⟨m, makes⟩ := exists_makesVerifier made
    exact makes.failsOnUnreadable

end Builtin

end SchemeNegotiation
