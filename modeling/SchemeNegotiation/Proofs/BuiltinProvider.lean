import SchemeNegotiation.Proofs.Der
import SchemeNegotiation.Proofs.Registry
import SchemeNegotiation.Provider.Builtin

/-!
# The built-in provider

The algorithms that the built-in provider has are those of a method. The table gives such an
algorithm no parameters, and the keys that the method takes (`Builtin.Method.fits_of_ofName?`). So
the keys are a pair that the method signs and verifies with (`Builtin.Method.KeyPair`), a signer and
a verifier can be made, and the verifier accepts what the signer made of the same message
(`Builtin.verifyChunks_of_signChunks`) if the primitives verify their own signature of it. That is
asked of one message at a time, as lawful primitives do it for all (`Suite.Lawful.verifiesOwn`).
-/

namespace SchemeNegotiation

open Crypto

/-- A key algorithm is the one with its name. -/
@[simp]
lemma KeyAlgorithm.ofName?_name (a : KeyAlgorithm) : ofName? a.name = some a := by
  cases a <;> decide

/-- A string of some length is a string of that length. -/
@[simp]
lemma Octets.ofBytes?_val {n : Nat} (b : Octets n) : ofBytes? n b.val = some b :=
  dif_pos b.property

/--
Whether the primitives verify their own signature of a message, made with a key in the way of an
algorithm. A key that the algorithm does not take has none.
-/
def Suite.verifiesOwn (suite : Suite) (algorithm : String) (key : PrivateKey) (message : Bytes) :
    Bool :=
  match Builtin.Method.ofName? algorithm, key with
  | some .ed25519, .ed25519 seed =>
    suite.ed25519Verify (Ed25519.publicKey seed) message (suite.ed25519Sign seed message)
  | some (.ecdsa h), .ecdsa c scalar =>
    (suite.ecdsaSign? scalar (h.hash message)).any
      (suite.ecdsaVerify c scalar.point (h.hash message))
  | _, _ => true

namespace Builtin

namespace Method

/-- The kind of keys that a method signs with. -/
def keyAlgorithm : Method → KeyAlgorithm
  | ed25519 => .ed25519
  | ecdsa _ => .ec

/-- What a scheme has to be for a method to carry it out. -/
structure Fits (m : Method) (d : Definition) : Prop where
  params : d.params = none
  keyAlgorithm : d.keyAlgorithm = m.keyAlgorithm
  /-- Signers and verifiers of Ed25519 go by the name of the method. -/
  name : m = .ed25519 → d.algorithm = ed25519Name

/-- The method of an algorithm fits the schemes of the table with that algorithm. -/
lemma fits_of_ofName? {m : Method} {d : Definition} (known : d ∈ Definition.table)
    (has : ofName? d.algorithm = some m) : m.Fits d := by
  have every : ∀ e ∈ Definition.table, ∀ n ∈ ofName? e.algorithm, e.params = none ∧
      e.keyAlgorithm = n.keyAlgorithm ∧ (n = .ed25519 → e.algorithm = ed25519Name) := by
    decide
  obtain ⟨params, keyAlgorithm, name⟩ := every d known m has
  exact ⟨params, keyAlgorithm, name⟩

/-- The keys that a method signs and verifies with. -/
inductive KeyPair : Method → PrivateKey → PublicKey → Prop where
  | ed25519 (seed : Octets 32) :
    KeyPair .ed25519 (.ed25519 seed) (.ed25519 (Ed25519.publicKey seed))
  | ecdsa (h : Sha2) {c : Curve} (scalar : c.Scalar) :
    KeyPair (.ecdsa h) (.ecdsa c scalar) (.ecdsa c scalar.point)

/-- A key of the kind that a method takes makes a pair with its public key. -/
lemma keyPair_of_keyAlgorithm {m : Method} {key : PrivateKey} {publicKey : PublicKey}
    (held : key.publicKey? = some publicKey) (sameKeys : key.keyAlgorithm? = some m.keyAlgorithm) :
    m.KeyPair key publicKey := by
  cases key with
  | ed25519 seed =>
    have own : (PrivateKey.ed25519 seed).keyAlgorithm? = some .ed25519 :=
      KeyAlgorithm.ofName?_name .ed25519
    rw [own] at sameKeys
    cases held
    cases m with
    | ed25519 => exact .ed25519 seed
    | ecdsa h => cases sameKeys
  | ecdsa c scalar =>
    have own : (PrivateKey.ecdsa c scalar).keyAlgorithm? = some .ec :=
      KeyAlgorithm.ofName?_name .ec
    rw [own] at sameKeys
    cases held
    cases m with
    | ed25519 => cases sameKeys
    | ecdsa h => exact .ecdsa h scalar
  | external key => cases held

end Method

variable {suite : Suite} {algorithm : String} {m : Method} {key : PrivateKey}
  {publicKey : PublicKey}

/-- The method of an algorithm that takes no parameters. -/
lemma method_eq (has : Method.ofName? algorithm = some m) : method algorithm none = .ok m := by
  simp [method, has]

/-- A signer can be made for a key of the pair, and it goes by the name that was asked for. -/
lemma exists_newSigner (has : Method.ofName? algorithm = some m) (pair : m.KeyPair key publicKey)
    (named : m = .ed25519 → algorithm = ed25519Name) :
    ∃ signer, newSigner suite algorithm none key = .ok signer ∧ signer.algorithm = algorithm := by
  cases pair with
  | ed25519 seed =>
    refine ⟨ed25519Signer suite seed, ?_, (named rfl).symm⟩
    rw [newSigner, method_eq has]
    rfl
  | ecdsa h scalar =>
    refine ⟨ecdsaSigner suite algorithm h scalar, ?_, rfl⟩
    rw [newSigner, method_eq has]
    rfl

/-- A verifier can be made for a key of the pair. -/
lemma exists_newVerifier (has : Method.ofName? algorithm = some m)
    (pair : m.KeyPair key publicKey) :
    ∃ verifier, newVerifier suite algorithm none publicKey = .ok verifier := by
  rw [newVerifier, method_eq has]
  cases pair with
  | ed25519 seed => exact ⟨ed25519Verifier suite (Ed25519.publicKey seed), rfl⟩
  | @ecdsa h c scalar => exact ⟨ecdsaVerifier suite algorithm h c scalar.point, rfl⟩

/--
The signer and the verifier of a pair of keys agree about a message, however it is cut into pieces
for the one and for the other, if the primitives verify their own signature of it.
-/
lemma verifyChunks_of_signChunks {signer : Signer} {verifier : Verifier} {xs ys : List Bytes}
    (has : Method.ofName? algorithm = some m) (pair : m.KeyPair key publicKey)
    (made : newSigner suite algorithm none key = .ok signer)
    (checks : newVerifier suite algorithm none publicKey = .ok verifier)
    (same : xs.flatten = ys.flatten) (own : suite.verifiesOwn algorithm key xs.flatten = true) :
    ∃ signature, signer.signChunks xs = .ok signature ∧
      verifier.verifyChunks ys signature = .ok true := by
  rw [newSigner, method_eq has] at made
  rw [newVerifier, method_eq has] at checks
  cases pair with
  | ed25519 seed =>
    cases made
    cases checks
    unfold Suite.verifiesOwn at own
    rw [has] at own
    refine ⟨(suite.ed25519Sign seed xs.flatten).val, Signer.signChunks_eq _ _, ?_⟩
    have whole := Octets.ofBytes?_val (suite.ed25519Sign seed xs.flatten)
    rw [Verifier.verifyChunks_eq]
    simp only [ed25519Verifier, Verifier.start, List.nil_append, whole, ← same, own]
  | @ecdsa h c scalar =>
    cases made
    cases checks
    unfold Suite.verifiesOwn at own
    rw [has] at own
    obtain ⟨signature, signs, verifies⟩ := (Option.any_eq_true _ _).1 own
    refine ⟨signature.toBytes, ?_, ?_⟩
    · rw [Signer.signChunks_eq]
      simp only [ecdsaSigner, Signer.start, List.nil_append, digestOf_eq, signs]
    · rw [Verifier.verifyChunks_eq]
      simp only [ecdsaVerifier, Verifier.start, List.nil_append, digestOf_eq, ← same, verifies,
        Ecdsa.Signature.ofBytes?_toBytes]

end Builtin

/--
What may be relied on of the primitives: that they sign digests of the lengths in use, and that they
verify what they signed with the matching key.
-/
structure Suite.Lawful (suite : Suite) : Prop where
  ed25519 : ∀ seed message,
    suite.ed25519Verify (Ed25519.publicKey seed) message (suite.ed25519Sign seed message) = true
  signs : ∀ {c : Curve} (scalar : c.Scalar) (digest : Bytes), digest.length ∈ [28, 32, 48] →
    ∃ signature, suite.ecdsaSign? scalar digest = some signature
  verifies : ∀ {c : Curve} (scalar : c.Scalar) (digest : Bytes) (signature : Ecdsa.Signature c),
    suite.ecdsaSign? scalar digest = some signature →
      suite.ecdsaVerify c scalar.point digest signature = true

/-- A digest has the length of its kind. -/
lemma Crypto.Sha2.length_hash (h : Sha2) (b : Bytes) : (h.hash b).length = h.size := by
  have words (s : Words h.width) :
      (s.toList.flatMap fun word => Bytes.ofNatBE (h.width / 8) word.toNat).length = h.width := by
    simp only [Words.toList, List.flatMap_cons, List.flatMap_nil, List.length_append,
      Bytes.length_ofNatBE, List.length_nil]
    cases h <;> rfl
  rw [hash, Hasher.digest, List.length_take, words]
  cases h <;> rfl

/-- The digests of the ECDSA algorithms have the lengths in use. -/
lemma Builtin.Method.size_of_ofName? {algorithm : String} {h : Sha2}
    (has : ofName? algorithm = some (.ecdsa h)) : h.size ∈ [28, 32, 48] := by
  have every : ∀ entry ∈ ecdsaNames, entry.2.size ∈ [28, 32, 48] := by decide
  unfold ofName? at has
  split at has
  · cases has
  · obtain ⟨entry, found, same⟩ := Option.map_eq_some_iff.1 has
    cases same
    exact every entry (List.mem_of_find?_eq_some found)

/-- Lawful primitives verify their own signatures of all messages. -/
theorem Suite.Lawful.verifiesOwn {suite : Suite} (lawful : suite.Lawful) (algorithm : String)
    (key : PrivateKey) (message : Bytes) : suite.verifiesOwn algorithm key message = true := by
  unfold Suite.verifiesOwn
  split
  case h_1 seed _ => exact lawful.ed25519 seed message
  case h_2 h c scalar has =>
    have length : (h.hash message).length ∈ [28, 32, 48] := by
      rw [Sha2.length_hash]
      exact Builtin.Method.size_of_ofName? has
    obtain ⟨signature, signed⟩ := lawful.signs scalar (h.hash message) length
    rw [signed]
    exact lawful.verifies scalar (h.hash message) signature signed
  case h_3 => rfl

end SchemeNegotiation
