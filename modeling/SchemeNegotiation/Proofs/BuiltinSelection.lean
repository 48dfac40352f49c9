import SchemeNegotiation.Proofs.BuiltinProvider
import SchemeNegotiation.Proofs.Walk

/-!
# Selecting with the built-in provider

A candidate suits a possession when it passes every check that comes before the signer is asked for
(`Selector.Suits`). With the built-in provider and one of its own keys that is enough: a signer can
always be made, so selection stops at the first candidate that suits, no candidate is passed over
for want of a signer, and the verifier for the public key accepts what the signer signs
(`Selector.signsFirst_of_ofSuite`).
-/

namespace SchemeNegotiation

namespace Selector

variable {sel : Selector} {possession : Possession} {v : Version} {s : Scheme}

section

variable {candidates : List Scheme} {signer : Signer}

/-- A selected candidate suits, and the signer is one that was made for it. -/
lemma suits_of_selectSigner
    (selected : (sel.selectSigner candidates possession v).value = some (s, signer)) :
    s ∈ candidates ∧ sel.Suits possession v s ∧
      (s.signer sel.registry.provider possession.privateKey).value = .ok signer := by
  obtain ⟨i, first, signs⟩ := value_selectSigner_eq_some.1 selected
  exact ⟨List.mem_of_getElem? first.entry, signs_iff_suits.1 signs⟩

/-- A signer can be made for every candidate that suits. -/
def SignerForAll (sel : Selector) (candidates : List Scheme) (possession : Possession)
    (v : Version) : Prop :=
  ∀ s ∈ candidates, sel.Suits possession v s →
    ∃ signer, (s.signer sel.registry.provider possession.privateKey).value = .ok signer

/-- If a signer can be made for every candidate that suits, then the first one is selected. -/
lemma SignerForAll.selectSigner_iff (made : sel.SignerForAll candidates possession v) (s : Scheme) :
    (∃ signer, (sel.selectSigner candidates possession v).value = some (s, signer)) ↔
      ∃ i, FirstAt (sel.Suits possession v) candidates i s := by
  have same : ∀ t ∈ candidates,
      (∃ signer, sel.Signs possession v t signer) ↔ sel.Suits possession v t := by
    intro t mem
    constructor
    · rintro ⟨signer, signs⟩
      exact (signs_iff_suits.1 signs).1
    · intro suits
      obtain ⟨signer, signs⟩ := made t mem suits
      exact ⟨signer, signs_iff_suits.2 ⟨suits, signs⟩⟩
  constructor
  · rintro ⟨signer, selected⟩
    obtain ⟨i, first, -⟩ := value_selectSigner_eq_some.1 selected
    exact ⟨i, (FirstAt.congr same).1 first⟩
  · rintro ⟨i, suitable⟩
    have first := (FirstAt.congr same).2 suitable
    obtain ⟨signer, signs⟩ := first.holds
    exact ⟨signer, value_selectSigner_eq_some.2 ⟨i, first, signs⟩⟩

/-- If a signer can be made for every candidate that suits, then none is passed over for that. -/
lemma SignerForAll.signerRefused_notMem (made : sel.SignerForAll candidates possession v)
    (d : Definition) (reason : Error) :
    .told (.signerRefused d reason) ∉ (sel.selectSigner candidates possession v).events := by
  intro told
  obtain ⟨s, mem, eligible, happens⟩ := happens_of_mem_selectSigner told
  cases happens with
  | refused on fails =>
    obtain ⟨signer, signs⟩ := made s mem (suits_iff.2 ⟨isEligible_iff.2 eligible, on⟩)
    rw [(Scheme.value_signer_eq_ok.1 signs).2] at fails
    cases fails

end

/-- What selection comes to for a key with which the provider never fails. -/
structure SignsFirst (sel : Selector) (suite : Suite) (candidates : List Scheme)
    (possession : Possession) (publicKey : PublicKey) (v : Version) : Prop where
  made : sel.SignerForAll candidates possession v
  /-- The first candidate that suits is selected. -/
  first : ∀ s, (∃ signer, (sel.selectSigner candidates possession v).value = some (s, signer)) ↔
    ∃ i, FirstAt (sel.Suits possession v) candidates i s
  /-- No candidate is passed over for want of a signer. -/
  silent : ∀ d reason,
    .told (.signerRefused d reason) ∉ (sel.selectSigner candidates possession v).events
  /-- The signer goes by the algorithm of the scheme. -/
  named : ∀ s signer, (sel.selectSigner candidates possession v).value = some (s, signer) →
    signer.algorithm = s.algorithm
  /-- There is a verifier for the public key, and it accepts what the signer signs. -/
  verified : ∀ s signer, (sel.selectSigner candidates possession v).value = some (s, signer) →
    ∃ verifier, (sel.verifier s publicKey).value = .ok (some verifier) ∧
      ∀ xs ys : List Bytes, xs.flatten = ys.flatten →
        suite.verifiesOwn s.algorithm possession.privateKey xs.flatten = true →
          ∃ signature, signer.signChunks xs = .ok signature ∧
            verifier.verifyChunks ys signature = .ok true

section

variable {suite : Suite} {exclusion : Exclusion} {publicKey : PublicKey}

/-- An entry that suits a built-in key has an algorithm with a method for that key. -/
lemma Suits.exists_method
    (built : sel.registry = (Registry.build (Builtin.ofSuite suite) exclusion).value)
    (entry : s ∈ sel.registry.schemes) (held : possession.privateKey.publicKey? = some publicKey)
    (suits : sel.Suits possession v s) :
    ∃ m, Builtin.Method.ofName? s.algorithm = some m ∧ m.Fits s.definition ∧
      m.KeyPair possession.privateKey publicKey := by
  rw [built] at entry
  have instantiable := Registry.canInstantiate_of_available entry suits.available
  obtain ⟨m, has⟩ := Option.isSome_iff_exists.1 instantiable
  have known := (Registry.IsBuilt.build _ _).mem_table entry
  have fits := Builtin.Method.fits_of_ofName? known has
  refine ⟨m, has, fits, Builtin.Method.keyPair_of_keyAlgorithm held ?_⟩
  exact suits.keyAlgorithm.trans (congrArg some fits.keyAlgorithm)

/-- A signer can be made for an entry that suits a built-in key, and it goes by the algorithm. -/
lemma Suits.exists_signer
    (built : sel.registry = (Registry.build (Builtin.ofSuite suite) exclusion).value)
    (entry : s ∈ sel.registry.schemes) (held : possession.privateKey.publicKey? = some publicKey)
    (suits : sel.Suits possession v s) :
    ∃ signer, (s.signer sel.registry.provider possession.privateKey).value = .ok signer ∧
      signer.algorithm = s.algorithm := by
  obtain ⟨m, has, fits, pair⟩ := suits.exists_method built entry held
  have params : s.params = none := fits.params
  have provider : sel.registry.provider = Builtin.ofSuite suite :=
    congrArg Registry.provider built
  obtain ⟨signer, made, named⟩ := Builtin.exists_newSigner has pair fits.name
  refine ⟨signer, Scheme.value_signer_eq_ok.2 ⟨suits.available, ?_⟩, named⟩
  rw [provider, params]
  exact made

/-- The verifier of an entry that suits a built-in key accepts what a signer for it signs. -/
lemma Suits.exists_verifier {signer : Signer}
    (built : sel.registry = (Registry.build (Builtin.ofSuite suite) exclusion).value)
    (entry : s ∈ sel.registry.schemes) (held : possession.privateKey.publicKey? = some publicKey)
    (suits : sel.Suits possession v s)
    (made : (s.signer sel.registry.provider possession.privateKey).value = .ok signer) :
    ∃ verifier, (sel.verifier s publicKey).value = .ok (some verifier) ∧
      ∀ xs ys : List Bytes, xs.flatten = ys.flatten →
        suite.verifiesOwn s.algorithm possession.privateKey xs.flatten = true →
          ∃ signature, signer.signChunks xs = .ok signature ∧
            verifier.verifyChunks ys signature = .ok true := by
  obtain ⟨m, has, fits, pair⟩ := suits.exists_method built entry held
  have params : s.params = none := fits.params
  have provider : sel.registry.provider = Builtin.ofSuite suite :=
    congrArg Registry.provider built
  obtain ⟨available, made⟩ := Scheme.value_signer_eq_ok.1 made
  rw [provider, params] at made
  obtain ⟨verifier, checks⟩ := Builtin.exists_newVerifier has pair
  refine ⟨verifier, Scheme.value_verifier_eq_ok.2 ⟨available, ?_⟩, ?_⟩
  · rw [provider, params]
    exact checks
  · intro xs ys same own
    exact Builtin.verifyChunks_of_signChunks has pair made checks same own

/--
With the built-in provider, any exclusion and any policy, a built-in key signs with the first
candidate that suits it, and what it signs is verified.
-/
theorem signsFirst_of_ofSuite {candidates : List Scheme}
    (built : sel.registry = (Registry.build (Builtin.ofSuite suite) exclusion).value)
    (entries : ∀ s ∈ candidates, s ∈ sel.registry.schemes)
    (held : possession.privateKey.publicKey? = some publicKey) :
    sel.SignsFirst suite candidates possession publicKey v := by
  have made : sel.SignerForAll candidates possession v := by
    intro s mem suits
    obtain ⟨signer, made, -⟩ := suits.exists_signer built (entries s mem) held
    exact ⟨signer, made⟩
  refine ⟨made, made.selectSigner_iff, made.signerRefused_notMem, ?_, ?_⟩
  · intro s signer selected
    obtain ⟨mem, suits, own⟩ := suits_of_selectSigner selected
    obtain ⟨other, made, named⟩ := suits.exists_signer built (entries s mem) held
    rw [made] at own
    cases own
    exact named
  · intro s signer selected
    obtain ⟨mem, suits, own⟩ := suits_of_selectSigner selected
    exact suits.exists_verifier built (entries s mem) held own

/--
A P-256 key whose certificate is for P-384 signs with the scheme for P-384, and what it signs of
`abc` in two pieces is verified of `abc` in three.
-/
theorem signsFirst_of_standard :
    let sel := ofRegistry (Registry.build (Builtin.ofSuite .standard) .nothing).value
    let scalar : Crypto.Curve.p256.Scalar := ⟨5, by decide, by decide⟩
    let possession : Possession := ⟨.ecdsa .p256 scalar, some (.ofGroup .secp384r1)⟩
    let other : Scheme :=
      ⟨.boundEcdsa 0x0403 "ecdsa_secp256r1_sha256" "SHA256withECDSA" .secp256r1, true⟩
    let s : Scheme :=
      ⟨.boundEcdsa 0x0503 "ecdsa_secp384r1_sha384" "SHA384withECDSA" .secp384r1, true⟩
    ∃ signer verifier signature,
      (sel.selectSigner [other, s] possession .tls13).value = some (s, signer) ∧
        (sel.verifier s (.ecdsa .p256 scalar.point)).value = .ok (some verifier) ∧
          signer.signChunks [[0x61], [0x62, 0x63]] = .ok signature ∧
            verifier.verifyChunks [[0x61, 0x62], [], [0x63]] signature = .ok true := by
  intro sel scalar possession other s
  have entries : ∀ t ∈ [other, s], t ∈ sel.registry.schemes := by decide
  have chosen : (sel.selectSigner [other, s] possession .tls13).value.map Prod.fst = some s := by
    decide
  obtain ⟨⟨_, signer⟩, selected, rfl⟩ := Option.map_eq_some_iff.1 chosen
  have works : sel.SignsFirst .standard [other, s] possession (.ecdsa .p256 scalar.point) .tls13 :=
    signsFirst_of_ofSuite rfl entries rfl
  obtain ⟨verifier, checks, verified⟩ := works.verified s signer selected
  have own : Suite.standard.verifiesOwn s.algorithm (.ecdsa .p256 scalar) [0x61, 0x62, 0x63] := by
    decide +kernel
  obtain ⟨signature, signs, verifies⟩ :=
    verified [[0x61], [0x62, 0x63]] [[0x61, 0x62], [], [0x63]] rfl own
  exact ⟨signer, verifier, signature, selected, checks, signs, verifies⟩

end

end Selector

end SchemeNegotiation
