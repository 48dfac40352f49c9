import SchemeNegotiation.Proofs.Agreement

/-!
# Failures

A provider may fail with any error, but callers see errors of one kind for each thing they ask for.
An error of that kind is passed on, and any other is reported as one (`Reported`). So signers fail
because a scheme does not go with a key, verifiers because they cannot be made, and a choice among
candidates because none is left (`Selector.failures_contained`).
-/

namespace SchemeNegotiation

/--
What is reported of an error where failures are of one kind: an error of that kind as it is, and any
other under the name of a scheme, with its message as the reason.
-/
inductive Reported (kind : String → String → Error) (name : String) : Error → Error → Prop where
  | own (scheme reason : String) : Reported kind name (kind scheme reason) (kind scheme reason)
  | other {cause : Error} (foreign : ∀ scheme reason, cause ≠ kind scheme reason) :
    Reported kind name cause (kind name cause.message)

/-- What was reported is passed on. -/
lemma Reported.own_of_reported {kind : String → String → Error} {name : String} {cause e : Error}
    (reported : Reported kind name cause e) (other : String) : Reported kind other e e := by
  cases reported with
  | own scheme reason => exact .own scheme reason
  | @other cause foreign => exact .own name cause.message

/-- A function that keeps the errors of a kind and wraps all others reports them. -/
lemma reported_iff {kind : String → String → Error} {name : String} {report : Error → Error}
    (own : ∀ scheme reason, report (kind scheme reason) = kind scheme reason)
    (other : ∀ cause, (∀ scheme reason, cause ≠ kind scheme reason) →
      report cause = kind name cause.message) {cause e : Error} :
    report cause = e ↔ Reported kind name cause e := by
  constructor
  · rintro rfl
    by_cases same : ∃ scheme reason, cause = kind scheme reason
    · obtain ⟨scheme, reason, rfl⟩ := same
      rw [own]
      exact .own scheme reason
    · push Not at same
      rw [other cause same]
      exact .other same
  · intro reported
    cases reported with
    | own scheme reason => exact own scheme reason
    | other foreign => exact other _ foreign

namespace Scheme

variable {s : Scheme} {provider : Provider} {cause e : Error}

/-- How the failures of signers are reported. -/
lemma signerError_eq_iff :
    s.signerError cause = e ↔ Reported .keyIncompatible s.name cause e := by
  refine reported_iff (fun _ _ => rfl) fun cause foreign => ?_
  cases cause with
  | keyIncompatible scheme reason => exact absurd rfl (foreign scheme reason)
  | _ => rfl

/-- How the failures of verifiers are reported. -/
lemma verifierError_eq_iff :
    s.verifierError cause = e ↔ Reported .verifierConstruction s.name cause e := by
  refine reported_iff (fun _ _ => rfl) fun cause foreign => ?_
  cases cause with
  | verifierConstruction scheme reason => exact absurd rfl (foreign scheme reason)
  | _ => rfl

/-- Where a scheme is available, the failures of its signers are those of the provider. -/
lemma value_signer_eq_error {key : PrivateKey} (available : s.available = true) :
    (s.signer provider key).value = .error e ↔
      ∃ cause, provider.newSigner s.algorithm s.params key = .error cause ∧
        Reported .keyIncompatible s.name cause e := by
  simp only [← signerError_eq_iff]
  unfold signer
  cases made : provider.newSigner s.algorithm s.params key <;> simp [available, Except.mapError]

/-- Where a scheme is available, the failures of its verifiers are those of the provider. -/
lemma value_verifier_eq_error {key : PublicKey} (available : s.available = true) :
    (s.verifier provider key).value = .error e ↔
      ∃ cause, provider.newVerifier s.algorithm s.params key = .error cause ∧
        Reported .verifierConstruction s.name cause e := by
  simp only [← verifierError_eq_iff]
  unfold verifier
  cases made : provider.newVerifier s.algorithm s.params key <;>
    simp [available, Except.mapError, Except.map]

/-- A scheme that is not available has no signer, which nobody is asked for. -/
lemma signer_of_unavailable (unavailable : s.available = false) (provider : Provider)
    (key : PrivateKey) :
    s.signer provider key = pure (.error (.unsupportedAlgorithm s.algorithm)) := by
  rw [signer, unavailable]
  rfl

/-- A scheme that is not available has no verifier, which nobody is asked for. -/
lemma verifier_of_unavailable (unavailable : s.available = false) (provider : Provider)
    (key : PublicKey) : s.verifier provider key = pure (.ok none) := by
  rw [verifier, unavailable]
  rfl

end Scheme

namespace Selector

/-- What callers see of failures, whatever the providers fail with. -/
structure FailuresContained (sel : Selector) : Prop where
  /-- For a scheme that is not available there is no signer, and no provider is asked for one. -/
  unavailable : ∀ (s : Scheme) provider key, s.available = false →
    (s.signer provider key).value = .error (.unsupportedAlgorithm s.algorithm) ∧
      (s.signer provider key).events = []
  /-- Otherwise a failure is the provider's, reported as a key that the scheme does not go with. -/
  signer : ∀ (s : Scheme) (provider : Provider) key, s.available = true → ∀ e,
    (s.signer provider key).value = .error e ↔
      ∃ cause, provider.newSigner s.algorithm s.params key = .error cause ∧
        Reported .keyIncompatible s.name cause e
  /-- For a scheme that is not available there is no verifier, and that is no failure. -/
  unverified : ∀ (s : Scheme) key, s.available = false →
    (sel.registry.verifier s key).value = .ok none ∧ (sel.registry.verifier s key).events = []
  verified : ∀ (s : Scheme) key, s.available = true →
    (sel.registry.verifier s key).value ≠ .ok none
  /-- A failure is the provider's, reported as a verifier that cannot be made. -/
  verifier : ∀ (s : Scheme) key, s.available = true → ∀ e,
    (sel.registry.verifier s key).value = .error e ↔
      ∃ cause, sel.registry.provider.newVerifier s.algorithm s.params key = .error cause ∧
        Reported .verifierConstruction s.name cause e
  /-- A choice fails for want of a scheme, and with an error in which no provider has a say. -/
  negotiation : ∀ candidates possession v e,
    (sel.negotiateSigner candidates possession v).value = .error e ↔
      (∀ s ∈ candidates, ¬ ∃ signer, sel.Signs possession v s signer) ∧
        e = .noMatchingScheme ("no signature scheme for " ++ possession.privateKey.algorithm ++
          " key in " ++ v.name)
  /-- A failure to sign that a provider has from another scheme is passed on as it is. -/
  signerAgain : ∀ (s t : Scheme) (provider other : Provider) key l e, s.available = true →
    t.available = true → (t.signer other l).value = .error e →
      provider.newSigner s.algorithm s.params key = .error e →
        (s.signer provider key).value = .error e
  verifierAgain : ∀ (s t : Scheme) (other : Provider) key l e, s.available = true →
    t.available = true → (t.verifier other l).value = .error e →
      sel.registry.provider.newVerifier s.algorithm s.params key = .error e →
        (sel.registry.verifier s key).value = .error e

/-- Whatever a provider fails with, callers see failures of the kind that belongs to the request. -/
theorem failures_contained (sel : Selector) : sel.FailuresContained where
  unavailable s provider key unavailable := by
    rw [Scheme.signer_of_unavailable unavailable]
    exact ⟨rfl, rfl⟩
  signer s provider key available e := Scheme.value_signer_eq_error available
  unverified s key unavailable := by
    rw [Registry.verifier, Scheme.verifier_of_unavailable unavailable]
    exact ⟨rfl, rfl⟩
  verified s key available := Scheme.value_verifier_ne_none available _ key
  verifier s key available e := Scheme.value_verifier_eq_error available
  negotiation candidates possession v e := by
    rw [← value_selectSigner_eq_none, value_negotiateSigner]
    cases (sel.selectSigner candidates possession v).value <;> simp [noSigner, eq_comm]
  signerAgain s t provider other key l e available also fails relayed := by
    obtain ⟨cause, -, reported⟩ := (Scheme.value_signer_eq_error also).1 fails
    exact (Scheme.value_signer_eq_error available).2
      ⟨e, relayed, reported.own_of_reported s.name⟩
  verifierAgain s t other key l e available also fails relayed := by
    obtain ⟨cause, -, reported⟩ := (Scheme.value_verifier_eq_error also).1 fails
    exact (Scheme.value_verifier_eq_error available).2
      ⟨e, relayed, reported.own_of_reported s.name⟩

end Selector

end SchemeNegotiation
