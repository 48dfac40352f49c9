import SchemeNegotiation.Proofs.First
import SchemeNegotiation.Proofs.Narrowing

/-!
# Candidates

What makes one candidate acceptable, for signing (`Selector.Signs`) and for verifying
(`Verifies`), and that both searches stop at the first acceptable candidate
(`Selector.value_selectSigner_eq_some` and `preferredScheme?_eq_some_iff`). A candidate with which
a key can sign is one that verification accepts beside a certificate scheme for such keys
(`Selector.Signs.verifies`).
-/

namespace SchemeNegotiation

/-- What is asked of a candidate for verifying beside a certificate scheme in a version. -/
structure Verifies (certificate : Scheme) (v : Version) (s : Scheme) : Prop where
  available : s.available = true
  inHandshake : s.supportsHandshake v = true
  keyAlgorithm : s.keyAlgorithm = certificate.keyAlgorithm

/-- Verification prefers the first acceptable candidate. -/
lemma preferredScheme?_eq_some_iff {candidates : List Scheme} {certificate s : Scheme}
    {v : Version} :
    preferredScheme? candidates certificate v = some s ↔
      ∃ i, FirstAt (Verifies certificate v) candidates i s := by
  have test : (fun t : Scheme => (t.available && t.supportsHandshake v &&
      t.keyAlgorithm == certificate.keyAlgorithm) = true) = Verifies certificate v := by
    funext t
    simp only [Bool.and_eq_true, beq_iff_eq, eq_iff_iff]
    constructor
    · rintro ⟨⟨available, inHandshake⟩, keyAlgorithm⟩
      exact ⟨available, inHandshake, keyAlgorithm⟩
    · intro ok
      exact ⟨⟨ok.available, ok.inHandshake⟩, ok.keyAlgorithm⟩
  rw [preferredScheme?, FirstAt.find?_eq_some_iff, test]

/-- A scheme gives the signers that the provider makes for it, if it is available. -/
lemma Scheme.value_signer_eq_ok {s : Scheme} {provider : Provider}
    {key : PrivateKey} {signer : Signer} :
    (s.signer provider key).value = .ok signer ↔
      s.available = true ∧ provider.newSigner s.algorithm s.params key = .ok signer := by
  unfold Scheme.signer
  cases s.available with
  | false => simp
  | true => cases made : provider.newSigner s.algorithm s.params key <;> simp [Except.mapError]

/-- A scheme gives the verifiers that the provider makes for it, if it is available. -/
lemma Scheme.value_verifier_eq_ok {s : Scheme} {provider : Provider} {key : PublicKey}
    {verifier : Verifier} :
    (s.verifier provider key).value = .ok (some verifier) ↔
      s.available = true ∧ provider.newVerifier s.algorithm s.params key = .ok verifier := by
  unfold Scheme.verifier
  cases s.available with
  | false => simp
  | true =>
    cases made : provider.newVerifier s.algorithm s.params key <;>
      simp [Except.mapError, Except.map]

namespace Selector

/-- The group of the domain parameters that count for a possession, if it is a known one. -/
def keyGroup? (sel : Selector) (possession : Possession) : Option NamedGroup :=
  possession.ecParameters.bind sel.groups.groupOf

/-- Whether the curve of a possession goes with a scheme. -/
structure OnCurve (sel : Selector) (possession : Possession) (s : Scheme) : Prop where
  /-- A scheme with a group needs a key of that group. -/
  bound : ∀ g, s.definition.group = some g → sel.keyGroup? possession = some g
  /-- A scheme for curves without a group of its own needs a key of an enabled group. -/
  enabled : s.definition.group = none → s.keyAlgorithm = .ec →
    ∃ g, sel.keyGroup? possession = some g ∧ sel.groups.isSupported g = true

/-- What is asked of a candidate for signing with a possession, and the signer that it gives. -/
structure Signs (sel : Selector) (possession : Possession) (v : Version) (s : Scheme)
    (signer : Signer) : Prop where
  available : s.available = true
  inHandshake : s.supportsHandshake v = true
  keyAlgorithm : possession.privateKey.keyAlgorithm? = some s.keyAlgorithm
  /-- Only RSA keys can be too small, and one of unknown size has no bits at all. -/
  size : s.keyAlgorithm.isRsaFamily = true →
    s.acceptsKeySize (possession.privateKey.size?.getD 0) = true
  curve : sel.OnCurve possession s
  made : sel.registry.provider.newSigner s.algorithm s.params possession.privateKey = .ok signer

/-- What is asked of a candidate before a signer is asked for. -/
structure Suits (sel : Selector) (possession : Possession) (v : Version) (s : Scheme) : Prop where
  available : s.available = true
  inHandshake : s.supportsHandshake v = true
  keyAlgorithm : possession.privateKey.keyAlgorithm? = some s.keyAlgorithm
  size : s.keyAlgorithm.isRsaFamily = true →
    s.acceptsKeySize (possession.privateKey.size?.getD 0) = true
  curve : sel.OnCurve possession s

/-- What is asked of a candidate for a key before its curve is looked at. -/
structure Eligible (key : PrivateKey) (v : Version) (s : Scheme) : Prop where
  available : s.available = true
  inHandshake : s.supportsHandshake v = true
  keyAlgorithm : key.keyAlgorithm? = some s.keyAlgorithm
  /-- Only RSA keys can be too small, and one of unknown size has no bits at all. -/
  size : s.keyAlgorithm.isRsaFamily = true → s.acceptsKeySize (key.size?.getD 0) = true

/-- What a possession can sign with is acceptable beside a certificate scheme for its keys. -/
lemma Signs.verifies {sel : Selector} {possession : Possession} {v : Version} {s : Scheme}
    {signer : Signer} {certificate : Scheme} (signs : sel.Signs possession v s signer)
    (sameKeys : possession.privateKey.keyAlgorithm? = some certificate.keyAlgorithm) :
    Verifies certificate v s := by
  refine ⟨signs.available, signs.inHandshake, ?_⟩
  have same := signs.keyAlgorithm.symm.trans sameKeys
  exact Option.some.inj same

/-- The group that the groups are asked for is that of the parameters that count. -/
@[simp]
lemma value_askGroup (sel : Selector) (possession : Possession) :
    (sel.askGroup possession.ecParameters).value = sel.keyGroup? possession := by
  unfold askGroup keyGroup?
  cases possession.ecParameters <;> rfl

/-- A group counts as enabled when there is one and the groups say so. -/
lemma value_askSupport {sel : Selector} {group : Option NamedGroup} :
    (sel.askSupport group).value = true ↔
      ∃ g, group = some g ∧ sel.groups.isSupported g = true := by
  cases group <;> simp [askSupport]

/-- A scheme with a group goes with the keys of that group. -/
lemma onCurve_iff_of_bound {sel : Selector} {possession : Possession} {s : Scheme} {g : NamedGroup}
    (bound : s.definition.group = some g) :
    sel.OnCurve possession s ↔ sel.keyGroup? possession = some g := by
  constructor
  · intro curve
    exact curve.bound g bound
  · intro same
    -- What is asked of schemes without a group is asked in vain here.
    refine ⟨fun h own => ?_, fun unbound => ?_⟩
    · rw [same, ← bound, own]
    · rw [unbound] at bound
      cases bound

/-- A scheme without a group goes with all keys, unless it is for curves. -/
lemma onCurve_iff_of_unbound {sel : Selector} {possession : Possession} {s : Scheme}
    (unbound : s.definition.group = none) :
    sel.OnCurve possession s ↔ (s.keyAlgorithm = .ec →
      ∃ g, sel.keyGroup? possession = some g ∧ sel.groups.isSupported g = true) := by
  constructor
  · intro curve
    exact curve.enabled unbound
  · intro enabled
    refine ⟨fun g bound => ?_, fun _ => enabled⟩
    rw [unbound] at bound
    cases bound

/-- The curve check asks just what `OnCurve` says. -/
lemma value_curveFits {sel : Selector} {possession : Possession} {s : Scheme} :
    (sel.curveFits possession s).value = true ↔ sel.OnCurve possession s := by
  unfold curveFits
  cases group : s.definition.group with
  | some g =>
    rw [onCurve_iff_of_bound group]
    by_cases same : sel.keyGroup? possession = some g <;> simp [same]
  | none =>
    rw [onCurve_iff_of_unbound group, ← value_askSupport]
    by_cases elliptic : s.keyAlgorithm = .ec
    · cases support : (sel.askSupport (sel.keyGroup? possession)).value <;>
        simp [elliptic, support]
    · simp [elliptic]

/-- Whether a possession is on the curve of a scheme depends on its domain parameters alone. -/
lemma onCurve_congr {sel : Selector} {p q : Possession} {s : Scheme}
    (same : p.ecParameters = q.ecParameters) : sel.OnCurve p s ↔ sel.OnCurve q s := by
  rw [← value_curveFits, ← value_curveFits, curveFits, curveFits, same]

/-- No limit on the size of a key is above the largest size. -/
lemma acceptsKeySize_unboundedSize (s : Scheme) : s.acceptsKeySize unboundedSize = true := by
  unfold Scheme.acceptsKeySize
  cases s.definition.minimalKeySize with
  | none => rfl
  | some least => exact decide_eq_true (UInt32.le_iff_toNat_le.2 (Nat.le_of_lt_succ least.toNat_lt))

/-- The size that is compared is that of the key for RSA keys, and no limit for all others. -/
lemma acceptsKeySize_comparedSize {key : PrivateKey} {s : Scheme}
    (sameKeys : key.keyAlgorithm? = some s.keyAlgorithm) :
    s.acceptsKeySize (comparedSize key) = true ↔
      (s.keyAlgorithm.isRsaFamily = true → s.acceptsKeySize (key.size?.getD 0) = true) := by
  unfold comparedSize
  rw [sameKeys]
  -- For keys that are not RSA keys both sides hold, whatever the least size is.
  cases rsa : s.keyAlgorithm.isRsaFamily <;> simp [rsa, acceptsKeySize_unboundedSize]

/-- A candidate goes with a key just when it is eligible. -/
lemma isEligible_iff {key : PrivateKey} {v : Version} {s : Scheme} :
    isEligible key v s = true ↔ Eligible key v s := by
  simp only [isEligible, Bool.and_eq_true, beq_iff_eq]
  constructor
  · rintro ⟨⟨⟨available, size⟩, inHandshake⟩, keyAlgorithm⟩
    exact ⟨available, inHandshake, keyAlgorithm, (acceptsKeySize_comparedSize keyAlgorithm).1 size⟩
  · intro eligible
    have size := (acceptsKeySize_comparedSize eligible.keyAlgorithm).2 eligible.size
    exact ⟨⟨⟨eligible.available, size⟩, eligible.inHandshake⟩, eligible.keyAlgorithm⟩

/-- What is asked of a candidate before a signer is asked for is asked in two steps. -/
lemma suits_iff {sel : Selector} {possession : Possession} {v : Version} {s : Scheme} :
    sel.Suits possession v s ↔
      isEligible possession.privateKey v s = true ∧ sel.OnCurve possession s := by
  rw [isEligible_iff]
  constructor
  · rintro ⟨available, inHandshake, keyAlgorithm, size, curve⟩
    exact ⟨⟨available, inHandshake, keyAlgorithm, size⟩, curve⟩
  · rintro ⟨⟨available, inHandshake, keyAlgorithm, size⟩, curve⟩
    exact ⟨available, inHandshake, keyAlgorithm, size, curve⟩

/-- A key can sign with a candidate that suits it when a signer is made. -/
lemma signs_iff_suits {sel : Selector} {possession : Possession} {v : Version} {s : Scheme}
    {signer : Signer} :
    sel.Signs possession v s signer ↔ sel.Suits possession v s ∧
      (s.signer sel.registry.provider possession.privateKey).value = .ok signer := by
  rw [Scheme.value_signer_eq_ok]
  constructor
  · rintro ⟨available, inHandshake, keyAlgorithm, size, curve, made⟩
    exact ⟨⟨available, inHandshake, keyAlgorithm, size, curve⟩, available, made⟩
  · rintro ⟨⟨available, inHandshake, keyAlgorithm, size, curve⟩, -, made⟩
    exact ⟨available, inHandshake, keyAlgorithm, size, curve, made⟩

/-- A key can sign with an eligible candidate on its curve for which a signer is made. -/
lemma exists_signs_iff_made {sel : Selector} {possession : Possession} {v : Version} {s : Scheme} :
    (∃ signer, sel.Signs possession v s signer) ↔
      Eligible possession.privateKey v s ∧ sel.OnCurve possession s ∧
        ∃ signer, sel.registry.provider.newSigner s.algorithm s.params possession.privateKey =
          .ok signer := by
  constructor
  · rintro ⟨signer, available, inHandshake, keyAlgorithm, size, curve, made⟩
    exact ⟨⟨available, inHandshake, keyAlgorithm, size⟩, curve, signer, made⟩
  · rintro ⟨⟨available, inHandshake, keyAlgorithm, size⟩, curve, signer, made⟩
    exact ⟨signer, available, inHandshake, keyAlgorithm, size, curve, made⟩

/-- A candidate that is tried gives itself, with a signer that can be made for it. -/
lemma value_attempt_eq_some {sel : Selector} {possession : Possession} {v : Version}
    {s t : Scheme} {signer : Signer} :
    (sel.attempt possession v s).value = some (t, signer) ↔
      s = t ∧ sel.Signs possession v s signer := by
  rw [signs_iff_suits, suits_iff, ← value_curveFits]
  unfold attempt
  cases eligible : isEligible possession.privateKey v s with
  | false => simp
  | true =>
    cases fits : (sel.curveFits possession s).value with
    | false => simp [fits]
    | true =>
      cases made : (s.signer sel.registry.provider possession.privateKey).value <;>
        simp [fits, made]

/-- Selection stops at the first candidate with which the key can sign. -/
lemma value_selectSigner_eq_some {sel : Selector} {candidates : List Scheme}
    {possession : Possession} {v : Version} {s : Scheme} {signer : Signer} :
    (sel.selectSigner candidates possession v).value = some (s, signer) ↔
      ∃ i, FirstAt (fun t => ∃ other, sel.Signs possession v t other) candidates i s ∧
        sel.Signs possession v s signer := by
  have same : (fun t => ∃ c : Selection, t = c.1 ∧ sel.Signs possession v t c.2) =
      fun t => ∃ other, sel.Signs possession v t other := by
    funext t
    simp [Prod.exists]
  rw [selectSigner, Traced.value_firstSome,
    FirstAt.findSome?_eq_some_iff fun _ _ => value_attempt_eq_some, same]
  constructor
  · rintro ⟨i, t, first, rfl, signs⟩
    exact ⟨i, first, signs⟩
  · rintro ⟨i, first, signs⟩
    exact ⟨i, s, first, rfl, signs⟩

/-- Nothing is selected when the key can sign with no candidate. -/
lemma value_selectSigner_eq_none {sel : Selector} {candidates : List Scheme}
    {possession : Possession} {v : Version} :
    (sel.selectSigner candidates possession v).value = none ↔
      ∀ s ∈ candidates, ¬ ∃ signer, sel.Signs possession v s signer := by
  rw [selectSigner, Traced.value_firstSome,
    FirstAt.findSome?_eq_none_iff fun _ _ => value_attempt_eq_some]
  constructor
  · rintro without s mem ⟨signer, signs⟩
    exact without s mem (s, signer) ⟨rfl, signs⟩
  · rintro unfit s mem ⟨t, signer⟩ ⟨rfl, signs⟩
    exact unfit s mem ⟨signer, signs⟩

/-- Selection stops at a place of the candidates, with the scheme there and a signer for it. -/
structure StopsAt (sel : Selector) (candidates : List Scheme) (possession : Possession)
    (v : Version) (i : Nat) (s : Scheme) (signer : Signer) : Prop where
  selected : (sel.selectSigner candidates possession v).value = some (s, signer)
  entry : candidates[i]? = some s
  /-- Of the candidates in front of the place alone, none is selected. -/
  unselected : (sel.selectSigner (candidates.take i) possession v).value = none

/-- Selection stops at the first candidate with which the key can sign. -/
lemma stopsAt_iff {sel : Selector} {candidates : List Scheme} {possession : Possession}
    {v : Version} {i : Nat} {s : Scheme} {signer : Signer} :
    sel.StopsAt candidates possession v i s signer ↔
      FirstAt (fun t => ∃ other, sel.Signs possession v t other) candidates i s ∧
        sel.Signs possession v s signer := by
  constructor
  · rintro ⟨selected, entry, unselected⟩
    obtain ⟨j, -, signs⟩ := value_selectSigner_eq_some.1 selected
    rw [value_selectSigner_eq_none] at unselected
    exact ⟨FirstAt.iff_take.2 ⟨entry, ⟨signer, signs⟩, unselected⟩, signs⟩
  · rintro ⟨first, signs⟩
    obtain ⟨entry, -, unfit⟩ := FirstAt.iff_take.1 first
    exact ⟨value_selectSigner_eq_some.2 ⟨i, first, signs⟩, entry,
      value_selectSigner_eq_none.2 unfit⟩

/-- Selection stops at the first candidate that the key signs with. -/
lemma exists_stopsAt_iff {sel : Selector} {candidates : List Scheme} {possession : Possession}
    {v : Version} {i : Nat} {s : Scheme} :
    (∃ signer, sel.StopsAt candidates possession v i s signer) ↔
      FirstAt (fun t => ∃ other, sel.Signs possession v t other) candidates i s := by
  constructor
  · rintro ⟨signer, stops⟩
    exact (stopsAt_iff.1 stops).1
  · intro first
    obtain ⟨signer, signs⟩ := first.holds
    exact ⟨signer, stopsAt_iff.2 ⟨first, signs⟩⟩

end Selector

end SchemeNegotiation
