import SchemeNegotiation.Proofs.Negotiation
import SchemeNegotiation.Proofs.Walk
import SchemeNegotiation.Provider.Builtin

/-!
# Secrecy of keys

Two keys are alike when they differ at most in what their provider alone reads: a seed, a scalar, or
the material of an external key (`PrivateKey.Alike`). All that negotiation and diagnostics use of a
key is the same for alike keys. A provider is discreet when it refuses alike keys with one error, as
the built-in one does (`Builtin.discreet_ofSuite`). With such a provider the candidates leave the
same trail for both keys, up to the key that the provider is asked with (`Selector.trail_of_alike`).
So nobody but the provider can tell alike keys apart (`Selector.indistinguishable_of_ofSuite`).
-/

namespace SchemeNegotiation

/-- Keys that differ at most in what their provider alone reads. -/
inductive PrivateKey.Alike : PrivateKey → PrivateKey → Prop where
  | ed25519 (s t : Octets 32) : Alike (.ed25519 s) (.ed25519 t)
  | ecdsa {c : Crypto.Curve} (x y : c.Scalar) : Alike (.ecdsa c x) (.ecdsa c y)
  | external {k l : ExternalKey} (algorithm : k.algorithm = l.algorithm) (bits : k.bits = l.bits)
    (ecParameters : k.ecParameters = l.ecParameters) : Alike (.external k) (.external l)

/-- Possessions of alike keys with the same certificate. -/
structure Possession.Alike (p q : Possession) : Prop where
  key : p.privateKey.Alike q.privateKey
  certificate : p.certificateEcParameters = q.certificateEcParameters

/-- A provider that refuses alike keys alike. -/
def Provider.Discreet (provider : Provider) : Prop :=
  ∀ k l, PrivateKey.Alike k l → ∀ algorithm params e,
    provider.newSigner algorithm params k = .error e ↔
      provider.newSigner algorithm params l = .error e

/-- An event in which the provider is asked with another key. -/
def Event.withKey (key : PrivateKey) : Event → Event
  | .asked (.newSigner algorithm params _) => .asked (.newSigner algorithm params key)
  | e => e

namespace PrivateKey.Alike

variable {k l : PrivateKey}

/-- Alike keys are for the same algorithm. -/
lemma algorithm (alike : k.Alike l) : k.algorithm = l.algorithm := by
  cases alike with
  | ed25519 => rfl
  | ecdsa => rfl
  | external algorithm => exact algorithm

/-- Alike keys have the same size. -/
lemma size? (alike : k.Alike l) : k.size? = l.size? := by
  cases alike with
  | ed25519 => rfl
  | @ecdsa c => cases c <;> rfl
  | external _ bits => exact bits

/-- Alike keys have the same domain parameters. -/
lemma ecParameters (alike : k.Alike l) : k.ecParameters = l.ecParameters := by
  cases alike with
  | ed25519 => rfl
  | ecdsa => rfl
  | external _ _ ecParameters => exact ecParameters

/-- Alike keys are shown alike. -/
lemma shape (alike : k.Alike l) : k.shape = l.shape := by
  cases alike with
  | ed25519 => rfl
  | @ecdsa c => cases c <;> rfl
  | external algorithm bits ecParameters =>
    rw [PrivateKey.shape, PrivateKey.shape, ExternalKey.shape, ExternalKey.shape, algorithm, bits,
      ecParameters]

/-- Alike keys are eligible for the same schemes. -/
lemma eligible_iff (alike : k.Alike l) {v : Version} {s : Scheme} :
    Selector.Eligible k v s ↔ Selector.Eligible l v s := by
  have keyAlgorithm : k.keyAlgorithm? = l.keyAlgorithm? :=
    congrArg KeyAlgorithm.ofName? alike.algorithm
  -- Nothing of a key counts here but its algorithm and its size.
  rw [← Selector.isEligible_iff, ← Selector.isEligible_iff, Selector.isEligible,
    Selector.isEligible, Selector.comparedSize, Selector.comparedSize, keyAlgorithm, alike.size?]

end PrivateKey.Alike

namespace Possession.Alike

variable {p q : Possession}

/-- Possessions of alike keys have the same domain parameters. -/
lemma ecParameters (alike : p.Alike q) : p.ecParameters = q.ecParameters := by
  rw [Possession.ecParameters, Possession.ecParameters, alike.certificate, alike.key.ecParameters]

/-- Possessions of alike keys are shown alike. -/
lemma shape (alike : p.Alike q) : p.shape = q.shape := by
  rw [Possession.shape, Possession.shape, alike.key.shape, alike.certificate]

/-- Possessions of alike keys are on the same curves. -/
lemma onCurve_iff (alike : p.Alike q) {sel : Selector} {s : Scheme} :
    sel.OnCurve p s ↔ sel.OnCurve q s :=
  Selector.onCurve_congr alike.ecParameters

end Possession.Alike

namespace Builtin

/-- Of a key that it does not take, the built-in provider tells the algorithm alone. -/
lemma discreet_ofSuite (suite : Suite) : (ofSuite suite).Discreet := by
  intro k l alike algorithm params e
  change newSigner suite algorithm params k = _ ↔ newSigner suite algorithm params l = _
  unfold newSigner
  cases method algorithm params with
  | error _ => rfl
  | ok m =>
    -- A key that is taken leads to no error, and any other to one with its algorithm.
    cases alike with
    | ed25519 => cases m <;> simp [pure, Except.pure, bind, Except.bind, PrivateKey.algorithm]
    | ecdsa => cases m <;> simp [pure, Except.pure, bind, Except.bind, PrivateKey.algorithm]
    | external same => cases m <;> simp [PrivateKey.algorithm, same]

end Builtin

namespace Selector

variable {sel : Selector} {p q : Possession} {v : Version} {s t : Scheme}

/-- The key is handed to nobody while its curve is looked up. -/
lemma map_withKey_curveQuestions (key : PrivateKey) :
    (sel.curveQuestions p s).map (Event.withKey key) = sel.curveQuestions p s := by
  unfold curveQuestions
  split
  · cases p.ecParameters with
    | none => rfl
    | some params =>
      rw [List.map_cons]
      congr 1
      split <;> rfl
  · rfl

/-- A signer is asked for alike with alike keys, and refused alike. -/
lemma signerTrail_of_alike (discreet : sel.registry.provider.Discreet) (alike : p.Alike q) :
    sel.signerTrail q.privateKey s =
      (sel.signerTrail p.privateKey s).map (Event.withKey q.privateKey) := by
  have refused := discreet _ _ alike.key s.algorithm s.params
  unfold signerTrail
  cases made : sel.registry.provider.newSigner s.algorithm s.params p.privateKey with
  | error e => simp [(refused e).1 made, Event.withKey]
  | ok signer =>
    -- A signer for one key rules out an error for the other, so no notice follows for either.
    cases other : sel.registry.provider.newSigner s.algorithm s.params q.privateKey with
    | error e => simp [(refused e).2 other] at made
    | ok => rfl

/-- A candidate leaves the same trail for alike possessions, but for the key itself. -/
lemma trail_of_alike (discreet : sel.registry.provider.Discreet) (alike : p.Alike q) :
    sel.trail q v s = (sel.trail p v s).map (Event.withKey q.privateKey) := by
  have questions : sel.curveQuestions q s = sel.curveQuestions p s := by
    rw [curveQuestions, curveQuestions, alike.ecParameters]
  have notice : curveNotice q s = curveNotice p s := by
    rw [curveNotice, curveNotice, alike.ecParameters]
  unfold trail
  by_cases eligible : Eligible p.privateKey v s
  · rw [if_pos eligible, if_pos (alike.key.eligible_iff.1 eligible), List.map_append,
      map_withKey_curveQuestions, questions]
    by_cases on : sel.OnCurve p s
    · rw [if_pos on, if_pos (alike.onCurve_iff.1 on), signerTrail_of_alike discreet alike]
    · rw [if_neg on, if_neg (mt alike.onCurve_iff.2 on), notice]
      rfl
  · rw [if_neg eligible, if_neg (mt alike.key.eligible_iff.2 eligible)]
    rfl

/-- A key can sign with a candidate that suits it and for which it is not refused. -/
lemma exists_signs_iff :
    (∃ signer, sel.Signs p v s signer) ↔
      (Eligible p.privateKey v s ∧ sel.OnCurve p s) ∧
        ∀ e, sel.registry.provider.newSigner s.algorithm s.params p.privateKey ≠ .error e := by
  rw [exists_signs_iff_made, and_assoc]
  refine and_congr_right fun _ => and_congr_right fun _ => ?_
  cases sel.registry.provider.newSigner s.algorithm s.params p.privateKey <;> simp

/-- An attempt at a candidate comes to that candidate or to nothing. -/
lemma map_fst_attempt_eq_some :
    (sel.attempt p v s).value.map Prod.fst = some t ↔
      s = t ∧ ∃ signer, sel.Signs p v s signer := by
  rw [Option.map_eq_some_iff]
  constructor
  · rintro ⟨⟨_, signer⟩, tried, rfl⟩
    obtain ⟨rfl, signs⟩ := value_attempt_eq_some.1 tried
    exact ⟨rfl, signer, signs⟩
  · rintro ⟨rfl, signer, signs⟩
    exact ⟨(s, signer), value_attempt_eq_some.2 ⟨rfl, signs⟩, rfl⟩

/-- An attempt comes to the same scheme for alike keys. -/
lemma map_fst_attempt_of_alike (discreet : sel.registry.provider.Discreet) (alike : p.Alike q) :
    (sel.attempt p v s).value.map Prod.fst = (sel.attempt q v s).value.map Prod.fst := by
  ext t
  rw [map_fst_attempt_eq_some, map_fst_attempt_eq_some, exists_signs_iff, exists_signs_iff,
    alike.key.eligible_iff, alike.onCurve_iff]
  simp only [ne_eq, discreet _ _ alike.key]

/--
What selection, its log, its errors and all diagnostic forms are for two possessions that nobody
but the provider can tell apart.
-/
structure Indistinguishable (sel : Selector) (candidates : List Scheme) (v : Version)
    (p q : Possession) : Prop where
  selected : (sel.selectSigner candidates p v).value.map Prod.fst =
    (sel.selectSigner candidates q v).value.map Prod.fst
  /-- The provider is asked with the other key, and all else that happens is the same. -/
  events : (sel.selectSigner candidates q v).events =
    (sel.selectSigner candidates p v).events.map (.withKey q.privateKey)
  failed : ∀ e, (sel.negotiateSigner candidates p v).value = .error e ↔
    (sel.negotiateSigner candidates q v).value = .error e
  refused : ∀ algorithm params e,
    sel.registry.provider.newSigner algorithm params p.privateKey = .error e ↔
      sel.registry.provider.newSigner algorithm params q.privateKey = .error e
  keyLine : p.privateKey.shape.line = q.privateKey.shape.line
  keyBlock : ∀ depth, p.privateKey.shape.block depth = q.privateKey.shape.block depth
  line : p.shape.line = q.shape.line
  block : ∀ depth, p.shape.block depth = q.shape.block depth

section

variable {candidates : List Scheme}

/-- The same scheme is selected for alike keys. -/
lemma map_fst_selectSigner_of_alike (discreet : sel.registry.provider.Discreet)
    (alike : p.Alike q) :
    (sel.selectSigner candidates p v).value.map Prod.fst =
      (sel.selectSigner candidates q v).value.map Prod.fst := by
  simp only [selectSigner, Traced.value_firstSome, List.map_findSome?, Function.comp_def,
    map_fst_attempt_of_alike discreet alike]

/-- The walks with alike possessions are the same, but for the key itself. -/
lemma events_selectSigner_of_alike (discreet : sel.registry.provider.Discreet)
    (alike : p.Alike q) :
    (sel.selectSigner candidates q v).events =
      (sel.selectSigner candidates p v).events.map (.withKey q.privateKey) := by
  have stop : (fun s => (sel.attempt q v s).value.isSome) =
      fun s => (sel.attempt p v s).value.isSome := by
    funext s
    rw [← Option.isSome_map, ← map_fst_attempt_of_alike discreet alike, Option.isSome_map]
  rw [events_selectSigner, events_selectSigner, stop, List.map_flatMap]
  congr 1
  funext s
  exact trail_of_alike discreet alike

/-- Negotiation fails with the same errors for alike keys. -/
lemma negotiateSigner_error_of_alike (discreet : sel.registry.provider.Discreet)
    (alike : p.Alike q) (e : Error) :
    (sel.negotiateSigner candidates p v).value = .error e ↔
      (sel.negotiateSigner candidates q v).value = .error e := by
  have selected : (sel.selectSigner candidates p v).value.map Prod.fst =
      (sel.selectSigner candidates q v).value.map Prod.fst :=
    map_fst_selectSigner_of_alike discreet alike
  have same : noSigner p v = noSigner q v := by
    rw [noSigner, noSigner, alike.key.algorithm]
  rw [value_negotiateSigner, value_negotiateSigner, same]
  cases one : (sel.selectSigner candidates p v).value <;>
    cases other : (sel.selectSigner candidates q v).value <;>
      simp [one, other] at selected ⊢

/-- With the built-in provider, possessions of alike keys cannot be told apart. -/
theorem indistinguishable_of_ofSuite {suite : Suite} (candidates : List Scheme) (v : Version)
    (builtin : sel.registry.provider = Builtin.ofSuite suite) (alike : p.Alike q) :
    sel.Indistinguishable candidates v p q := by
  have discreet : sel.registry.provider.Discreet := by
    rw [builtin]
    exact Builtin.discreet_ofSuite suite
  exact {
    selected := map_fst_selectSigner_of_alike discreet alike
    events := events_selectSigner_of_alike discreet alike
    failed := negotiateSigner_error_of_alike discreet alike
    refused := discreet _ _ alike.key
    keyLine := congrArg Text.Shape.line alike.key.shape
    keyBlock := fun depth => congrArg (Text.Shape.block depth) alike.key.shape
    line := congrArg Text.Shape.line alike.shape
    block := fun depth => congrArg (Text.Shape.block depth) alike.shape }

/--
Two P-256 keys in turn, with a certificate for P-384: for either the scheme for P-384 is selected,
and the scheme for P-256 is passed over with the same notice.
-/
theorem indistinguishable_of_scalars :
    let sel := ofRegistry (Registry.build Builtin.provider .nothing).value
    let five : Crypto.Curve.p256.Scalar := ⟨5, by decide, by decide⟩
    let seven : Crypto.Curve.p256.Scalar := ⟨7, by decide, by decide⟩
    let p : Possession := ⟨.ecdsa .p256 five, some (.ofGroup .secp384r1)⟩
    let q : Possession := ⟨.ecdsa .p256 seven, some (.ofGroup .secp384r1)⟩
    let other : Scheme :=
      ⟨.boundEcdsa 0x0403 "ecdsa_secp256r1_sha256" "SHA256withECDSA" .secp256r1, true⟩
    let s : Scheme :=
      ⟨.boundEcdsa 0x0503 "ecdsa_secp384r1_sha384" "SHA384withECDSA" .secp384r1, true⟩
    p ≠ q ∧ (sel.selectSigner [other, s] p .tls13).value.map Prod.fst = some s ∧
      (sel.selectSigner [other, s] q .tls13).value.map Prod.fst = some s ∧
        (sel.selectSigner [other, s] q .tls13).events =
          [.asked (.groupOf (.ofGroup .secp384r1)),
            .told (.otherCurve other.definition (some (.ofGroup .secp384r1))),
            .asked (.groupOf (.ofGroup .secp384r1)),
            .asked (.newSigner "SHA384withECDSA" none (.ecdsa .p256 seven))] := by
  intro sel five seven p q other s
  have alike : p.Alike q := ⟨.ecdsa five seven, rfl⟩
  have same : sel.Indistinguishable [other, s] .tls13 p q :=
    indistinguishable_of_ofSuite [other, s] .tls13 rfl alike
  have selected : (sel.selectSigner [other, s] p .tls13).value.map Prod.fst = some s := by decide
  have events : (sel.selectSigner [other, s] p .tls13).events =
      [.asked (.groupOf (.ofGroup .secp384r1)),
        .told (.otherCurve other.definition (some (.ofGroup .secp384r1))),
        .asked (.groupOf (.ofGroup .secp384r1)),
        .asked (.newSigner "SHA384withECDSA" none (.ecdsa .p256 five))] := by decide
  refine ⟨by decide, selected, same.selected.symm.trans selected, ?_⟩
  rw [same.events, events]
  rfl

end

end Selector

end SchemeNegotiation
