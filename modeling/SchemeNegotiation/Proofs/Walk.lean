import SchemeNegotiation.Proofs.Candidates

/-!
# The walk through the candidates

Selection tries one candidate after the other. What happens at one of them is its trail
(`Selector.trail`): nothing where the candidate is not eligible; else the questions about the curve,
and then either a notice that the curve does not fit, or the question for a signer, with a notice if
that is refused. What happens on the whole walk are the trails up to the candidate that is selected,
or all of them (`Selector.walk_selectSigner`).
-/

namespace SchemeNegotiation

namespace Selector

/-- Whether a key is eligible for a scheme can be decided. -/
instance (key : PrivateKey) (v : Version) (s : Scheme) : Decidable (Eligible key v s) :=
  decidable_of_iff _ isEligible_iff

/-- Whether a key is on the curve of a scheme can be decided. -/
instance (sel : Selector) (possession : Possession) (s : Scheme) :
    Decidable (sel.OnCurve possession s) :=
  decidable_of_iff _ value_curveFits

/--
The questions about the curve of a possession. They are put for schemes with a group and for those
with keys on curves: for the group of the domain parameters, if there are any, and whether the group
that was found is enabled, if the scheme has none of its own.
-/
def curveQuestions (sel : Selector) (possession : Possession) (s : Scheme) : List Event :=
  if s.definition.group.isSome ∨ s.keyAlgorithm = .ec then
    match possession.ecParameters with
    | none => []
    | some p =>
      .asked (.groupOf p) ::
        match s.definition.group, sel.groups.groupOf p with
        | none, some g => [.asked (.isSupported g)]
        | _, _ => []
  else []

/-- The notice that the curve of a possession does not fit. -/
def curveNotice (possession : Possession) (s : Scheme) : Notice :=
  match s.definition.group with
  | some _ => .otherCurve s.definition possession.ecParameters
  | none => .curveNotEnabled s.definition possession.ecParameters

/-- The question for a signer, and the notice that there is none. -/
def signerTrail (sel : Selector) (key : PrivateKey) (s : Scheme) : List Event :=
  .asked (.newSigner s.algorithm s.params key) ::
    match sel.registry.provider.newSigner s.algorithm s.params key with
    | .ok _ => []
    | .error e => [.told (.signerRefused s.definition (s.signerError e))]

/-- What happens at one candidate. -/
def trail (sel : Selector) (possession : Possession) (v : Version) (s : Scheme) : List Event :=
  if Eligible possession.privateKey v s then
    sel.curveQuestions possession s ++
      if sel.OnCurve possession s then sel.signerTrail possession.privateKey s
      else [.told (curveNotice possession s)]
  else []

variable {sel : Selector} {possession : Possession} {v : Version} {s : Scheme}

/-- With a scheme that is bound to a group, all that is asked is the group of the key. -/
lemma curveQuestions_of_bound {g : NamedGroup} (bound : s.definition.group = some g) :
    sel.curveQuestions possession s = (sel.askGroup possession.ecParameters).events := by
  unfold curveQuestions askGroup
  cases possession.ecParameters <;> simp [bound]

/-- For a scheme on curves without a group, it is also asked whether the group is enabled. -/
lemma curveQuestions_of_unbound (unbound : s.definition.group = none)
    (elliptic : s.keyAlgorithm = .ec) :
    sel.curveQuestions possession s =
      (sel.askGroup possession.ecParameters).events ++
        (sel.askSupport (sel.keyGroup? possession)).events := by
  unfold curveQuestions keyGroup? askGroup askSupport
  cases possession.ecParameters with
  | none => simp [unbound, elliptic]
  | some p => cases found : sel.groups.groupOf p <;> simp [unbound, elliptic, found]

/-- The curve check puts the questions about the curve, and tells if the curve does not fit. -/
lemma events_curveFits :
    (sel.curveFits possession s).events =
      sel.curveQuestions possession s ++
        if sel.OnCurve possession s then [] else [.told (curveNotice possession s)] := by
  unfold curveFits curveNotice
  cases group : s.definition.group with
  | some g =>
    simp only [curveQuestions_of_bound group, onCurve_iff_of_bound group]
    by_cases same : sel.keyGroup? possession = some g <;> simp [same, leaveOut]
  | none =>
    by_cases elliptic : s.keyAlgorithm = .ec
    · simp only [curveQuestions_of_unbound group elliptic, onCurve_iff_of_unbound group, elliptic,
        ← value_askSupport]
      cases support : (sel.askSupport (sel.keyGroup? possession)).value <;>
        simp [support, leaveOut]
    · simp [curveQuestions, onCurve_iff_of_unbound, group, elliptic]

/-- What happens at an attempt is the trail of the candidate. -/
lemma events_attempt : (sel.attempt possession v s).events = sel.trail possession v s := by
  unfold attempt trail
  by_cases eligible : Eligible possession.privateKey v s
  · rw [if_pos (isEligible_iff.2 eligible), if_pos eligible, Traced.events_bind, events_curveFits]
    by_cases curve : sel.OnCurve possession s
    · have fits := value_curveFits.2 curve
      cases made : sel.registry.provider.newSigner s.algorithm s.params possession.privateKey <;>
        simp [fits, curve, signerTrail, Scheme.signer, eligible.available, made, Except.mapError]
    · have fits : (sel.curveFits possession s).value = false := by
        rw [Bool.eq_false_iff, Ne, value_curveFits]
        exact curve
      simp [fits, curve]
  · rw [if_neg (mt isEligible_iff.1 eligible), if_neg eligible]
    rfl

/-- What can happen at a candidate, and on what condition. -/
inductive Happens (sel : Selector) (possession : Possession) (s : Scheme) : Event → Prop where
  | groupOf {p : EcParameters} (asks : s.definition.group.isSome ∨ s.keyAlgorithm = .ec)
    (counts : possession.ecParameters = some p) : Happens sel possession s (.asked (.groupOf p))
  | isSupported {p : EcParameters} {g : NamedGroup} (unbound : s.definition.group = none)
    (elliptic : s.keyAlgorithm = .ec) (counts : possession.ecParameters = some p)
    (found : sel.groups.groupOf p = some g) : Happens sel possession s (.asked (.isSupported g))
  | otherCurve (bound : s.definition.group.isSome) (off : ¬ sel.OnCurve possession s) :
    Happens sel possession s (.told (.otherCurve s.definition possession.ecParameters))
  | curveNotEnabled (unbound : s.definition.group = none) (off : ¬ sel.OnCurve possession s) :
    Happens sel possession s (.told (.curveNotEnabled s.definition possession.ecParameters))
  | newSigner (on : sel.OnCurve possession s) :
    Happens sel possession s (.asked (.newSigner s.algorithm s.params possession.privateKey))
  | refused {e : Error} (on : sel.OnCurve possession s)
    (fails : sel.registry.provider.newSigner s.algorithm s.params possession.privateKey = .error e) :
    Happens sel possession s (.told (.signerRefused s.definition (s.signerError e)))

/-- What is asked about the curve of a key happens on its condition. -/
lemma happens_of_mem_curveQuestions {e : Event} (mem : e ∈ sel.curveQuestions possession s) :
    sel.Happens possession s e := by
  unfold curveQuestions at mem
  split at mem
  case isTrue asks =>
    cases counts : possession.ecParameters with
    | none => simp [counts] at mem
    | some p =>
      simp only [counts] at mem
      rcases List.mem_cons.1 mem with rfl | mem
      · exact .groupOf asks counts
      · split at mem
        case h_1 unbound found =>
          rw [List.mem_singleton.1 mem]
          have elliptic : s.keyAlgorithm = .ec := by simpa [unbound] using asks
          exact .isSupported unbound elliptic counts found
        case h_2 => cases mem
  case isFalse => cases mem

/-- Something happens at eligible candidates alone, and on the condition on which it happens. -/
lemma happens_of_mem_trail {e : Event} (mem : e ∈ sel.trail possession v s) :
    Eligible possession.privateKey v s ∧ sel.Happens possession s e := by
  unfold trail at mem
  split at mem
  case isTrue eligible =>
    refine ⟨eligible, ?_⟩
    rcases List.mem_append.1 mem with asked | rest
    · exact happens_of_mem_curveQuestions asked
    · split at rest
      case isTrue on =>
        rcases List.mem_cons.1 rest with rfl | rest
        · exact .newSigner on
        · cases made : sel.registry.provider.newSigner s.algorithm s.params
            possession.privateKey with
          | ok signer => simp [made] at rest
          | error e =>
            rw [made, List.mem_singleton] at rest
            rw [rest]
            exact .refused on made
      case isFalse off =>
        rw [List.mem_singleton.1 rest]
        unfold curveNotice
        split
        case h_1 bound => exact .otherCurve (Option.isSome_iff_exists.2 ⟨_, bound⟩) off
        case h_2 unbound => exact .curveNotEnabled unbound off
  case isFalse => cases mem

section

variable {candidates : List Scheme}

/-- What happens in a selection are the trails up to the candidate that is selected. -/
lemma events_selectSigner (sel : Selector) (candidates : List Scheme) (possession : Possession)
    (v : Version) :
    (sel.selectSigner candidates possession v).events =
      (candidates.take
        (candidates.findIdx (fun s => (sel.attempt possession v s).value.isSome) + 1)).flatMap
          (sel.trail possession v) := by
  rw [selectSigner, Traced.events_firstSome]
  simp only [events_attempt]

/-- What happens in a selection happens at a candidate that is eligible. -/
lemma happens_of_mem_selectSigner {e : Event}
    (mem : e ∈ (sel.selectSigner candidates possession v).events) :
    ∃ s ∈ candidates, Eligible possession.privateKey v s ∧ sel.Happens possession s e := by
  rw [events_selectSigner] at mem
  obtain ⟨s, tried, mem⟩ := List.mem_flatMap.1 mem
  exact ⟨s, List.mem_of_mem_take tried, happens_of_mem_trail mem⟩

end

end Selector

end SchemeNegotiation
