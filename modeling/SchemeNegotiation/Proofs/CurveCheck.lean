import SchemeNegotiation.Proofs.Walk

/-!
# The curve check with the named groups

When the groups of a selector are the named ones, domain parameters belong to a group just when they
have its object identifier and its field size. So a scheme with a group takes the keys with the
parameters of that group, enabled or not, and a scheme for curves without one takes the keys with
the parameters of an enabled group. A signer is asked for just where that is so, and a key without
parameters is served nowhere (`Selector.checksCurves_of_registry`).
-/

namespace SchemeNegotiation

namespace Possession

/-- The domain parameters that count: those of the certificate, or those of the key without them. -/
inductive Counts (possession : Possession) (p : EcParameters) : Prop where
  | certificate (given : possession.certificateEcParameters = some p)
  | key (without : possession.certificateEcParameters = none)
    (given : possession.privateKey.ecParameters = some p)

/-- A key on the curve of a scheme, or on an enabled one if the scheme has none of its own. -/
inductive OnNamedCurve (groups : List NamedGroup) (possession : Possession) (s : Scheme) : Prop where
  | bound {g : NamedGroup} (own : s.definition.group = some g)
    (counts : possession.Counts (.ofGroup g))
  | enabled {g : NamedGroup} (unbound : s.definition.group = none) (mem : g ∈ groups)
    (counts : possession.Counts (.ofGroup g))

variable {possession : Possession} {p : EcParameters}

/-- The domain parameters of a possession are those that count. -/
lemma ecParameters_iff_counts : possession.ecParameters = some p ↔ possession.Counts p := by
  unfold ecParameters
  constructor
  · intro counts
    cases given : possession.certificateEcParameters with
    | none =>
      rw [given] at counts
      exact .key given counts
    | some q =>
      rw [given] at counts
      cases counts
      exact .certificate given
  · intro counts
    cases counts with
    | certificate given => rw [given]; rfl
    | key without given => rw [without]; exact given

end Possession

namespace Selector

variable {sel : Selector} {groups : SupportedGroups} {possession : Possession} {v : Version}
  {s : Scheme} {g : NamedGroup}

/-- What is asked of a candidate for signing with a key on a curve, and the signer that it gives. -/
structure SignsOnCurve (sel : Selector) (groups : SupportedGroups) (possession : Possession)
    (v : Version) (s : Scheme) (signer : Signer) : Prop where
  available : s.available = true
  inHandshake : s.supportsHandshake v = true
  elliptic : s.keyAlgorithm = .ec
  curve : possession.OnNamedCurve groups.groups s
  made : sel.registry.provider.newSigner s.algorithm s.params possession.privateKey = .ok signer

/-- The group of a possession is the one whose domain parameters count. -/
lemma keyGroup?_iff_counts (known : sel.groups = groups.registry) :
    sel.keyGroup? possession = some g ↔ possession.Counts (.ofGroup g) := by
  rw [keyGroup?, known, Option.bind_eq_some_iff, ← Possession.ecParameters_iff_counts]
  constructor
  · rintro ⟨p, counts, found⟩
    rw [counts, SupportedGroups.groupOf_eq_some_iff.1 found]
  · intro counts
    exact ⟨_, counts, SupportedGroups.groupOf_eq_some_iff.2 rfl⟩

/-- A group is supported when it is one of the enabled ones. -/
lemma isSupported_iff (known : sel.groups = groups.registry) :
    sel.groups.isSupported g = true ↔ g ∈ groups.groups := by
  rw [known]
  exact List.contains_iff_mem

/-- With a list of enabled groups, the curve of a key is looked up in it. -/
lemma onCurve_iff_of_registry (known : sel.groups = groups.registry)
    (elliptic : s.keyAlgorithm = .ec) :
    sel.OnCurve possession s ↔ possession.OnNamedCurve groups.groups s := by
  constructor
  · intro on
    cases group : s.definition.group with
    | some g => exact .bound group ((keyGroup?_iff_counts known).1 (on.bound g group))
    | none =>
      obtain ⟨g, counts, supported⟩ := on.enabled group elliptic
      exact .enabled group ((isSupported_iff known).1 supported)
        ((keyGroup?_iff_counts known).1 counts)
  · intro on
    cases on with
    | bound own counts =>
      rw [onCurve_iff_of_bound own]
      exact (keyGroup?_iff_counts known).2 counts
    | @enabled g unbound mem counts =>
      rw [onCurve_iff_of_unbound unbound]
      intro _
      exact ⟨g, (keyGroup?_iff_counts known).2 counts, (isSupported_iff known).2 mem⟩

/-- What it takes for a key on a curve to sign, with a list of enabled groups. -/
lemma signs_iff_signsOnCurve (known : sel.groups = groups.registry)
    (elliptic : possession.privateKey.keyAlgorithm? = some .ec) {signer : Signer} :
    sel.Signs possession v s signer ↔ sel.SignsOnCurve groups possession v s signer := by
  constructor
  · rintro ⟨available, inHandshake, keyAlgorithm, -, curve, made⟩
    rw [elliptic] at keyAlgorithm
    have same := (Option.some.inj keyAlgorithm).symm
    exact ⟨available, inHandshake, same, (onCurve_iff_of_registry known same).1 curve, made⟩
  · rintro ⟨available, inHandshake, same, curve, made⟩
    refine ⟨available, inHandshake, ?_, ?_, (onCurve_iff_of_registry known same).2 curve, made⟩
    · rw [elliptic, same]
    · -- Limits on the size do not apply to keys on curves.
      rw [same]
      intro rsa
      cases rsa

/-- The provider is asked for a signer where nothing else speaks against a candidate. -/
lemma newSigner_mem_attempt (eligible : Eligible possession.privateKey v s) :
    .asked (.newSigner s.algorithm s.params possession.privateKey) ∈
      (sel.attempt possession v s).events ↔ sel.OnCurve possession s := by
  rw [events_attempt]
  constructor
  · intro mem
    obtain ⟨-, happens⟩ := happens_of_mem_trail mem
    cases happens with
    | newSigner on => exact on
  · intro on
    rw [trail, if_pos eligible, if_pos on]
    exact List.mem_append_right _ List.mem_cons_self

/-- What a selector whose groups are the named ones makes of keys on curves. -/
structure ChecksCurves (sel : Selector) (groups : SupportedGroups) : Prop where
  /-- Parameters belong to a group by their object identifier and their field size. -/
  group : ∀ (p : EcParameters) (g : NamedGroup),
    sel.groups.groupOf p = some g ↔ p.oid = g.oid ∧ p.fieldBits = g.fieldBits
  /-- A scheme with a group takes the keys of that group, whichever groups are enabled. -/
  bound : ∀ possession s g, s.definition.group = some g →
    ((sel.curveFits possession s).value = true ↔ possession.Counts (.ofGroup g))
  /-- Any other scheme for curves takes the keys of the enabled groups. -/
  unbound : ∀ possession s, s.definition.group = none → s.keyAlgorithm = .ec →
    ((sel.curveFits possession s).value = true ↔
      ∃ g ∈ groups.groups, possession.Counts (.ofGroup g))
  /-- The provider is asked for a signer just where the check is passed. -/
  asked : ∀ possession v s, possession.privateKey.keyAlgorithm? = some .ec →
    Eligible possession.privateKey v s →
      (.asked (.newSigner s.algorithm s.params possession.privateKey) ∈
        (sel.attempt possession v s).events ↔ possession.OnNamedCurve groups.groups s)
  /-- The first candidate is selected that passes the check and for which a signer is made. -/
  selected : ∀ candidates possession v s signer,
    possession.privateKey.keyAlgorithm? = some .ec →
      ((sel.selectSigner candidates possession v).value = some (s, signer) ↔
        ∃ i, FirstAt (fun t => ∃ other, sel.SignsOnCurve groups possession v t other)
          candidates i s ∧ sel.SignsOnCurve groups possession v s signer)
  /-- Nothing is selected where no parameters count. -/
  without : ∀ candidates possession v, possession.privateKey.keyAlgorithm? = some .ec →
    (∀ p, ¬ possession.Counts p) → (sel.selectSigner candidates possession v).value = none

/-- With the named groups, whatever groups are enabled, curves are told by their parameters. -/
theorem checksCurves_of_registry (known : sel.groups = groups.registry) :
    sel.ChecksCurves groups where
  group p g := by
    rw [known]
    change SupportedGroups.groupOf p = some g ↔ _
    rw [SupportedGroups.groupOf_eq_some_iff]
    cases p
    rw [EcParameters.ofGroup, EcParameters.mk.injEq]
  bound possession s g own := by
    rw [value_curveFits, onCurve_iff_of_bound own]
    exact keyGroup?_iff_counts known
  unbound possession s unbound elliptic := by
    rw [value_curveFits, onCurve_iff_of_registry known elliptic]
    constructor
    · intro on
      cases on with
      | bound own => rw [unbound] at own; cases own
      | enabled _ mem counts => exact ⟨_, mem, counts⟩
    · rintro ⟨g, mem, counts⟩
      exact .enabled unbound mem counts
  asked possession v s elliptic eligible := by
    have same := eligible.keyAlgorithm
    rw [elliptic] at same
    rw [newSigner_mem_attempt eligible]
    exact onCurve_iff_of_registry known (Option.some.inj same).symm
  selected candidates possession v s signer elliptic := by
    simp only [value_selectSigner_eq_some, signs_iff_signsOnCurve known elliptic]
  without candidates possession v elliptic without := by
    rw [value_selectSigner_eq_none]
    rintro s mem ⟨signer, signs⟩
    have curve := ((signs_iff_signsOnCurve known elliptic).1 signs).curve
    cases curve with
    | bound own counts => exact without _ counts
    | enabled _ _ counts => exact without _ counts

/--
With P-256 alone enabled, a P-256 key with a certificate for P-384 goes with the scheme for P-384,
but not with the one for SHA-1. The latter goes with no key that has the name of P-256 and another size.
-/
theorem checksCurves_of_echo :
    let groups : SupportedGroups := ⟨[.secp256r1]⟩
    let sel : Selector :=
      { ofRegistry (Registry.build .echo .nothing).value with groups := groups.registry }
    let possession (p : EcParameters) : Possession :=
      ⟨.external ⟨"EC", none, some (.ofGroup .secp256r1), []⟩, some p⟩
    let bound : Scheme :=
      ⟨.boundEcdsa 0x0503 "ecdsa_secp384r1_sha384" "SHA384withECDSA" .secp384r1, true⟩
    let unbound : Scheme := ⟨.plain 0x0203 "ecdsa_sha1" "SHA1withECDSA" .ec Version.upTo13, true⟩
    sel.groups = groups.registry ∧
      (sel.curveFits (possession (.ofGroup .secp384r1)) bound).value = true ∧
        (sel.curveFits (possession (.ofGroup .secp384r1)) unbound).value = false ∧
          (sel.curveFits (possession ⟨"1.2.840.10045.3.1.7", 384⟩) unbound).value = false := by
  intro groups sel possession bound unbound
  have known : sel.groups = groups.registry := rfl
  have checks : sel.ChecksCurves groups := checksCurves_of_registry known
  have off (p : EcParameters) (other : p ≠ .ofGroup .secp256r1) :
      (sel.curveFits (possession p) unbound).value = false := by
    rw [Bool.eq_false_iff, Ne, checks.unbound _ unbound rfl rfl]
    rintro ⟨g, mem, counts⟩
    rw [List.mem_singleton.1 mem] at counts
    cases counts with
    | certificate given => exact other (Option.some.inj given)
    | key without => cases without
  refine ⟨known, (checks.bound _ bound .secp384r1 rfl).2 (.certificate rfl), off _ ?_, off _ ?_⟩
  · decide
  · decide

end Selector

end SchemeNegotiation
