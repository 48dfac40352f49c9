import SchemeNegotiation.Proofs.Negotiation

/-!
# Preference for verification

Verification prefers the first of some candidates that may sign handshake messages with the keys of
a certificate scheme, and choosing for it fails just when there is none. Signing asks for that and for
more, so it never stops at an earlier place of the same candidates, and where verification finds
nothing it finds nothing either (`prefers_candidates`).
-/

namespace SchemeNegotiation

variable {candidates : List Scheme} {certificate : Scheme} {v : Version}

/-- No candidate is preferred when none of them verifies with the certificate. -/
lemma preferredScheme?_eq_none_iff :
    preferredScheme? candidates certificate v = none ↔
      ∀ s ∈ candidates, ¬ Verifies certificate v s := by
  rw [Option.eq_none_iff_forall_ne_some]
  constructor
  · intro none s mem verifies
    obtain ⟨i, c, first⟩ := FirstAt.exists_of_mem mem verifies
    exact none c (preferredScheme?_eq_some_iff.2 ⟨i, first⟩)
  · intro unfit c preferred
    obtain ⟨i, first⟩ := preferredScheme?_eq_some_iff.1 preferred
    exact unfit c (List.mem_of_getElem? first.entry) first.holds

/-- Choosing for verification fails with one error, which names the certificate scheme. -/
lemma negotiateVerification_eq_error_iff {e : Error} :
    negotiateVerification candidates certificate v = .error e ↔
      (∀ s ∈ candidates, ¬ Verifies certificate v s) ∧
        e = .noMatchingScheme
          ("no signature scheme compatible with " ++ certificate.name ++ " in " ++ v.name) := by
  rw [← preferredScheme?_eq_none_iff, negotiateVerification]
  cases preferredScheme? candidates certificate v with
  | none => simp [eq_comm]
  | some c => simp

/-- What verification prefers among some candidates, and what signing makes of the same ones. -/
structure Prefers (candidates : List Scheme) (certificate : Scheme) (v : Version) : Prop where
  /-- The first acceptable candidate is preferred. -/
  first : ∀ c, preferredScheme? candidates certificate v = some c ↔
    ∃ i, FirstAt (Verifies certificate v) candidates i c
  /-- None is preferred when none is acceptable. -/
  missing : preferredScheme? candidates certificate v = none ↔
    ∀ s ∈ candidates, ¬ Verifies certificate v s
  chosen : ∀ c, negotiateVerification candidates certificate v = .ok c ↔
    preferredScheme? candidates certificate v = some c
  failed : ∀ e, negotiateVerification candidates certificate v = .error e ↔
    (∀ s ∈ candidates, ¬ Verifies certificate v s) ∧
      e = .noMatchingScheme
        ("no signature scheme compatible with " ++ certificate.name ++ " in " ++ v.name)
  /-- With the keys of the certificate scheme, signing stops no earlier than verification does. -/
  signing : ∀ (sel : Selector) (possession : Possession),
    possession.privateKey.keyAlgorithm? = some certificate.keyAlgorithm →
      ∀ j s signer, sel.StopsAt candidates possession v j s signer →
        ∃ i c, preferredScheme? candidates certificate v = some c ∧
          FirstAt (Verifies certificate v) candidates i c ∧ i ≤ j
  unsigned : ∀ (sel : Selector) (possession : Possession),
    possession.privateKey.keyAlgorithm? = some certificate.keyAlgorithm →
      preferredScheme? candidates certificate v = none →
        (sel.selectSigner candidates possession v).value = none

/-- Verification and signing agree on which of some candidates comes first. -/
theorem prefers_candidates (candidates : List Scheme) (certificate : Scheme) (v : Version) :
    Prefers candidates certificate v where
  first c := preferredScheme?_eq_some_iff
  missing := preferredScheme?_eq_none_iff
  chosen c := by
    rw [negotiateVerification_eq_ok_iff, preferredScheme?_eq_some_iff]
  failed e := negotiateVerification_eq_error_iff
  signing sel possession sameKeys j s signer stops := by
    obtain ⟨first, -⟩ := Selector.stopsAt_iff.1 stops
    have verifies : ∀ t ∈ candidates, (∃ other, sel.Signs possession v t other) →
        Verifies certificate v t := by
      rintro t _ ⟨other, signs⟩
      exact signs.verifies sameKeys
    obtain ⟨i, c, earlier, before⟩ := first.exists_le verifies
    exact ⟨i, c, preferredScheme?_eq_some_iff.2 ⟨i, earlier⟩, earlier, before⟩
  unsigned sel possession sameKeys none := by
    rw [preferredScheme?_eq_none_iff] at none
    rw [Selector.value_selectSigner_eq_none]
    rintro s mem ⟨signer, signs⟩
    exact none s mem (signs.verifies sameKeys)

/-- A key that is too small for the preferred scheme signs with a later one. -/
example :
    let r := (Registry.build .echo .nothing).value
    let candidates := [0x0807, 0x0806, 0x0804].filterMap r.ofId?
    let certificate : Scheme := ⟨.pss 0x0805 "rsa_pss_rsae_sha384" .rsa .sha384 784, true⟩
    let selected := ((Selector.ofRegistry r).selectSigner candidates
      ⟨.external ⟨"RSA", some 600, none, []⟩, none⟩ .tls13).value
    (preferredScheme? candidates certificate .tls13).map Scheme.id = some 0x0806 ∧
      selected.map (fun selection => selection.1.id) = some 0x0804 := by
  decide

end SchemeNegotiation
