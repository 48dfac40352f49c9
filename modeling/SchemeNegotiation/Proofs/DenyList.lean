import SchemeNegotiation.Policy.DenyList
import SchemeNegotiation.Proofs.Narrowing

/-!
# Deny-lists and parameters

A deny-list refuses parameters with a digest on it (`DenyList.permits_eq`), but a selector asks its
constraints about algorithms without their parameters. So a digest on the list does not keep away
the RSASSA-PSS schemes with that digest, which is in their parameters alone. It does no harm just
when the list refuses RSASSA-PSS altogether, or when no such scheme would come through the other
filters (`Selector.denies_parameters_iff`).
-/

namespace SchemeNegotiation

namespace DenyList

/-- A deny-list asks one thing about the algorithm and another about its parameters. -/
lemma permits_eq (l : DenyList) (algorithm : String) (params : Option PssParams) :
    l.permits algorithm params = (l.permits algorithm none && !l.containsHash params) := by
  simp [permits, containsHash]

/-- RSASSA-PSS has no components but itself. -/
lemma permits_pss (l : DenyList) : l.permits "RSASSA-PSS" none = !l.contains "RSASSA-PSS" := by
  have whole : Components.ofName "RSASSA-PSS" = ["RSASSA-PSS"] := by decide
  simp [permits, containsHash, whole]

/-- Parameters pass when neither of their digests is on the list. -/
lemma containsHash_some_eq_false {l : DenyList} {p : PssParams} :
    l.containsHash (some p) = false ↔
      l.contains (hashName p.hash) = false ∧ l.contains (hashName p.maskHash) = false := by
  rw [containsHash, Bool.or_eq_false_iff]

end DenyList

namespace Selector

open DenyList

/-- A scheme that comes through narrowing for some versions or an offer, constraints aside. -/
structure InPlay (sel : Selector) (active : List Version) (v : Version) (ids : List UInt16)
    (s : Scheme) : Prop where
  entry : s ∈ sel.registry.schemes
  available : s.available = true
  allowed : sel.allowList.permits s = true
  /-- The scheme is spoken in an active version, or it is offered in the version of the offer. -/
  wanted : (∃ w ∈ active, s.supports w = true) ∨ s.id ∈ ids ∧ s.supports v = true

/-- Narrowing gives the schemes in play whose bare algorithms the constraints permit. -/
lemma mem_narrowed_iff {sel : Selector} {active : List Version} {v : Version} {ids : List UInt16}
    {s : Scheme} (built : sel.registry.IsBuilt) :
    s ∈ (sel.supported active).value ∨ s ∈ (sel.usableOffer v ids).value ↔
      sel.InPlay active v ids s ∧
        sel.constraints.permits [.signature] s.algorithm none = true := by
  rw [mem_supported, mem_usableOffer]
  constructor
  · rintro (⟨entry, w, mem, usable⟩ | ⟨id, mem, found, usable⟩)
    · exact ⟨⟨entry, usable.available, usable.allowed, .inl ⟨w, mem, usable.inVersion⟩⟩,
        usable.permitted⟩
    · obtain ⟨entry, rfl⟩ := built.ofId?_eq_some_iff.1 found
      exact ⟨⟨entry, usable.available, usable.allowed, .inr ⟨mem, usable.inVersion⟩⟩,
        usable.permitted⟩
  · rintro ⟨⟨entry, available, allowed, ⟨w, mem, inVersion⟩ | ⟨mem, inVersion⟩⟩, permitted⟩
    · exact .inl ⟨entry, w, mem, available, inVersion, allowed, permitted⟩
    · have found := built.ofId?_eq_some_iff.2 ⟨entry, rfl⟩
      exact .inr ⟨s.id, mem, found, available, inVersion, allowed, permitted⟩

/-- An entry with parameters is for RSASSA-PSS. -/
lemma algorithm_of_inPlay {sel : Selector} {active : List Version} {v : Version}
    {ids : List UInt16} {s : Scheme} {p : PssParams} (built : sel.registry.IsBuilt)
    (play : sel.InPlay active v ids s) (given : s.params = some p) : s.algorithm = "RSASSA-PSS" :=
  Definition.algorithm_of_params (built.mem_table play.entry) given

/--
With a deny-list for constraints, narrowing gives only schemes that the list permits with their own
parameters exactly when the list names RSASSA-PSS, or no digest of an RSASSA-PSS scheme in play.
-/
theorem denies_parameters_iff {sel : Selector} {l : DenyList} (built : sel.registry.IsBuilt)
    (denying : sel.constraints = l.constraints) (active : List Version) (v : Version)
    (ids : List UInt16) :
    (∀ s, s ∈ (sel.supported active).value ∨ s ∈ (sel.usableOffer v ids).value →
        l.permits s.algorithm s.params = true) ↔
      ∀ s p, sel.InPlay active v ids s → s.params = some p →
        l.contains "RSASSA-PSS" = true ∨
          l.contains (hashName p.hash) = false ∧ l.contains (hashName p.maskHash) = false := by
  have asked (algorithm : String) :
      sel.constraints.permits [.signature] algorithm none = l.permits algorithm none := by
    rw [denying]; rfl
  simp only [mem_narrowed_iff built, asked]
  constructor
  · intro keeps s p play given
    have pss := algorithm_of_inPlay built play given
    cases whole : l.contains "RSASSA-PSS" with
    | true => exact .inl rfl
    | false =>
      have bare : l.permits s.algorithm none = true := by rw [pss, permits_pss, whole]; rfl
      -- The algorithm is permitted, so the list refuses the scheme for its digests or not at all.
      have own := keeps s ⟨play, bare⟩
      rw [permits_eq, bare, given, Bool.true_and, Bool.not_eq_true'] at own
      exact .inr (containsHash_some_eq_false.1 own)
  · rintro harmless s ⟨play, bare⟩
    rw [permits_eq, bare, Bool.true_and, Bool.not_eq_true']
    cases given : s.params with
    | none => rfl
    | some p =>
      rw [algorithm_of_inPlay built play given, permits_pss, Bool.not_eq_true'] at bare
      rcases harmless s p play given with whole | digests
      · rw [bare] at whole
        cases whole
      · exact containsHash_some_eq_false.2 digests

/-- A list with RSASSA-PSS beside a digest is kept to for parameters. -/
theorem denies_parameters_of_pss :
    let l := DenyList.ofNames ["SHA384", "RSASSA-PSS"]
    let sel : Selector :=
      { ofRegistry (Registry.build .echo .nothing).value with constraints := l.constraints }
    ∀ s, s ∈ (sel.supported [.tls13]).value ∨ s ∈ (sel.usableOffer .tls13 [0x0805]).value →
      l.permits s.algorithm s.params = true := by
  intro l sel
  apply (denies_parameters_iff (.build _ _) rfl _ _ _).2
  intro s p _ _
  exact .inl (by decide)

/-- A list with a digest alone lets through a scheme with that digest, in both ways of narrowing. -/
theorem sha384_comes_through :
    let l := DenyList.ofNames ["SHA384"]
    let sel : Selector :=
      { ofRegistry (Registry.build .echo .nothing).value with constraints := l.constraints }
    let s : Scheme := ⟨.pss 0x0805 "rsa_pss_rsae_sha384" .rsa .sha384 784, true⟩
    s ∈ (sel.supported [.tls13]).value ∧ s ∈ (sel.usableOffer .tls13 [0x0805]).value ∧
      s.params = some (.ofHash .sha384) ∧ l.permits s.algorithm s.params = false := by
  decide

end Selector

end SchemeNegotiation
