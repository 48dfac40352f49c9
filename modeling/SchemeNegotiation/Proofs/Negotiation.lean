import SchemeNegotiation.Proofs.Candidates

/-!
# Negotiation

Choosing a signer from what a peer offers. Narrowing the offer and then trying what is left is one
search through the offered identifiers (`Selector.value_selectSigner_usableOffer`), for the first
one that is `Selector.Negotiable`.
-/

namespace SchemeNegotiation

/-- Choosing for verification succeeds with the first acceptable candidate. -/
lemma negotiateVerification_eq_ok_iff {candidates : List Scheme} {certificate s : Scheme}
    {v : Version} :
    negotiateVerification candidates certificate v = .ok s ↔
      ∃ i, FirstAt (Verifies certificate v) candidates i s := by
  rw [← preferredScheme?_eq_some_iff]
  unfold negotiateVerification
  cases preferredScheme? candidates certificate v <;> simp

namespace Selector

/--
An offered identifier for which a possession gets a scheme with a signer: the identifier resolves
to the scheme, the policy lets the scheme through, and the key can sign with it.
-/
structure Negotiable (sel : Selector) (possession : Possession) (v : Version) (id : UInt16)
    (s : Scheme) (signer : Signer) : Prop where
  resolved : sel.registry.ofId? id = some s
  usable : sel.Usable v s
  signs : sel.Signs possession v s signer

/-- Choosing a signer is selecting one, with an error where there is none. -/
lemma value_negotiateSigner (sel : Selector) (candidates : List Scheme) (possession : Possession)
    (v : Version) :
    (sel.negotiateSigner candidates possession v).value =
      match (sel.selectSigner candidates possession v).value with
      | some selection => .ok selection
      | none => .error (noSigner possession v) := by
  unfold negotiateSigner
  cases selected : (sel.selectSigner candidates possession v).value <;> simp [selected]

/-- Choosing a signer succeeds with what is selected. -/
lemma value_negotiateSigner_eq_ok {sel : Selector} {candidates : List Scheme}
    {possession : Possession} {v : Version} {selection : Selection} :
    (sel.negotiateSigner candidates possession v).value = .ok selection ↔
      (sel.selectSigner candidates possession v).value = some selection := by
  rw [value_negotiateSigner]
  cases (sel.selectSigner candidates possession v).value <;> simp

/-- Choosing a signer fails when nothing is selected. -/
lemma value_negotiateSigner_eq_error {sel : Selector} {candidates : List Scheme}
    {possession : Possession} {v : Version} :
    (sel.negotiateSigner candidates possession v).value = .error (noSigner possession v) ↔
      (sel.selectSigner candidates possession v).value = none := by
  rw [value_negotiateSigner]
  cases (sel.selectSigner candidates possession v).value <;> simp

/-- Selecting from the usable offer is one search through the offer. -/
lemma value_selectSigner_usableOffer (sel : Selector) (possession : Possession) (v : Version)
    (ids : List UInt16) :
    (sel.selectSigner (sel.usableOffer v ids).value possession v).value =
      ids.findSome? fun id =>
        (sel.judgeOffer v id).value.bind fun s => (sel.attempt possession v s).value := by
  rw [selectSigner, Traced.value_firstSome, value_usableOffer, FirstAt.findSome?_filterMap]

/-- An identifier gives a selection in that search exactly when it is negotiable. -/
lemma answer_eq_some_iff {sel : Selector} {possession : Possession} {v : Version} (id : UInt16)
    (selection : Selection) :
    ((sel.judgeOffer v id).value.bind fun s => (sel.attempt possession v s).value) =
        some selection ↔
      sel.Negotiable possession v id selection.1 selection.2 := by
  obtain ⟨s, signer⟩ := selection
  rw [Option.bind_eq_some_iff]
  constructor
  · rintro ⟨t, answered, tried⟩
    obtain ⟨resolved, usable⟩ := value_judgeOffer_eq_some.1 answered
    obtain ⟨rfl, signs⟩ := value_attempt_eq_some.1 tried
    exact ⟨resolved, usable, signs⟩
  · intro negotiable
    exact ⟨s, value_judgeOffer_eq_some.2 ⟨negotiable.resolved, negotiable.usable⟩,
      value_attempt_eq_some.2 ⟨rfl, negotiable.signs⟩⟩

/--
Choosing a signer from the usable part of an offer gives a scheme and a signer exactly when the
first negotiable identifier of the offer gives them, and it fails exactly when no identifier of the
offer is negotiable.
-/
theorem negotiateSigner_usableOffer (sel : Selector) (possession : Possession) (v : Version)
    (ids : List UInt16) :
    (∀ s signer,
      (sel.negotiateSigner (sel.usableOffer v ids).value possession v).value = .ok (s, signer) ↔
        ∃ i id, FirstAt (fun x => ∃ t other, sel.Negotiable possession v x t other) ids i id ∧
          sel.Negotiable possession v id s signer) ∧
    ((sel.negotiateSigner (sel.usableOffer v ids).value possession v).value =
        .error (noSigner possession v) ↔
      ∀ id ∈ ids, ∀ s signer, ¬ sel.Negotiable possession v id s signer) := by
  have paired : (fun x => ∃ c : Selection, sel.Negotiable possession v x c.1 c.2) =
      fun x => ∃ t other, sel.Negotiable possession v x t other := by
    funext x
    rw [Prod.exists]
  constructor
  · intro s signer
    rw [value_negotiateSigner_eq_ok, value_selectSigner_usableOffer,
      FirstAt.findSome?_eq_some_iff answer_eq_some_iff, paired]
  · rw [value_negotiateSigner_eq_error, value_selectSigner_usableOffer,
      FirstAt.findSome?_eq_none_iff answer_eq_some_iff]
    simp only [Prod.forall]

end Selector

end SchemeNegotiation
