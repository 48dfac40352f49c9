import SchemeNegotiation.Proofs.Registry
import SchemeNegotiation.Selector

/-!
# Narrowing

The two ways of narrowing ask the same of a scheme, `Selector.Usable`. The supported schemes are
the entries that are usable in one of the active versions (`mem_supported`). The usable offer is
the offer with each identifier replaced by its entry, where that is usable
(`value_judgeOffer_eq_some` and `mem_usableOffer`).
-/

namespace SchemeNegotiation.Selector

/-- What the policy of a selector asks of a scheme in a version. -/
structure Usable (sel : Selector) (v : Version) (s : Scheme) : Prop where
  available : s.available = true
  inVersion : s.supports v = true
  allowed : sel.allowList.permits s = true
  /-- The constraints are asked about the algorithm without its parameters. -/
  permitted : sel.constraints.permits [.signature] s.algorithm none = true

/-- A selector asks its constraints about signing with the bare algorithm. -/
@[simp]
lemma value_askConstraints (sel : Selector) (s : Scheme) :
    (sel.askConstraints s).value = sel.constraints.permits [.signature] s.algorithm none := rfl

/-- A scheme that is left out is judged wrong. -/
@[simp]
lemma value_leaveOut (notice : Notice) : (leaveOut notice).value = false := rfl

/-- The judgement of an entry, as one condition. -/
lemma value_judge (sel : Selector) (active : List Version) (s : Scheme) :
    (sel.judge active s).value =
      (s.available && sel.allowList.permits s && active.any s.supports &&
        sel.constraints.permits [.signature] s.algorithm none) := by
  unfold judge
  cases available : s.available with
  | false => simp
  | true =>
    cases allowed : sel.allowList.permits s with
    | false => simp
    | true =>
      cases spoken : active.any s.supports with
      | false => simp
      | true =>
        cases permitted : sel.constraints.permits [.signature] s.algorithm none <;> simp [permitted]

/-- The supported schemes are the entries that are judged right. -/
lemma value_supported (sel : Selector) (active : List Version) :
    (sel.supported active).value =
      sel.registry.schemes.filter fun s => (sel.judge active s).value :=
  Traced.value_keepIf (sel.judge active) sel.registry.schemes

/-- The supported schemes are the entries that are usable in one of the active versions. -/
lemma mem_supported {sel : Selector} {active : List Version} {s : Scheme} :
    s ∈ (sel.supported active).value ↔ s ∈ sel.registry.schemes ∧ ∃ v ∈ active, sel.Usable v s := by
  rw [value_supported, List.mem_filter, value_judge]
  refine and_congr_right fun _ => ?_
  simp only [Bool.and_eq_true, List.any_eq_true]
  constructor
  · rintro ⟨⟨⟨available, allowed⟩, v, mem, inVersion⟩, permitted⟩
    exact ⟨v, mem, available, inVersion, allowed, permitted⟩
  · rintro ⟨v, mem, usable⟩
    exact ⟨⟨⟨usable.available, usable.allowed⟩, v, mem, usable.inVersion⟩, usable.permitted⟩

/-- The answer to an offered identifier, as one condition on its entry. -/
lemma value_judgeOffer (sel : Selector) (v : Version) (id : UInt16) :
    (sel.judgeOffer v id).value =
      (sel.registry.ofId? id).filter fun s =>
        s.available && s.supports v && sel.allowList.permits s &&
          sel.constraints.permits [.signature] s.algorithm none := by
  unfold judgeOffer
  cases found : sel.registry.ofId? id with
  | none => simp
  | some s =>
    rw [Option.filter_some]
    cases listed : s.available && s.supports v && sel.allowList.permits s with
    | false => simp [listed]
    | true =>
      -- The constraints are asked only here, so their answer does not matter above.
      cases permitted : sel.constraints.permits [.signature] s.algorithm none <;>
        simp [listed, permitted]

/-- An offered identifier is answered by its entry, if that is usable. -/
lemma value_judgeOffer_eq_some {sel : Selector} {v : Version} {id : UInt16} {s : Scheme} :
    (sel.judgeOffer v id).value = some s ↔ sel.registry.ofId? id = some s ∧ sel.Usable v s := by
  rw [value_judgeOffer, Option.filter_eq_some_iff]
  refine and_congr_right fun _ => ?_
  simp only [Bool.and_eq_true]
  constructor
  · rintro ⟨⟨⟨available, inVersion⟩, allowed⟩, permitted⟩
    exact ⟨available, inVersion, allowed, permitted⟩
  · intro usable
    exact ⟨⟨⟨usable.available, usable.inVersion⟩, usable.allowed⟩, usable.permitted⟩

/-- The identifier of an entry is answered just when the entry is usable. -/
lemma isSome_judgeOffer {sel : Selector} {v : Version} {s : Scheme} (built : sel.registry.IsBuilt)
    (entry : s ∈ sel.registry.schemes) :
    (sel.judgeOffer v s.id).value.isSome = true ↔ sel.Usable v s := by
  have found := built.ofId?_eq_some_iff.2 ⟨entry, rfl⟩
  rw [Option.isSome_iff_exists]
  constructor
  · rintro ⟨t, answered⟩
    obtain ⟨resolved, usable⟩ := value_judgeOffer_eq_some.1 answered
    rw [found] at resolved
    rw [Option.some.inj resolved]
    exact usable
  · intro usable
    exact ⟨s, value_judgeOffer_eq_some.2 ⟨found, usable⟩⟩

/-- An entry is judged right just when its identifier is answered in an active version. -/
lemma value_judge_eq_any_judgeOffer {sel : Selector} {s : Scheme} (built : sel.registry.IsBuilt)
    (entry : s ∈ sel.registry.schemes) (active : List Version) :
    (sel.judge active s).value = active.any fun v => (sel.judgeOffer v s.id).value.isSome := by
  have supported : (sel.judge active s).value = true ↔ s ∈ (sel.supported active).value := by
    rw [value_supported, List.mem_filter]
    exact (and_iff_right entry).symm
  rw [Bool.eq_iff_iff, supported, mem_supported, and_iff_right entry, List.any_eq_true]
  exact exists_congr fun v => and_congr_right fun _ => (isSome_judgeOffer built entry).symm

/-- The usable offer is the offer with each identifier answered. -/
lemma value_usableOffer (sel : Selector) (v : Version) (ids : List UInt16) :
    (sel.usableOffer v ids).value = ids.filterMap fun id => (sel.judgeOffer v id).value := by
  change ((Traced.mapAll (sel.judgeOffer v) ids).value.filterMap fun s? => s?) = _
  rw [Traced.value_mapAll, List.filterMap_map]
  rfl

/-- The usable offer consists of the usable entries of the offered identifiers. -/
lemma mem_usableOffer {sel : Selector} {v : Version} {ids : List UInt16} {s : Scheme} :
    s ∈ (sel.usableOffer v ids).value ↔
      ∃ id ∈ ids, sel.registry.ofId? id = some s ∧ sel.Usable v s := by
  simp only [value_usableOffer, List.mem_filterMap, value_judgeOffer_eq_some]

end SchemeNegotiation.Selector
