import SchemeNegotiation.Proofs.Narrowing

/-!
# Correspondence of the two ways of narrowing

Each way of narrowing can be read off the other one. The usable offer looks every offered
identifier up among the schemes that are supported in the version of the offer, and the supported
schemes are the entries that would be usable if they were offered alone. All of it is put together
in `Selector.Corresponds`, which holds of every selector on a built registry
(`Selector.corresponds_of_isBuilt`).
-/

namespace SchemeNegotiation

/-- Allow-lists with the same identifiers, in whatever order, permit the same schemes. -/
lemma AllowList.permits_congr {l m : AllowList} (same : ∀ id, id ∈ l.ids ↔ id ∈ m.ids)
    (s : Scheme) : l.permits s = m.permits s := by
  have listed : l.ids.contains s.id = m.ids.contains s.id := by
    rw [Bool.eq_iff_iff, List.contains_iff_mem, List.contains_iff_mem]
    exact same s.id
  have unlisted : l.ids.isEmpty = m.ids.isEmpty := by
    rw [Bool.eq_iff_iff, List.isEmpty_iff, List.isEmpty_iff, List.eq_nil_iff_forall_not_mem,
      List.eq_nil_iff_forall_not_mem]
    exact forall_congr' fun id => not_congr (same id)
  rw [permits, permits, isUnrestricted, isUnrestricted, listed, unlisted]

namespace Selector

/-- The two ways of narrowing determine each other, and see only the sets that they are given. -/
structure Corresponds (sel : Selector) : Prop where
  /-- Each offered identifier is replaced by the scheme that is supported in the version. -/
  offered : ∀ v ids, (sel.usableOffer v ids).value =
    ids.filterMap fun id => (sel.supported [v]).value.find? (·.id == id)
  /-- The supported schemes are the entries that are usable when they are offered alone. -/
  supported : ∀ active, (sel.supported active).value =
    sel.registry.schemes.filter fun s =>
      active.any fun v => !(sel.usableOffer v [s.id]).value.isEmpty
  distinct : ∀ active, ((sel.supported active).value.map Scheme.id).Nodup
  /-- The order and the repetitions of the active versions do not matter. -/
  versions : ∀ active others, (∀ v, v ∈ active ↔ v ∈ others) →
    (sel.supported active).value = (sel.supported others).value
  /-- The order of the allow-list does not matter. -/
  allowed : ∀ other : Selector, other.registry = sel.registry →
    other.constraints = sel.constraints →
      (∀ id, id ∈ other.allowList.ids ↔ id ∈ sel.allowList.ids) → ∀ active v ids,
        (other.supported active).value = (sel.supported active).value ∧
          (other.usableOffer v ids).value = (sel.usableOffer v ids).value

variable {sel : Selector}

/-- No scheme is supported twice. -/
lemma nodup_supported (built : sel.registry.IsBuilt) (active : List Version) :
    ((sel.supported active).value.map Scheme.id).Nodup := by
  rw [value_supported]
  exact built.nodup_ids.sublist (List.filter_sublist.map Scheme.id)

/-- The answer to an offered identifier is the scheme supported in the version. -/
lemma find?_supported (built : sel.registry.IsBuilt) (v : Version) (id : UInt16) :
    (sel.supported [v]).value.find? (·.id == id) = (sel.judgeOffer v id).value := by
  apply Option.ext
  intro s
  rw [Scheme.find?_id_eq_some_iff (nodup_supported built [v]), value_judgeOffer_eq_some,
    built.ofId?_eq_some_iff, mem_supported]
  constructor
  · rintro ⟨⟨entry, w, mem, usable⟩, same⟩
    rw [List.mem_singleton.1 mem] at usable
    exact ⟨⟨entry, same⟩, usable⟩
  · rintro ⟨⟨entry, same⟩, usable⟩
    exact ⟨⟨entry, v, List.mem_singleton_self v, usable⟩, same⟩

/-- Something of an offer of one identifier is usable just when the identifier is answered. -/
lemma isEmpty_usableOffer_singleton (sel : Selector) (v : Version) (id : UInt16) :
    (sel.usableOffer v [id]).value.isEmpty = !(sel.judgeOffer v id).value.isSome := by
  rw [value_usableOffer]
  cases answered : (sel.judgeOffer v id).value <;> simp [answered]

/-- The judgement of an entry is what becomes of it when it is offered alone. -/
lemma value_judge_eq_any {s : Scheme} (built : sel.registry.IsBuilt)
    (entry : s ∈ sel.registry.schemes) (active : List Version) :
    (sel.judge active s).value =
      active.any fun v => !(sel.usableOffer v [s.id]).value.isEmpty := by
  simp only [value_judge_eq_any_judgeOffer built entry, isEmpty_usableOffer_singleton, Bool.not_not]

/-- The two ways of narrowing correspond in every selector on a built registry. -/
theorem corresponds_of_isBuilt (built : sel.registry.IsBuilt) : sel.Corresponds where
  offered v ids := by
    rw [value_usableOffer]
    exact List.filterMap_congr fun id _ => (find?_supported built v id).symm
  supported active := by
    rw [value_supported]
    exact List.filter_congr fun s entry => value_judge_eq_any built entry active
  distinct := nodup_supported built
  versions active others same := by
    rw [value_supported, value_supported]
    apply List.filter_congr
    intro s _
    have spoken : active.any s.supports = others.any s.supports := by
      rw [Bool.eq_iff_iff, List.any_eq_true, List.any_eq_true]
      exact exists_congr fun v => and_congr_left fun _ => same v
    rw [value_judge, value_judge, spoken]
  allowed other registry constraints same active v ids := by
    constructor
    · rw [value_supported, value_supported, registry]
      apply List.filter_congr
      intro s _
      rw [value_judge, value_judge, AllowList.permits_congr same s, constraints]
    · rw [value_usableOffer, value_usableOffer]
      apply List.filterMap_congr
      intro id _
      rw [value_judgeOffer, value_judgeOffer, registry, constraints]
      simp only [AllowList.permits_congr same]

/-- An echoing side that allows two schemes and excludes one of them is left with the other. -/
theorem corresponds_of_echo :
    let r := (Registry.build .echo (.ofHashByte 5)).value
    let sel : Selector := { ofRegistry r with allowList := .ofIds [0x0804, 0x0503] }
    r.IsBuilt ∧ sel.Corresponds ∧ (sel.supported [.tls12]).value.map Scheme.id = [0x0804] ∧
      (sel.usableOffer .tls12 [0x0804, 0x1234, 0x0503, 0x0804, 0x0403]).value.map Scheme.id =
        [0x0804, 0x0804] := by
  intro r sel
  have built : r.IsBuilt := .build _ _
  exact ⟨built, corresponds_of_isBuilt built, by decide, by decide⟩

end Selector

end SchemeNegotiation
