import SchemeNegotiation.Proofs.DenyVerdict
import SchemeNegotiation.Proofs.Narrowing
import SchemeNegotiation.Provider.Builtin

/-!
# Stricter policies

One selector is stricter than another when each of its parts refuses whatever the same part of the
other refuses: its provider has less, its exclusion excludes more, its allow-list enables less, and
its constraints permit less (`Selector.Stricter`). An allow-list without entries enables everything,
so it is within no list but another one without entries. What an identifier resolves to under the
stricter selector it resolves to under the other (`Selector.Stricter.judgeOffer`), and narrowing
keeps identifiers where they stand (`Selector.map_id_supported`, `Selector.map_id_usableOffer`). So
what comes through the stricter selector is a sublist of what comes through the other, in both ways
of narrowing (`Selector.Stricter.sublists`).
-/

namespace SchemeNegotiation

/-- A provider that has nothing that another one does not have. -/
structure Provider.Within (p q : Provider) : Prop where
  instantiates : ∀ algorithm, p.canInstantiate algorithm = true → q.canInstantiate algorithm = true
  curves : p.ecAvailable = true → q.ecAvailable = true

/-- An exclusion that excludes everything that another one excludes. -/
def Exclusion.Within (x y : Exclusion) : Prop :=
  ∀ d, y.excludes d = true → x.excludes d = true

/-- Every exclusion is within the one that excludes nothing. -/
lemma Exclusion.within_nothing (x : Exclusion) : x.Within .nothing := by
  intro d excluded
  exact absurd excluded Bool.false_ne_true

/-- A registry that was built with less, and with more excluded, than another one. -/
inductive Registry.Within : Registry → Registry → Prop where
  | build {p q : Provider} {x y : Exclusion} (provider : p.Within q) (exclusion : x.Within y) :
    Within (Registry.build p x).value (Registry.build q y).value

/-- An allow-list that enables nothing that another one does not enable. -/
def AllowList.Within (l m : AllowList) : Prop :=
  m.isUnrestricted = true ∨ l.isUnrestricted = false ∧ ∀ id ∈ l.ids, id ∈ m.ids

/-- Constraints that permit nothing that others do not permit. -/
inductive Constraints.Within : Constraints → Constraints → Prop where
  | pointwise {c d : Constraints}
    (permits : ∀ primitives algorithm params,
      c.permits primitives algorithm params = true → d.permits primitives algorithm params = true) :
    Within c d
  /-- Of two deny-lists, the one with more entries permits less. -/
  | denyLists {l m : DenyList} (entries : ∀ e ∈ m.entries, e ∈ l.entries) :
    Within l.constraints m.constraints

/-- A selector that refuses, part by part, whatever another one refuses. -/
structure Selector.Stricter (sel other : Selector) : Prop where
  registry : sel.registry.Within other.registry
  allowList : sel.allowList.Within other.allowList
  constraints : sel.constraints.Within other.constraints

namespace DenyList

/-- A deny-list permits whatever one with more entries permits. -/
lemma permits_mono {l m : DenyList} (entries : ∀ e ∈ m.entries, e ∈ l.entries)
    {algorithm : String} {params : Option PssParams}
    (permitted : l.permits algorithm params = true) : m.permits algorithm params = true := by
  obtain ⟨given, free⟩ := permits_iff.1 permitted
  apply permits_iff.2
  constructor
  · exact given
  · intro name named listed
    exact free name named (entries name listed)

end DenyList

/-- Constraints permit whatever those within them permit. -/
lemma Constraints.Within.permits {c d : Constraints} (within : c.Within d)
    {primitives : List Primitive} {algorithm : String} {params : Option PssParams}
    (permitted : c.permits primitives algorithm params = true) :
    d.permits primitives algorithm params = true := by
  cases within with
  | pointwise permits => exact permits primitives algorithm params permitted
  | denyLists entries => exact DenyList.permits_mono entries permitted

/-- An allow-list enables a scheme that a list within it enables, whatever registry it is of. -/
lemma AllowList.Within.permits {l m : AllowList} (within : l.Within m) {s t : Scheme}
    (same : t.id = s.id) (permitted : l.permits s = true) : m.permits t = true := by
  rw [AllowList.permits, Bool.or_eq_true, List.contains_iff_mem] at permitted ⊢
  rcases within with all | ⟨some, ids⟩
  · exact .inl all
  -- The list has entries, so it permits the scheme for being one of them.
  · rcases permitted with none | listed
    · rw [some] at none
      cases none
    · rw [same]
      exact .inr (ids _ listed)

namespace Registry

/-- What is available with less, and with more excluded, is available. -/
lemma probe_mono {p q : Provider} {x y : Exclusion} (provider : p.Within q)
    (exclusion : x.Within y) {d : Definition} (able : (probe p x d).value = true) :
    (probe q y d).value = true := by
  obtain ⟨curves, instantiates, included⟩ := value_probe.1 able
  have kept : y.excludes d = false := by
    rw [Bool.eq_false_iff] at included ⊢
    intro excluded
    exact included (exclusion d excluded)
  have has : q.canInstantiate d.algorithm = true := provider.instantiates _ instantiates
  exact value_probe.2 ⟨fun elliptic => provider.curves (curves elliptic), has, kept⟩

/-- An available entry has a counterpart in every registry that was built with more. -/
lemma Within.exists_available {r q : Registry} (within : r.Within q) {s : Scheme}
    (entry : s ∈ r.schemes) (available : s.available = true) :
    ∃ t ∈ q.schemes, t.definition = s.definition ∧ t.available = true := by
  cases within with
  | @build p q x y provider exclusion =>
    obtain ⟨known, able⟩ := mem_build.1 entry
    rw [available] at able
    have more := probe_mono provider exclusion able.symm
    exact ⟨⟨s.definition, true⟩, mem_build.2 ⟨known, more.symm⟩, rfl, rfl⟩

/-- The registry that has less was built. -/
lemma Within.isBuilt {r q : Registry} (within : r.Within q) : r.IsBuilt := by
  cases within
  exact .build _ _

/-- So was the registry that has more. -/
lemma Within.isBuilt_right {r q : Registry} (within : r.Within q) : q.IsBuilt := by
  cases within
  exact .build _ _

end Registry

namespace Selector

variable {sel other : Selector}

/-- An identifier that gives a scheme under the stricter selector gives one under the other. -/
lemma Stricter.judgeOffer (stricter : sel.Stricter other) {v : Version} {id : UInt16}
    (given : (sel.judgeOffer v id).value.isSome = true) :
    (other.judgeOffer v id).value.isSome = true := by
  obtain ⟨s, answered⟩ := Option.isSome_iff_exists.1 given
  obtain ⟨found, usable⟩ := value_judgeOffer_eq_some.1 answered
  obtain ⟨entry, rfl⟩ := stricter.registry.isBuilt.ofId?_eq_some_iff.1 found
  obtain ⟨t, mem, same, available⟩ :=
    stricter.registry.exists_available entry usable.available
  have sameId : t.id = s.id := congrArg Definition.id same
  have resolved := stricter.registry.isBuilt_right.ofId?_eq_some_iff.2 ⟨mem, sameId⟩
  have accepted : other.Usable v t := by
    refine ⟨available, ?_, stricter.allowList.permits sameId usable.allowed, ?_⟩
    · rw [Scheme.supports, same]
      exact usable.inVersion
    · rw [Scheme.algorithm, same]
      exact stricter.constraints.permits usable.permitted
  exact Option.isSome_iff_exists.2 ⟨t, value_judgeOffer_eq_some.2 ⟨resolved, accepted⟩⟩

/-- The usable offer has the identifiers that give a scheme, where they stand in the offer. -/
lemma map_id_usableOffer (sel : Selector) (v : Version) (ids : List UInt16) :
    (sel.usableOffer v ids).value.map Scheme.id =
      ids.filter fun id => (sel.judgeOffer v id).value.isSome := by
  rw [value_usableOffer, List.map_filterMap, ← List.filterMap_eq_filter]
  apply List.filterMap_congr
  intro id _
  cases answered : (sel.judgeOffer v id).value with
  | none => simp [Option.guard, answered]
  | some s =>
    have same : s.id = id := by
      simpa using List.find?_some (value_judgeOffer_eq_some.1 answered).1
    simp [Option.guard, answered, same]

/-- The supported schemes have the identifiers that give one in an active version, in order. -/
lemma map_id_supported (built : sel.registry.IsBuilt) (active : List Version) :
    (sel.supported active).value.map Scheme.id =
      (Definition.table.map Definition.id).filter fun id =>
        active.any fun v => (sel.judgeOffer v id).value.isSome := by
  have ids : Definition.table.map Definition.id = sel.registry.schemes.map Scheme.id := by
    rw [← built.map_definition, List.map_map]
    rfl
  rw [ids, List.filter_map, value_supported]
  refine congrArg _ (List.filter_congr fun s entry => ?_)
  exact value_judge_eq_any_judgeOffer built entry active

/--
What comes through the stricter of two selectors is a sublist of what comes through the other: of
the supported schemes, whenever no version is active for the one alone, and of every usable offer.
-/
theorem Stricter.sublists (stricter : sel.Stricter other) :
    (∀ active others : List Version, (∀ v ∈ active, v ∈ others) →
      ((sel.supported active).value.map Scheme.id).Sublist
        ((other.supported others).value.map Scheme.id)) ∧
    ∀ (v : Version) (ids : List UInt16),
      ((sel.usableOffer v ids).value.map Scheme.id).Sublist
        ((other.usableOffer v ids).value.map Scheme.id) := by
  constructor
  · intro active others more
    rw [map_id_supported stricter.registry.isBuilt,
      map_id_supported stricter.registry.isBuilt_right]
    apply List.monotone_filter_right
    intro id given
    obtain ⟨v, mem, given⟩ := List.any_eq_true.1 given
    exact List.any_eq_true.2 ⟨v, more v mem, stricter.judgeOffer given⟩
  · intro v ids
    rw [map_id_usableOffer, map_id_usableOffer]
    apply List.monotone_filter_right
    intro id given
    exact stricter.judgeOffer given

/--
The built-in provider has less than the echoing one, so with fewer schemes allowed, more names
denied and a version less it supports two of the three schemes that the echoing side supports.
-/
theorem sublists_of_builtin :
    let r := (Registry.build Builtin.provider (.ofHashByte 2)).value
    let q := (Registry.build .echo .nothing).value
    let strict : Selector :=
      { ofRegistry r with
        allowList := .ofIds [0x0503, 0x0203, 0x0303]
        constraints := (DenyList.ofNames ["SHA1", "RSA"]).constraints }
    let loose : Selector :=
      { ofRegistry q with
        allowList := .ofIds [0x0303, 0x0203, 0x0807, 0x0503]
        constraints := (DenyList.ofNames [" sha1 "]).constraints }
    strict.Stricter loose ∧
      (strict.supported [.tls12]).value.map Scheme.id = [0x0503, 0x0303] ∧
      (loose.supported [.tls13, .tls12]).value.map Scheme.id = [0x0807, 0x0503, 0x0303] ∧
      ((strict.supported [.tls12]).value.map Scheme.id).Sublist
        ((loose.supported [.tls13, .tls12]).value.map Scheme.id) ∧
      ((strict.usableOffer .tls12 [0x0303, 0x0807, 0x0303]).value.map Scheme.id).Sublist
        ((loose.usableOffer .tls12 [0x0303, 0x0807, 0x0303]).value.map Scheme.id) := by
  intro r q strict loose
  have provider : Builtin.provider.Within .echo := ⟨fun _ _ => rfl, fun _ => rfl⟩
  have registry : r.Within q := .build provider (Exclusion.within_nothing _)
  have ids : strict.allowList.ids ⊆ loose.allowList.ids := by decide
  have allowList : strict.allowList.Within loose.allowList := .inr ⟨by decide, fun _ mem => ids mem⟩
  have constraints : strict.constraints.Within loose.constraints := .denyLists (by decide)
  have stricter : strict.Stricter loose := ⟨registry, allowList, constraints⟩
  obtain ⟨supported, offered⟩ := Stricter.sublists stricter
  exact ⟨stricter, by decide, by decide, supported [.tls12] [.tls13, .tls12] (by decide),
    offered .tls12 [0x0303, 0x0807, 0x0303]⟩

/-- A first entry in an allow-list does not widen it: the list enabled everything before. -/
example :
    let r := (Registry.build .echo .nothing).value
    ¬ (((ofRegistry r).supported [.tls13]).value.map Scheme.id).Sublist
      ((({ ofRegistry r with allowList := .ofIds [0x0807] } : Selector).supported
        [.tls13]).value.map Scheme.id) := by
  decide

end Selector

end SchemeNegotiation
