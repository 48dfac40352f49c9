import Mathlib.Data.List.Nodup
import Mathlib.Tactic.Lemma
import SchemeNegotiation.Registry

/-!
# Built registries

What holds of every registry that was built, whatever its provider and its exclusion are. Each
scheme of the table was probed (`probed_probe`): the provider and the exclusion are asked in turn
until one of them speaks against it. The entries are the definitions of the table, in order
(`IsBuilt.map_definition`). So an identifier stands for at most one entry
(`IsBuilt.ofId?_eq_some_iff`), and it stands for the same definition in any two registries
(`IsBuilt.definition_eq`).
-/

namespace SchemeNegotiation

/-- Where no two entries have the same key, a search by the key finds the one. -/
lemma find?_key_eq_some_iff {α β : Type} {l : List α} {key : α → β} {test : α → Bool} {a : α}
    {b : β} (nodup : (l.map key).Nodup) (tests : ∀ x, test x = true ↔ key x = b) :
    l.find? test = some a ↔ a ∈ l ∧ key a = b := by
  constructor
  · intro found
    exact ⟨List.mem_of_find?_eq_some found, (tests a).1 (List.find?_some found)⟩
  · rintro ⟨mem, here⟩
    cases found : l.find? test with
    | none => exact absurd ((tests a).2 here) (List.find?_eq_none.1 found a mem)
    | some c =>
      -- The search stopped at an entry with the key, and there is only one.
      have there : key c = b := (tests c).1 (List.find?_some found)
      have same : key c = key a := there.trans here.symm
      rw [List.inj_on_of_nodup_map nodup (List.mem_of_find?_eq_some found) mem same]

namespace Definition

/-- No two schemes of the table have the same identifier. -/
lemma nodup_ids : (table.map id).Nodup := by decide

/-- The scheme of an identifier is the one in the table with that identifier. -/
lemma ofId?_eq_some_iff {id : UInt16} {d : Definition} :
    ofId? id = some d ↔ d ∈ table ∧ d.id = id :=
  find?_key_eq_some_iff nodup_ids fun _ => beq_iff_eq

/-- Schemes of the table with the same identifier are the same. -/
lemma eq_of_id {d e : Definition} (left : d ∈ table) (right : e ∈ table) (same : d.id = e.id) :
    d = e :=
  List.inj_on_of_nodup_map nodup_ids left right same

/-- Parameters belong to RSASSA-PSS alone. -/
lemma algorithm_of_params {d : Definition} {p : PssParams}
    (known : d ∈ table) (given : d.params = some p) : d.algorithm = "RSASSA-PSS" := by
  have every : ∀ e ∈ table, e.params.isSome → e.algorithm = "RSASSA-PSS" := by decide
  apply every d known
  simp [given]

end Definition

/-- Where no two schemes have the same identifier, a search by identifier finds the one. -/
lemma Scheme.find?_id_eq_some_iff {l : List Scheme} {id : UInt16} {s : Scheme}
    (nodup : (l.map Scheme.id).Nodup) : l.find? (·.id == id) = some s ↔ s ∈ l ∧ s.id = id :=
  find?_key_eq_some_iff nodup fun _ => beq_iff_eq

/-- A provider that has every algorithm, and whose signature of a message is the message. -/
def Provider.echo : Provider where
  canInstantiate _ := true
  ecAvailable := true
  newSigner algorithm _ _ := .ok (.start algorithm fun chunks => .ok chunks.flatten)
  newVerifier algorithm _ _ :=
    .ok (.start algorithm fun chunks signature => .ok (signature == chunks.flatten))

namespace Registry

/-- A registry that was built on some provider, with some exclusion. -/
inductive IsBuilt : Registry → Prop where
  | build (provider : Provider) (exclusion : Exclusion) :
    IsBuilt (Registry.build provider exclusion).value

/-- A registry that is built has the table with what the provider and the exclusion say of it. -/
lemma value_build (provider : Provider) (exclusion : Exclusion) :
    (Registry.build provider exclusion).value =
      ⟨Definition.table.map fun d => ⟨d, (probe provider exclusion d).value⟩, provider⟩ := by
  have entries := Traced.value_mapAll (check provider exclusion) Definition.table
  exact congrArg (fun schemes => Registry.mk schemes provider) entries

/-- A provider has elliptic curves, if a scheme is for keys on them. -/
def HasCurves (provider : Provider) (d : Definition) : Prop :=
  d.keyAlgorithm = .ec → provider.ecAvailable = true

/-- The question for elliptic curves, which is put for the schemes with keys on them. -/
def curveQuestion (d : Definition) : List Query :=
  if d.keyAlgorithm = .ec then [.ecAvailable] else []

/-- What speaks against a scheme first, after which questions, and at which level it is told. -/
inductive Reason (provider : Provider) (exclusion : Exclusion) (d : Definition) :
    List Query → Notice → Level → Prop where
  | noEllipticCurves (elliptic : d.keyAlgorithm = .ec) (without : provider.ecAvailable = false) :
    Reason provider exclusion d [.ecAvailable] (.noEllipticCurves d) .warn
  | notInstantiable (curves : HasCurves provider d)
    (without : provider.canInstantiate d.algorithm = false) :
    Reason provider exclusion d (curveQuestion d ++ [.canInstantiate d.algorithm])
      (.notInstantiable d) .warn
  | excluded (curves : HasCurves provider d) (has : provider.canInstantiate d.algorithm = true)
    (out : exclusion.excludes d = true) :
    Reason provider exclusion d (curveQuestion d ++ [.canInstantiate d.algorithm, .excludes d])
      (.excluded d) .debug

/-- Whether a scheme is available when it is probed, and what happens on the way. -/
inductive Probed (provider : Provider) (exclusion : Exclusion) (d : Definition) :
    Bool → List Event → Prop where
  | refused {questions : List Query} {notice : Notice}
    (reason : Reason provider exclusion d questions notice notice.level) :
    Probed provider exclusion d false (questions.map .asked ++ [.told notice])
  | available (curves : HasCurves provider d) (has : provider.canInstantiate d.algorithm = true)
    (kept : exclusion.excludes d = false) :
    Probed provider exclusion d true
      ((curveQuestion d ++ [Query.canInstantiate d.algorithm, .excludes d]).map .asked)

/-- A scheme is probed in one of the ways that there are. -/
lemma probed_probe (provider : Provider) (exclusion : Exclusion) (d : Definition) :
    Probed provider exclusion d (probe provider exclusion d).value
      (probe provider exclusion d).events := by
  by_cases curves : HasCurves provider d
  · -- The question for the curves is put or not, and the others are the same after it.
    have first : d.keyAlgorithm = .ec ∧ provider.ecAvailable = true ∨ d.keyAlgorithm ≠ .ec :=
      (em (d.keyAlgorithm = .ec)).imp (fun elliptic => ⟨elliptic, curves elliptic⟩) id
    cases has : provider.canInstantiate d.algorithm with
    | false =>
      have reason : Reason provider exclusion d _ _ .warn := .notInstantiable curves has
      have probed := Probed.refused reason
      rcases first with ⟨elliptic, available⟩ | other
      · simpa [probe, curveQuestion, elliptic, available, has] using probed
      · simpa [probe, curveQuestion, other, has] using probed
    | true =>
      cases out : exclusion.excludes d with
      | false =>
        have probed := Probed.available curves has out
        rcases first with ⟨elliptic, available⟩ | other
        · simpa [probe, curveQuestion, elliptic, available, has, out] using probed
        · simpa [probe, curveQuestion, other, has, out] using probed
      | true =>
        have probed := Probed.refused (.excluded curves has out)
        rcases first with ⟨elliptic, available⟩ | other
        · simpa [probe, curveQuestion, elliptic, available, has, out] using probed
        · simpa [probe, curveQuestion, other, has, out] using probed
  · obtain ⟨elliptic, without⟩ : d.keyAlgorithm = .ec ∧ provider.ecAvailable = false := by
      simpa [HasCurves] using curves
    have reason : Reason provider exclusion d _ _ .warn := .noEllipticCurves elliptic without
    simpa [probe, elliptic, without] using Probed.refused reason

/-- A scheme is available when the provider has what it needs and it is not excluded. -/
lemma Probed.available_iff {provider : Provider} {exclusion : Exclusion} {d : Definition}
    {available : Bool} {trail : List Event}
    (probed : Probed provider exclusion d available trail) :
    available = true ↔ HasCurves provider d ∧ provider.canInstantiate d.algorithm = true ∧
      exclusion.excludes d = false := by
  cases probed with
  | refused reason => cases reason <;> simp [HasCurves, *]
  | available curves has kept => simp [*]

/-- The answer about a scheme, as one condition. -/
lemma value_probe {provider : Provider} {exclusion : Exclusion} {d : Definition} :
    (probe provider exclusion d).value = true ↔ HasCurves provider d ∧
      provider.canInstantiate d.algorithm = true ∧ exclusion.excludes d = false :=
  (probed_probe provider exclusion d).available_iff

/-- The entries of a built registry are the schemes of the table with the answers about them. -/
lemma mem_build {provider : Provider} {exclusion : Exclusion} {s : Scheme} :
    s ∈ (Registry.build provider exclusion).value.schemes ↔
      s.definition ∈ Definition.table ∧
        s.available = (probe provider exclusion s.definition).value := by
  rw [value_build, List.mem_map]
  constructor
  · rintro ⟨d, known, rfl⟩
    exact ⟨known, rfl⟩
  · rintro ⟨known, answer⟩
    exact ⟨s.definition, known, by rw [← answer]⟩

/-- The provider has the algorithms of the available schemes. -/
lemma canInstantiate_of_available {provider : Provider} {exclusion : Exclusion} {s : Scheme}
    (entry : s ∈ (Registry.build provider exclusion).value.schemes)
    (available : s.available = true) : provider.canInstantiate s.algorithm = true := by
  rw [(mem_build.1 entry).2, value_probe] at available
  exact available.2.1

/-- The entries of a built registry are the definitions of the table, in order. -/
lemma IsBuilt.map_definition {r : Registry} (built : r.IsBuilt) :
    r.schemes.map Scheme.definition = Definition.table := by
  cases built with
  | build provider exclusion =>
    rw [value_build, List.map_map]
    exact List.map_id _

/-- The definition of an entry is in the table. -/
lemma IsBuilt.mem_table {r : Registry} {s : Scheme} (built : r.IsBuilt) (entry : s ∈ r.schemes) :
    s.definition ∈ Definition.table := by
  rw [← built.map_definition]
  exact List.mem_map_of_mem entry

/-- No two entries have the same identifier. -/
lemma IsBuilt.nodup_ids {r : Registry} (built : r.IsBuilt) : (r.schemes.map Scheme.id).Nodup := by
  have ids : r.schemes.map Scheme.id = (r.schemes.map Scheme.definition).map Definition.id := by
    rw [List.map_map]; rfl
  rw [ids, built.map_definition]
  exact Definition.nodup_ids

/-- The scheme of an identifier is the entry with that identifier. -/
lemma IsBuilt.ofId?_eq_some_iff {r : Registry} {id : UInt16} {s : Scheme} (built : r.IsBuilt) :
    r.ofId? id = some s ↔ s ∈ r.schemes ∧ s.id = id :=
  Scheme.find?_id_eq_some_iff built.nodup_ids

/-- What an identifier stands for has the definition that it stands for in the table. -/
lemma IsBuilt.map_definition_ofId? {r : Registry} (built : r.IsBuilt) (id : UInt16) :
    (r.ofId? id).map Scheme.definition = Definition.ofId? id := by
  rw [Definition.ofId?, ← built.map_definition, List.find?_map]
  rfl

/-- Entries with one identifier have one definition, whichever registries they come from. -/
lemma IsBuilt.definition_eq {r q : Registry} {s t : Scheme} (builtR : r.IsBuilt)
    (builtQ : q.IsBuilt) (entryR : s ∈ r.schemes) (entryQ : t ∈ q.schemes) (same : s.id = t.id) :
    s.definition = t.definition :=
  Definition.eq_of_id (builtR.mem_table entryR) (builtQ.mem_table entryQ) same

end Registry

end SchemeNegotiation
