import Mathlib.Data.List.Forall2
import SchemeNegotiation.Proofs.Registry

/-!
# The making of a registry

A registry is made by probing the schemes of the table one after the other. What happens is what
happens at each of them, in order, so every scheme that is not available is told about once, and no
other is. The entries, and what is found among them, follow from the table and the answers
(`Registry.exact_build`).
-/

namespace SchemeNegotiation

/-- The notice that an event is, if it is one. -/
def Event.notice? : Event → Option Notice
  | .asked _ => none
  | .told notice => some notice

namespace Registry

/-- The notices among some events. -/
def notices (events : List Event) : List Notice :=
  events.filterMap Event.notice?

/-- The notices of two trails, one after the other, are those of the one and then of the other. -/
lemma notices_append (left right : List Event) :
    notices (left ++ right) = notices left ++ notices right :=
  List.filterMap_append

/-- There are no notices among questions. -/
lemma notices_asked (questions : List Query) : notices (questions.map .asked) = [] := by
  rw [notices, List.filterMap_eq_nil_iff]
  rintro _ mem
  obtain ⟨question, -, rfl⟩ := List.mem_map.1 mem
  rfl

/-- The questions about a scheme differ. -/
lemma nodup_questions (d : Definition) :
    (curveQuestion d ++ [Query.canInstantiate d.algorithm, .excludes d]).Nodup := by
  unfold curveQuestion
  split <;> simp

variable {provider : Provider} {exclusion : Exclusion} {d : Definition}

/-- No question is put twice on the way to a reason. -/
lemma Reason.nodup {questions : List Query} {notice : Notice} {level : Level}
    (reason : Reason provider exclusion d questions notice level) : questions.Nodup := by
  cases reason with
  | noEllipticCurves => exact List.nodup_singleton _
  | notInstantiable =>
    refine (nodup_questions d).sublist (List.Sublist.append_left ?_ _)
    exact (List.nil_sublist _).cons_cons _
  | excluded => exact nodup_questions d

/-- Nothing happens twice when a scheme is probed. -/
lemma Probed.nodup {available : Bool} {trail : List Event}
    (probed : Probed provider exclusion d available trail) : trail.Nodup := by
  have injective : Function.Injective Event.asked := fun _ _ => Event.asked.inj
  cases probed with
  | refused reason =>
    refine (reason.nodup.map injective).append (List.nodup_singleton _) ?_
    simp
  | available => exact (nodup_questions d).map injective

/-- The notice about a scheme that is not available is the reason for it. -/
lemma Probed.notices {available : Bool} {trail : List Event}
    (probed : Probed provider exclusion d available trail) :
    available = true ∧ notices trail = [] ∨ available = false ∧ ∃ notice asked,
      notices trail = [notice] ∧ Reason provider exclusion d asked notice notice.level := by
  cases probed with
  | available => exact .inl ⟨rfl, notices_asked _⟩
  | @refused asked notice reason =>
    refine .inr ⟨rfl, notice, asked, ?_, reason⟩
    rw [notices_append, notices_asked]
    rfl

/-- Entries with what happened when they were probed. -/
abbrev AllProbed (provider : Provider) (exclusion : Exclusion) :
    List Scheme → List (List Event) → Prop :=
  List.Forall₂ fun s => Probed provider exclusion s.definition s.available

/-- Nor does it in any of the trails of a registry. -/
lemma AllProbed.nodup {entries : List Scheme} {trails : List (List Event)}
    (probed : AllProbed provider exclusion entries trails) : ∀ trail ∈ trails, trail.Nodup := by
  induction probed with
  | nil => exact List.forall_mem_nil _
  | cons head _ ih => exact List.forall_mem_cons.2 ⟨head.nodup, ih⟩

/-- Over a list of entries, each that is not available is told about once. -/
lemma AllProbed.told {entries : List Scheme} {trails : List (List Event)}
    (probed : AllProbed provider exclusion entries trails) :
    List.Forall₂
      (fun s notice => ∃ asked, Reason provider exclusion s.definition asked notice notice.level)
      (entries.filter (!·.available)) (Registry.notices trails.flatten) := by
  induction probed with
  | nil => exact .nil
  | @cons s trail entries trails head _ ih =>
    rw [List.flatten_cons, notices_append]
    rcases head.notices with ⟨available, none⟩ | ⟨unavailable, notice, asked, one, reason⟩
    · rw [none, List.filter_cons_of_neg (by simp [available])]
      exact ih
    · rw [one, List.filter_cons_of_pos (by simp [unavailable])]
      exact .cons ⟨asked, reason⟩ ih

/-- What happens when a registry is made is what happens at its entries, in order. -/
lemma allProbed_build (provider : Provider) (exclusion : Exclusion) :
    ∃ trails, (Registry.build provider exclusion).events = trails.flatten ∧
      AllProbed provider exclusion (Registry.build provider exclusion).value.schemes trails := by
  refine ⟨Definition.table.map fun d => (check provider exclusion d).events, ?_, ?_⟩
  · rw [← List.flatMap_def, ← Traced.events_mapAll]
    exact List.append_nil _
  · rw [value_build, AllProbed, List.forall₂_map_left_iff, List.forall₂_map_right_iff]
    refine List.forall₂_same.2 fun d _ => ?_
    simpa [check] using probed_probe provider exclusion d

/-- A registry that was made on a provider with an exclusion, and what happened then. -/
structure Exact (p : Provider) (exclusion : Exclusion) (built : Traced Registry) : Prop where
  /-- There is one entry for each scheme of the table, in its order. -/
  definitions : built.value.schemes.map Scheme.definition = Definition.table
  provider : built.value.provider = p
  available : ∀ s ∈ built.value.schemes, s.available = true ↔
    (s.keyAlgorithm ≠ .ec ∨ p.ecAvailable = true) ∧ p.canInstantiate s.algorithm = true ∧
      exclusion.excludes s.definition = false
  /-- What happens is what happens at one entry after the other, and nothing twice at one. -/
  trails : ∃ trails, built.events = trails.flatten ∧
    AllProbed p exclusion built.value.schemes trails ∧ ∀ trail ∈ trails, trail.Nodup
  /-- Each entry that is not available is told about once, with the reason, and no other is. -/
  told : List.Forall₂
    (fun s notice => ∃ asked, Reason p exclusion s.definition asked notice notice.level)
    (built.value.schemes.filter (!·.available)) (notices built.events)
  /-- An identifier stands for an entry if the table has it, and for the one with it. -/
  found : ∀ id, (built.value.ofId? id).map Scheme.definition = Definition.ofId? id ∧
    ∀ s, built.value.ofId? id = some s → s ∈ built.value.schemes ∧ s.id = id
  /-- The available entries are those of all that are available, in order. -/
  sublist : built.value.available.Sublist built.value.schemes ∧
    ∀ s, s ∈ built.value.available ↔ s ∈ built.value.schemes ∧ s.available = true

/-- What a registry holds when it is made, and what happens on the way, come from the answers. -/
theorem exact_build (provider : Provider) (exclusion : Exclusion) :
    Exact provider exclusion (Registry.build provider exclusion) := by
  have built := IsBuilt.build provider exclusion
  obtain ⟨trails, events, probed⟩ := allProbed_build provider exclusion
  exact {
    definitions := built.map_definition
    provider := by rw [value_build]
    available := by
      intro s entry
      rw [(mem_build.1 entry).2, value_probe, HasCurves, Decidable.imp_iff_not_or]
    trails := ⟨trails, events, probed, probed.nodup⟩
    told := by
      rw [events]
      exact probed.told
    found := by
      intro id
      exact ⟨built.map_definition_ofId? id, fun s found => built.ofId?_eq_some_iff.1 found⟩
    sublist := ⟨List.filter_sublist, fun s => List.mem_filter⟩ }

end Registry

end SchemeNegotiation
