import Mathlib.Logic.Basic
import Mathlib.Tactic.Lemma

/-!
# First entries

Searching a list from its start gives the first entry with a property. `FirstAt` says which entry
that is by its place, so that the results of two searches can be compared.
-/

namespace SchemeNegotiation

/-- The entry at a place of a list is the first one with a property. -/
structure FirstAt {α : Type} (p : α → Prop) (l : List α) (i : Nat) (a : α) : Prop where
  entry : l[i]? = some a
  holds : p a
  earlier : ∀ j < i, ∀ b, l[j]? = some b → ¬ p b

namespace FirstAt

variable {α β : Type} {p : α → Prop} {l : List α} {i j : Nat} {a b : α}

/-- An entry with the property does not stand before the first one. -/
lemma le (first : FirstAt p l i a) (entry : l[j]? = some b) (holds : p b) : i ≤ j := by
  apply Nat.le_of_not_lt
  intro before
  exact first.earlier j before b entry holds

/-- The first entry is the same for properties that the same entries have. -/
lemma congr {q : α → Prop} (same : ∀ b ∈ l, p b ↔ q b) : FirstAt p l i a ↔ FirstAt q l i a := by
  have transfer {p q : α → Prop} (same : ∀ b ∈ l, p b ↔ q b) (first : FirstAt p l i a) :
      FirstAt q l i a := by
    refine ⟨first.entry, (same a (List.mem_of_getElem? first.entry)).1 first.holds, ?_⟩
    intro j before b entry holds
    exact first.earlier j before b entry ((same b (List.mem_of_getElem? entry)).2 holds)
  exact ⟨transfer same, transfer fun b mem => (same b mem).symm⟩

/-- What stands in front of a place is what is taken up to it. -/
lemma iff_take : FirstAt p l i a ↔ l[i]? = some a ∧ p a ∧ ∀ b ∈ l.take i, ¬ p b := by
  constructor
  · intro first
    refine ⟨first.entry, first.holds, ?_⟩
    intro b mem
    obtain ⟨j, bound, rfl⟩ := List.mem_take_iff_getElem.1 mem
    apply first.earlier j (by omega)
    exact List.getElem?_eq_getElem _
  · rintro ⟨entry, holds, without⟩
    refine ⟨entry, holds, ?_⟩
    intro j before b place
    apply without b
    rw [← List.getElem?_take_of_lt before] at place
    exact List.mem_of_getElem? place

/-- What stands in front of the first entry does not have the property. -/
lemma iff_append :
    FirstAt p l i a ↔
      ∃ front back, l = front ++ a :: back ∧ front.length = i ∧ p a ∧ ∀ b ∈ front, ¬ p b := by
  constructor
  · intro first
    obtain ⟨entry, holds, without⟩ := iff_take.1 first
    obtain ⟨inside, rfl⟩ := List.getElem?_eq_some_iff.1 entry
    refine ⟨l.take i, l.drop (i + 1), ?_, ?_, holds, without⟩
    · rw [List.getElem_cons_drop, List.take_append_drop]
    · rw [List.length_take, Nat.min_eq_left (Nat.le_of_lt inside)]
  · rintro ⟨front, back, rfl, rfl, holds, without⟩
    refine ⟨by simp, holds, ?_⟩
    intro j before b entry
    rw [List.getElem?_append_left before] at entry
    exact without b (List.mem_of_getElem? entry)

/-- A search for a result stops at the first entry that has one. -/
lemma findSome?_eq_some_iff {f : α → Option β} {r : α → β → Prop} {c : β}
    (result : ∀ x y, f x = some y ↔ r x y) :
    l.findSome? f = some c ↔ ∃ i a, FirstAt (fun x => ∃ y, r x y) l i a ∧ r a c := by
  have without {x : α} : f x = none ↔ ¬ ∃ y, r x y := by
    rw [Option.eq_none_iff_forall_ne_some, not_exists]
    exact forall_congr' fun y => not_congr (result x y)
  -- The list is cut at the entry where the search stops: nothing in front of it has a result.
  rw [List.findSome?_eq_some_iff]
  constructor
  · rintro ⟨front, a, back, rfl, found, unfit⟩
    have fit := (result a c).1 found
    refine ⟨front.length, a, iff_append.2 ⟨front, back, rfl, rfl, ⟨c, fit⟩, ?_⟩, fit⟩
    intro x mem
    exact without.1 (unfit x mem)
  · rintro ⟨i, a, first, fit⟩
    obtain ⟨front, back, rfl, -, -, unfit⟩ := iff_append.1 first
    exact ⟨front, a, back, rfl, (result a c).2 fit, fun x mem => without.2 (unfit x mem)⟩

/-- A search for a result fails when no entry has one. -/
lemma findSome?_eq_none_iff {f : α → Option β} {r : α → β → Prop}
    (result : ∀ x y, f x = some y ↔ r x y) :
    l.findSome? f = none ↔ ∀ x ∈ l, ∀ y, ¬ r x y := by
  rw [List.findSome?_eq_none_iff]
  refine forall_congr' fun x => imp_congr_right fun _ => ?_
  rw [Option.eq_none_iff_forall_ne_some]
  exact forall_congr' fun y => not_congr (result x y)

/-- Searching what a list is narrowed to is searching the list. -/
lemma findSome?_filterMap {γ : Type} (f : α → Option β) (g : β → Option γ) (l : List α) :
    (l.filterMap f).findSome? g = l.findSome? fun a => (f a).bind g := by
  induction l with
  | nil => rfl
  | cons a rest ih =>
    cases kept : f a with
    | none => simp [kept, ih]
    | some b => cases found : g b <;> simp [kept, found, ih]

/-- A search by a test stops at the first entry that passes it. -/
lemma find?_eq_some_iff {q : α → Bool} :
    l.find? q = some a ↔ ∃ i, FirstAt (fun x => q x = true) l i a := by
  rw [List.find?_eq_some_iff_append]
  constructor
  · rintro ⟨holds, front, back, rfl, without⟩
    refine ⟨front.length, iff_append.2 ⟨front, back, rfl, rfl, holds, ?_⟩⟩
    intro x mem
    simpa using without x mem
  · rintro ⟨i, first⟩
    obtain ⟨front, back, rfl, -, holds, without⟩ := iff_append.1 first
    exact ⟨holds, front, back, rfl, fun x mem => by simpa using without x mem⟩

/-- If some entry has the property then there is a first one. -/
lemma exists_of_mem (mem : a ∈ l) (holds : p a) : ∃ i b, FirstAt p l i b := by
  -- The property need not be decidable, so the search that finds the entry is a classical one.
  classical
  have found : (l.find? fun x => decide (p x)).isSome := by
    rw [List.find?_isSome]
    exact ⟨a, mem, decide_eq_true holds⟩
  obtain ⟨b, stop⟩ := Option.isSome_iff_exists.1 found
  obtain ⟨i, first⟩ := find?_eq_some_iff.1 stop
  simp only [decide_eq_true_eq] at first
  exact ⟨i, b, first⟩

/-- A property that more entries have is had no later. -/
lemma exists_le {q : α → Prop} (more : ∀ b ∈ l, p b → q b) (first : FirstAt p l i a) :
    ∃ j b, FirstAt q l j b ∧ j ≤ i := by
  have mem := List.mem_of_getElem? first.entry
  have holds := more a mem first.holds
  obtain ⟨j, b, earliest⟩ := exists_of_mem mem holds
  exact ⟨j, b, earliest, earliest.le first.entry holds⟩

end FirstAt

end SchemeNegotiation
