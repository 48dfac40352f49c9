import SchemeNegotiation.Proofs.AllowList

/-!
# Names and identifiers

Every identifier has a name of its own, and no two names differ in case alone
(`NameOf.eq_of_upper_eq`). Most names are put together from the two bytes of the identifier. They
have one underscore, and what stands on either side of it says which byte it is the name of
(`eq_of_upper_nameAt`). A scheme of the table has the name that its bytes give, or a name with
another number of underscores. So the name of an identifier finds the scheme with that identifier,
and no other, in whatever registry and in whatever case (`Registry.naming_build`).
-/

namespace SchemeNegotiation

open Text

/-- The number of underscores in a text. -/
def underscores (s : String) : Nat :=
  s.toList.count '_'

/-- The name of an identifier, by where it comes from. -/
inductive NameOf : UInt16 → String → Prop where
  | paired (id : UInt16) : NameOf id (pairName id)
  | own {d : Definition} (listed : d ∈ Definition.table) (unpaired : underscores d.name ≠ 1) :
    NameOf d.id d.name

/-- What the names in a registry have to do with identifiers. -/
structure Registry.Naming (r : Registry) : Prop where
  /-- A registry names identifiers as they are named without one. -/
  nameOfId : ∀ id, r.nameOfId id = SchemeNegotiation.nameOfId id
  /-- The names of two identifiers do not differ in case alone. -/
  apart : ∀ m n, m ≠ n →
    upper (SchemeNegotiation.nameOfId m) ≠ upper (SchemeNegotiation.nameOfId n)
  /-- The name of a known identifier, in any case, is the name of its scheme. -/
  known : ∀ id text, upper text = upper (SchemeNegotiation.nameOfId id) →
    (∃ d ∈ Definition.table, d.id = id) → ∃ s ∈ r.schemes, s.id = id ∧ r.ofName? text = some s
  /-- The name of any other identifier, in any case, is the name of no scheme. -/
  unknown : ∀ id text, upper text = upper (SchemeNegotiation.nameOfId id) →
    (¬ ∃ d ∈ Definition.table, d.id = id) → r.ofName? text = none
  /-- A text finds the entry with that name, in any case. -/
  found : ∀ text s, r.ofName? text = some s ↔ s ∈ r.schemes ∧ upper s.name = upper text
  /-- What it finds is the same as a scheme, which may be of another registry, with that name. -/
  same : ∀ text (t : Scheme), t.definition ∈ Definition.table →
    ((∃ s, r.ofName? text = some s ∧ s.same t = true) ↔ upper t.name = upper text)

/-- Upper case keeps the number of underscores. -/
lemma underscores_upper (s : String) : underscores (upper s) = underscores s := by
  have other : (· == '_') ∘ Char.toUpper = (· == '_') := by
    funext c
    rw [Function.comp_apply, Bool.eq_iff_iff, beq_iff_eq, beq_iff_eq, toUpper_eq_iff (by decide)]
  rw [underscores, toList_upper, List.count, List.countP_map, other]
  rfl

/-! ### Names of pairs of bytes -/

/-- A table of names without underscores gives names without underscores. -/
lemma underscore_notMem_nameAt {names : List String} {label : String}
    (without : ∀ s ∈ label :: names, '_' ∉ s.toList) (n : Nat) :
    '_' ∉ (nameAt names label n).toList := by
  unfold nameAt
  split
  case h_1 name found =>
    exact without name (List.mem_cons_of_mem label (List.mem_of_getElem? found))
  case h_2 =>
    have front : '_' ∉ label.toList := without label List.mem_cons_self
    have digits : '_' ∉ Nat.toDigits 10 n := Nat.underscore_not_in_toDigits
    simp [front, digits]

/-- Names of lists are told from numbers of places by their brackets. -/
lemma bracket_mem_nameAt_iff {names : List String} (plain : ∀ s ∈ names, '(' ∉ s.toList)
    (label : String) (n : Nat) : '(' ∈ (nameAt names label n).toList ↔ names[n]? = none := by
  unfold nameAt
  split
  case h_1 name found =>
    rw [found]
    exact iff_of_false (plain name (List.mem_of_getElem? found)) nofun
  case h_2 none => simp [none]

/-- Numbers have no case. -/
lemma upper_repr (n : Nat) : upper n.repr = n.repr := by
  apply upper_eq_self
  intro c mem
  rw [Nat.toList_repr] at mem
  have digit := Nat.isDigit_of_mem_toDigits (by decide) (by decide) mem
  have range : 48 ≤ c.toNat ∧ c.toNat ≤ 57 := Char.isDigit_iff_toNat.1 digit
  rw [Bool.eq_false_iff, ne_eq, isLower_iff]
  omega

/-- A place is known by its name, in whatever case. -/
lemma eq_of_upper_nameAt {names : List String} {label : String}
    (nodup : (names.map upper).Nodup) (plain : ∀ s ∈ names, '(' ∉ s.toList) {m n : Nat}
    (same : upper (nameAt names label m) = upper (nameAt names label n)) : m = n := by
  -- Raising keeps the brackets, so either both places have a name or neither has.
  have both : names[m]? = none ↔ names[n]? = none := by
    rw [← bracket_mem_nameAt_iff plain label m, ← bracket_mem_nameAt_iff plain label n,
      ← mem_upper_iff (by decide), same, mem_upper_iff (by decide)]
  cases left : names[m]? with
  | none =>
    have right : names[n]? = none := both.1 left
    simp only [nameAt, left, right, upper_append, upper_repr] at same
    have reprs : m.repr = n.repr :=
      (String.append_right_inj _).1 ((String.append_left_inj _).1 same)
    rw [← String.toList_inj, Nat.toList_repr, Nat.toList_repr] at reprs
    -- The digits of a number have no case, and they are read back.
    calc m
      _ = Nat.ofDigitChars 10 (Nat.toDigits 10 m) 0 := Nat.ofDigitChars_ten_toDigits.symm
      _ = Nat.ofDigitChars 10 (Nat.toDigits 10 n) 0 := by rw [reprs]
      _ = n := Nat.ofDigitChars_ten_toDigits
  | some s =>
    obtain ⟨t, right⟩ : ∃ t, names[n]? = some t := by
      rw [← Option.ne_none_iff_exists', ne_eq, ← both, left]
      nofun
    simp only [nameAt, left, right] at same
    have inside : m < (names.map upper).length := by
      rw [List.length_map]
      exact (List.getElem?_eq_some_iff.1 left).1
    apply (List.getElem?_inj inside nodup).1
    rw [List.getElem?_map, List.getElem?_map, left, right, Option.map_some, Option.map_some, same]

/-- The name of a signature byte has no underscore. -/
lemma underscore_notMem_signature (n : Nat) :
    '_' ∉ (nameAt pairedSignatures "UNDEFINED-SIGNATURE" n).toList :=
  underscore_notMem_nameAt (by decide) n

/-- The name of a hash byte has no underscore. -/
lemma underscore_notMem_hash (n : Nat) :
    '_' ∉ (nameAt pairedHashes "UNDEFINED-HASH" n).toList :=
  underscore_notMem_nameAt (by decide) n

/-- A name that is put together from two bytes has one underscore. -/
lemma underscores_pairName (id : UInt16) : underscores (pairName id) = 1 := by
  have front := underscore_notMem_signature (id.toNat % 256)
  have back := underscore_notMem_hash (id.toNat / 256)
  rw [underscores, pairName, String.toList_append, String.toList_append, List.count_append,
    List.count_append, List.count_eq_zero.2 front, List.count_eq_zero.2 back]
  rfl

/-- The two bytes of an identifier are on either side of the underscore. -/
lemma eq_of_upper_pairName {m n : UInt16} (same : upper (pairName m) = upper (pairName n)) :
    m = n := by
  have front (k : Nat) : '_' ∉ (upper (nameAt pairedSignatures "UNDEFINED-SIGNATURE" k)).toList :=
    (mem_upper_iff (by decide)).not.2 (underscore_notMem_signature k)
  have back (k : Nat) : '_' ∉ (upper (nameAt pairedHashes "UNDEFINED-HASH" k)).toList :=
    (mem_upper_iff (by decide)).not.2 (underscore_notMem_hash k)
  have cut (k : UInt16) : (upper (pairName k)).toList =
      (upper (nameAt pairedSignatures "UNDEFINED-SIGNATURE" (k.toNat % 256))).toList ++
        '_' :: (upper (nameAt pairedHashes "UNDEFINED-HASH" (k.toNat / 256))).toList := by
    rw [pairName, upper_append, upper_append, String.toList_append, String.toList_append,
      List.append_assoc]
    rfl
  rw [← String.toList_inj, cut, cut] at same
  obtain ⟨signature, -, hash⟩ := (List.append_cons_inj_of_notMem (front _) (back _)).1 same
  have low : m.toNat % 256 = n.toNat % 256 :=
    eq_of_upper_nameAt (by decide) (by decide) (String.toList_inj.1 signature)
  have high : m.toNat / 256 = n.toNat / 256 :=
    eq_of_upper_nameAt (by decide) (by decide) (String.toList_inj.1 hash)
  apply UInt16.toNat_inj.1
  omega

/-! ### Names of identifiers -/

/-- The identifier of a scheme of the table has the name of the scheme. -/
lemma nameOfId_eq {d : Definition} (listed : d ∈ Definition.table) : nameOfId d.id = d.name := by
  rw [nameOfId, Definition.ofId?_eq_some_iff.2 ⟨listed, rfl⟩]

/-- The name of every identifier comes from somewhere. -/
lemma nameOf_nameOfId (id : UInt16) : NameOf id (nameOfId id) := by
  have every : ∀ d ∈ Definition.table, d.name = pairName d.id ∨ underscores d.name ≠ 1 := by
    decide +kernel
  unfold nameOfId
  cases found : Definition.ofId? id with
  | none => exact .paired id
  | some d =>
    obtain ⟨listed, rfl⟩ := Definition.ofId?_eq_some_iff.1 found
    cases every d listed with
    | inl paired => exact paired ▸ .paired d.id
    | inr unpaired => exact .own listed unpaired

/-- Names that differ in case alone are names of one identifier. -/
lemma NameOf.eq_of_upper_eq {m n : UInt16} {s t : String} (left : NameOf m s) (right : NameOf n t)
    (same : upper s = upper t) : m = n := by
  -- The number of underscores tells a name that the bytes give from one that they do not.
  have count : underscores s = underscores t := by
    rw [← underscores_upper s, same, underscores_upper]
  cases left with
  | paired =>
    cases right with
    | paired => exact eq_of_upper_pairName same
    | own listed unpaired => exact absurd (count.symm.trans (underscores_pairName m)) unpaired
  | own listed unpaired =>
    cases right with
    | paired => exact absurd (count.trans (underscores_pairName n)) unpaired
    | own known _ => rw [List.inj_on_of_nodup_map Definition.nodup_upper_names listed known same]

namespace Registry

variable {r : Registry}

/-- The scheme of a name is the entry with that name, in whatever case. -/
lemma IsBuilt.ofName?_eq_some_iff (built : r.IsBuilt) {text : String} {s : Scheme} :
    r.ofName? text = some s ↔ s ∈ r.schemes ∧ upper s.name = upper text := by
  have nodup : (r.schemes.map fun s => upper s.name).Nodup := by
    have names := Definition.nodup_upper_names
    rw [← built.map_definition, List.map_map] at names
    exact names
  exact find?_key_eq_some_iff nodup fun _ => sameLetters_iff

/-- A registry has an entry for every scheme of the table. -/
lemma IsBuilt.exists_entry (built : r.IsBuilt) {d : Definition} (listed : d ∈ Definition.table) :
    ∃ s ∈ r.schemes, s.definition = d := by
  rw [← built.map_definition] at listed
  exact List.mem_map.1 listed

/-- A registry names identifiers as they are named without one. -/
lemma IsBuilt.nameOfId_eq (built : r.IsBuilt) (id : UInt16) :
    r.nameOfId id = SchemeNegotiation.nameOfId id := by
  rw [nameOfId, SchemeNegotiation.nameOfId, ← built.map_definition_ofId? id]
  cases r.ofId? id <;> rfl

/-- Names and identifiers go together in every registry, whatever is available in it. -/
theorem naming_build (provider : Provider) (exclusion : Exclusion) :
    (Registry.build provider exclusion).value.Naming := by
  have built : IsBuilt (Registry.build provider exclusion).value := .build provider exclusion
  have apart {m n : UInt16} (same : upper (SchemeNegotiation.nameOfId m) =
      upper (SchemeNegotiation.nameOfId n)) : m = n :=
    (nameOf_nameOfId m).eq_of_upper_eq (nameOf_nameOfId n) same
  exact {
    nameOfId := built.nameOfId_eq
    apart := fun m n differ same => differ (apart same)
    known := by
      rintro id text named ⟨d, listed, rfl⟩
      obtain ⟨s, entry, rfl⟩ := built.exists_entry listed
      rw [SchemeNegotiation.nameOfId_eq listed] at named
      exact ⟨s, entry, rfl, built.ofName?_eq_some_iff.2 ⟨entry, named.symm⟩⟩
    unknown := by
      intro id text named absent
      rw [Option.eq_none_iff_forall_ne_some]
      intro s found
      obtain ⟨entry, letters⟩ := built.ofName?_eq_some_iff.1 found
      have listed := built.mem_table entry
      have own : SchemeNegotiation.nameOfId s.id = s.name := SchemeNegotiation.nameOfId_eq listed
      rw [named, ← own] at letters
      exact absent ⟨s.definition, listed, apart letters⟩
    found := fun text s => built.ofName?_eq_some_iff
    same := by
      intro text t listed
      simp only [built.ofName?_eq_some_iff, Scheme.same, beq_iff_eq]
      constructor
      · rintro ⟨s, ⟨entry, named⟩, ids⟩
        have definitions := Definition.eq_of_id (built.mem_table entry) listed ids
        rw [← named, Scheme.name, Scheme.name, definitions]
      · intro named
        obtain ⟨s, entry, definitions⟩ := built.exists_entry listed
        refine ⟨s, ⟨entry, ?_⟩, congrArg Definition.id definitions⟩
        rw [← named, Scheme.name, Scheme.name, definitions] }

end Registry

end SchemeNegotiation
