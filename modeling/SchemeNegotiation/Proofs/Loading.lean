import SchemeNegotiation.Proofs.Storage

/-!
# Loading allow-lists

The trees that are read as identifiers are known (`AllowList.Gives`). Loading identifiers succeeds
when there are none or one of them is known, and comes to the list that is made of them. Every list
that can be made, read or loaded (`AllowList.IsBuilt`) has known identifiers that differ, so a valid
one is loaded as it was kept, and keeping what was loaded changes the tree no more
(`AllowList.valid_loads`).
-/

namespace SchemeNegotiation

namespace Stored

/-- What is read as an identifier is the number that it is. -/
lemma word?_eq_some_iff {s : Stored} {n : UInt16} : s.word? = some n ↔ s = .natural n.toNat := by
  constructor
  · intro read
    obtain ⟨m, below, rfl⟩ := Option.map_eq_some_iff.1 read
    cases s with
    | natural k =>
      rw [below?] at below
      split at below
      · cases below
        rename_i fits
        rw [UInt16.toNat_ofNat_of_lt' fits]
      · cases below
    | _ => cases below
  · rintro rfl
    exact word?_natural n

/-- A tree is read as a list when it is the list of what is kept of the entries. -/
lemma listOf?_eq_some_iff {α : Type} {keep : α → Stored} {read : Stored → Option α}
    (reads : ∀ s a, read s = some a ↔ s = keep a) {s : Stored} {l : List α} :
    listOf? read s = some l ↔ s = .list (l.map keep) := by
  constructor
  · intro found
    cases s with
    | list items =>
      rw [listOf?] at found
      induction items generalizing l with
      | nil =>
        cases found
        rfl
      | cons item items ih =>
        rw [List.mapM_cons] at found
        obtain ⟨a, here, found⟩ := Option.bind_eq_some_iff.1 found
        obtain ⟨rest, later, found⟩ := Option.bind_eq_some_iff.1 found
        cases found
        have tail := ih later
        rw [(reads item a).1 here, List.map_cons, (list.injEq items _).mp tail]
    | _ => cases found
  · rintro rfl
    exact listOf?_map (fun a => (reads _ a).2 rfl) l

section

variable {name : String} {fields : List (String × Stored)}

/-- Nothing stands under a name that is the name of no field. -/
lemma under_eq_nil_iff : under name fields = [] ↔ name ∉ fields.map Prod.fst := by
  rw [under, List.map_eq_nil_iff, List.filter_eq_nil_iff]
  constructor
  · intro other mem
    obtain ⟨field, mem, named⟩ := List.mem_map.1 mem
    exact other field mem (beq_iff_eq.2 named)
  · intro absent field mem named
    exact absent (List.mem_map.2 ⟨field, mem, beq_iff_eq.1 named⟩)

/-- What stands under a name in two parts of a record stands there in the record. -/
lemma under_append (before after : List (String × Stored)) :
    under name (before ++ after) = under name before ++ under name after := by
  rw [under, List.filter_append, List.map_append]
  rfl

/-- What a field holds stands under its name. -/
lemma under_cons_self (value : Stored) :
    under name ((name, value) :: fields) = value :: under name fields := by
  simp [under]

/-- One tree stands under a name when it is the name of one field, and of none on either side. -/
lemma under_eq_singleton_iff {value : Stored} :
    under name fields = [value] ↔ ∃ before after, fields = before ++ (name, value) :: after ∧
      name ∉ before.map Prod.fst ∧ name ∉ after.map Prod.fst := by
  constructor
  · intro once
    obtain ⟨⟨key, found⟩, rest, kept, rfl, noMore⟩ := List.map_eq_cons_iff.1 once
    obtain ⟨before, after, rfl, absent, here, later⟩ := List.filter_eq_cons_iff.1 kept
    obtain rfl : key = name := beq_iff_eq.1 here
    rw [List.map_eq_nil_iff] at noMore
    refine ⟨before, after, rfl, ?_, ?_⟩
    · rw [← under_eq_nil_iff, under, List.map_eq_nil_iff, List.filter_eq_nil_iff]
      exact absent
    · rw [← under_eq_nil_iff, under, later, noMore, List.map_nil]
  · rintro ⟨before, after, rfl, absent, noMore⟩
    rw [under_append, under_cons_self, under_eq_nil_iff.2 absent, under_eq_nil_iff.2 noMore,
      List.nil_append]

end

end Stored

namespace AllowList

open Text

/-- The tree of some identifiers. -/
def idsTree (ids : List UInt16) : Stored :=
  .list (ids.map fun id => .natural id.toNat)

/-- A tree that gives some identifiers. In a record they stand in one field, or are left out. -/
inductive Gives : Stored → List UInt16 → Prop where
  | field {before after} (ids) (first : idsField ∉ before.map Prod.fst)
    (last : idsField ∉ after.map Prod.fst) :
    Gives (.record (before ++ (idsField, idsTree ids) :: after)) ids
  | missing {fields} (missing : idsField ∉ fields.map Prod.fst) : Gives (.record fields) []
  | items (ids) : Gives (.list [idsTree ids]) ids
  | noItems : Gives (.list []) []

/-- The identifiers that are read from a tree are those that it gives. -/
lemma storedIds?_eq_some_iff {s : Stored} {ids : List UInt16} :
    storedIds? s = some ids ↔ Gives s ids := by
  have reads {t : Stored} {ids : List UInt16} :
      t.listOf? Stored.word? = some ids ↔ t = idsTree ids :=
    Stored.listOf?_eq_some_iff fun _ _ => Stored.word?_eq_some_iff
  constructor
  · intro found
    cases s with
    | record fields =>
      rw [storedIds?] at found
      split at found
      case h_1 missing =>
        cases found
        exact .missing (Stored.under_eq_nil_iff.1 missing)
      case h_2 t once =>
        rw [reads.1 found] at once
        obtain ⟨before, after, rfl, first, last⟩ := Stored.under_eq_singleton_iff.1 once
        exact .field ids first last
      case h_3 => cases found
    | list items =>
      cases items with
      | nil =>
        cases found
        exact .noItems
      | cons t rest =>
        cases rest with
        | nil =>
          rw [reads.1 found]
          exact .items ids
        | cons => cases found
    | _ => cases found
  · intro gives
    cases gives with
    | field _ first last =>
      rw [storedIds?, Stored.under_eq_singleton_iff.2 ⟨_, _, rfl, first, last⟩]
      exact reads.2 rfl
    | missing missing => rw [storedIds?, Stored.under_eq_nil_iff.2 missing]
    | items => exact reads.2 rfl
    | noItems => rfl

/-- A list that is made, read of the environment variable, or loaded. -/
inductive IsBuilt : AllowList → Prop where
  | unrestricted : IsBuilt unrestricted
  | made (source : Source) : IsBuilt source.list
  | ofVariable {value? l} (read : (ofVariable value?).value = .ok l) : IsBuilt l
  | ofStored {s l} (loaded : ofStored s = .ok l) : IsBuilt l

variable {l m : AllowList}

/-- A list that passes validation is not changed by it. -/
lemma eq_of_validated (valid : l.validated = .ok m) : m = l := by
  rw [validated] at valid
  cases checked : l.validate with
  | ok =>
    rw [checked] at valid
    cases valid
    rfl
  | error =>
    rw [checked] at valid
    cases valid

namespace IsBuilt

/-- Whatever is built could have been made of identifiers, names or a text. -/
lemma exists_source (built : l.IsBuilt) : ∃ source : Source, l = source.list := by
  cases built with
  | unrestricted => exact ⟨.ids [], rfl⟩
  | made source => exact ⟨source, rfl⟩
  | @ofVariable value? _ read =>
    cases value? with
    | none =>
      cases read
      exact ⟨.ids [], rfl⟩
    | some value =>
      cases text : String.fromUTF8? value with
      | none =>
        rw [AllowList.ofVariable, text] at read
        cases read
      | some text' =>
        rw [value_ofVariable text] at read
        refine ⟨.text (unquote text'), ?_⟩
        rw [eq_of_validated read]
        exact (value_ofNames _).symm
  | @ofStored s _ loaded =>
    rw [AllowList.ofStored] at loaded
    cases given : storedIds? s with
    | none =>
      rw [given] at loaded
      cases loaded
    | some ids =>
      rw [given] at loaded
      cases checked : (ofIds ids).validated with
      | error =>
        simp only [checked] at loaded
        cases loaded
      | ok =>
        simp only [checked] at loaded
        cases loaded
        exact ⟨.ids ids, eq_of_validated checked⟩

/-- A list that was built enables no scheme twice. -/
lemma nodup (built : l.IsBuilt) : l.ids.Nodup := by
  obtain ⟨source, rfl⟩ := built.exists_source
  rw [source.ids_list]
  exact nodup_eraseDups source.known

/-- A list that was built enables known schemes alone. -/
lemma known (built : l.IsBuilt) : ∀ id ∈ l.ids, (Definition.ofId? id).isSome = true := by
  obtain ⟨source, rfl⟩ := built.exists_source
  intro id mem
  rw [source.ids_list, List.mem_eraseDups] at mem
  exact Source.isSome_of_mem_known mem

/-- A list that was built is loaded again with the identifiers that it enables. -/
lemma loads (built : l.IsBuilt) : AllowList.ofStored l.toStored = .ok ⟨l.ids, []⟩ :=
  ofStored_toStored built.nodup built.known

end IsBuilt

/-- There are no identifiers, or one of them is that of a scheme. -/
def Loadable (ids : List UInt16) : Prop :=
  ids = [] ∨ ∃ id ∈ ids, ∃ d ∈ Definition.table, d.id = id

/-- The list of some identifiers passes validation when they can be loaded. -/
lemma validate_ofIds_iff {ids : List UInt16} :
    (ofIds ids).validate = .ok () ↔ Loadable ids := by
  rw [validate_ofIds, Loadable, not_and_or, not_not]
  refine or_congr_right ?_
  push Not
  refine exists_congr fun id => and_congr_right fun _ => ?_
  rw [← Definition.isSome_ofId?_iff, ← Option.isSome_iff_ne_none]

section

variable {s : Stored} {ids : List UInt16}

/-- The trees that do not have the form of a list are those that give no identifiers. -/
lemma ofStored_eq_malformed_iff : ofStored s = .error .malformed ↔ ¬ ∃ ids, Gives s ids := by
  simp only [← storedIds?_eq_some_iff, ← Option.isSome_iff_exists]
  unfold ofStored
  cases storedIds? s with
  | none => simp
  | some ids =>
    cases checked : (ofIds ids).validated <;> simp [checked, Except.mapError]

/-- A field that is there twice is not read, whatever it holds. -/
example : ofStored (.record [(idsField, idsTree [0x0807]), (idsField, .null)]) =
    .error .malformed :=
  rfl

/-- A tree is loaded as the list of the identifiers that it gives, which is validated. -/
lemma ofStored_of_gives (gives : Gives s ids) :
    ofStored s = (ofIds ids).validated.mapError .refused := by
  rw [ofStored, storedIds?_eq_some_iff.2 gives]

/-- Identifiers that can be loaded are loaded as their list. -/
lemma loaded_of_loadable (gives : Gives s ids) (loadable : Loadable ids) :
    ofStored s = .ok (ofIds ids) := by
  rw [ofStored_of_gives gives, validated, validate_ofIds_iff.2 loadable]
  rfl

/-- Of identifiers that cannot be loaded, each is recorded as not recognized. -/
lemma unrecognized_of_not_loadable (unknown : ¬ Loadable ids) :
    (ofIds ids).unrecognized = ids.map wireHex := by
  have all : unregistered ids = ids := by
    apply List.filter_eq_self.2
    intro id mem
    rw [Option.isNone_iff_eq_none, ← Option.not_isSome_iff_eq_none, Definition.isSome_ofId?_iff]
    intro known
    exact unknown (.inr ⟨id, mem, known⟩)
  rw [ofIds_eq, all]

/-- Identifiers that cannot be loaded are refused, and all of them are shown. -/
lemma refused_of_not_loadable (gives : Gives s ids) (unknown : ¬ Loadable ids) :
    ofStored s = .error (.refused (noneKnown (ids.map wireHex))) := by
  have invalid := mt validate_ofIds_iff.1 unknown
  rw [validate_eq_ok_iff, Classical.not_imp] at invalid
  rw [ofStored_of_gives gives, validated_of_none invalid.1 invalid.2,
    unrecognized_of_not_loadable unknown]
  rfl

end

/-- What loading has to come to when a tree gives some identifiers. -/
structure LoadsAs (s : Stored) (ids : List UInt16) : Prop where
  succeeds_iff : (∃ l, ofStored s = .ok l) ↔ Loadable ids
  made : ∀ l, ofStored s = .ok l → l = ofIds ids
  refused : ¬ Loadable ids → ofStored s = .error (.refused (noneKnown (ids.map wireHex)))

/--
A valid list is loaded as it was kept. Identifiers are loaded when there are none or one of them is
known, and otherwise refused. Keeping what was loaded changes the tree no more.
-/
theorem valid_loads :
    (∀ l : AllowList, l.IsBuilt → l.validate = .ok () → ∃ m, ofStored l.toStored = .ok m ∧
      m.ids = l.ids ∧ m.unrecognized = [] ∧ ∀ s, m.permits s = l.permits s) ∧
    (∀ s ids, Gives s ids → LoadsAs s ids) ∧
    ∀ s l, ofStored s = .ok l → ∃ m, ofStored l.toStored = .ok m ∧ m.toStored = l.toStored := by
  refine ⟨?_, ?_, ?_⟩
  · intro l built _
    exact ⟨_, built.loads, rfl, rfl, fun s => rfl⟩
  · intro s ids gives
    by_cases loadable : Loadable ids
    · have loaded := loaded_of_loadable gives loadable
      refine ⟨iff_of_true ⟨_, loaded⟩ loadable, ?_, absurd loadable⟩
      intro l found
      rw [loaded] at found
      cases found
      rfl
    · have refused := refused_of_not_loadable gives loadable
      refine ⟨iff_of_false ?_ loadable, ?_, fun _ => refused⟩
      · rintro ⟨l, found⟩
        rw [refused] at found
        cases found
      · intro l found
        rw [refused] at found
        cases found
  · intro s l loaded
    have built : l.IsBuilt := .ofStored loaded
    exact ⟨_, built.loads, rfl⟩

/-- A list with an unknown and a repeated identifier, and a record with a field that is not read. -/
theorem loads_of_mixed :
    let l := ofIds [0x0807, 0xffff, 0x0807, 0x0401]
    let s := Stored.record [("note", .null), (idsField, idsTree [0xffff, 0x0403])]
    l.validate = .ok () ∧
      (∃ m, ofStored l.toStored = .ok m ∧ m.ids = [0x0807, 0x0401] ∧ m.unrecognized = [] ∧
        ∀ s, m.permits s = l.permits s) ∧
      LoadsAs s [0xffff, 0x0403] ∧
      ofStored s = .ok ⟨[0x0403], ["0xffff"]⟩ ∧
      ∃ m, ofStored (toStored ⟨[0x0403], ["0xffff"]⟩) = .ok m ∧
        m.toStored = toStored ⟨[0x0403], ["0xffff"]⟩ := by
  intro l s
  have valid : l.validate = .ok () := by decide
  have loaded : ofStored s = .ok ⟨[0x0403], ["0xffff"]⟩ := rfl
  refine ⟨valid, valid_loads.1 l (.made (.ids _)) valid, ?_, loaded, ?_⟩
  · have once : Gives s [0xffff, 0x0403] :=
      @Gives.field [("note", .null)] [] _ (by decide) (by decide)
    exact valid_loads.2.1 s _ once
  · exact valid_loads.2.2 s _ loaded

end AllowList

end SchemeNegotiation
