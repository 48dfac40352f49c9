import Mathlib.Data.List.Induction
import SchemeNegotiation.Proofs.AllowList
import SchemeNegotiation.Stored.Form

/-!
# Keeping allow-lists

An allow-list is kept by its identifiers alone. Those of a list that was made of identifiers, names
or a text (`AllowList.Source`) are all known and differ, so the list is always read again, with the
same identifiers and without the entries that are no scheme (`AllowList.ofStored_toStored`). What
validation says of a list is therefore lost on the way just when entries were given of which none is
known, and such a list comes back as the one that enables everything (`AllowList.Source.reloads`).
-/

namespace SchemeNegotiation

namespace Stored

/-- An identifier is read again as it was kept. -/
lemma word?_natural (n : UInt16) : (natural n.toNat).word? = some n := by
  rw [word?, below?, if_pos n.toNat_lt]
  simp

/-- A list is read as it was kept when each of its entries is. -/
lemma listOf?_map {α : Type} {keep : α → Stored} {read : Stored → Option α}
    (kept : ∀ a, read (keep a) = some a) (l : List α) :
    listOf? read (.list (l.map keep)) = some l := by
  rw [listOf?]
  induction l with
  | nil => rfl
  | cons a rest ih => rw [List.map_cons, List.mapM_cons, kept, ih]; rfl

end Stored

namespace Definition

/-- An identifier finds something when it is that of a scheme of the table. -/
lemma isSome_ofId?_iff {id : UInt16} :
    (ofId? id).isSome = true ↔ ∃ d ∈ table, d.id = id := by
  rw [ofId?, List.find?_isSome]
  simp only [beq_iff_eq]

end Definition

namespace AllowList

open Text

/-- Without repetitions, all identifiers differ. -/
lemma nodup_eraseDups (ids : List UInt16) : ids.eraseDups.Nodup := by
  match ids with
  | [] => exact List.nodup_nil
  | id :: rest =>
    rw [List.eraseDups_cons, List.nodup_cons, List.mem_eraseDups]
    exact ⟨by simp, nodup_eraseDups _⟩
termination_by ids.length
decreasing_by exact Nat.lt_succ_of_le (List.length_filter_le _ _)

/-- Identifiers that differ stay as they are. -/
lemma eraseDups_of_nodup {ids : List UInt16} (nodup : ids.Nodup) : ids.eraseDups = ids := by
  induction ids with
  | nil => rfl
  | cons id rest ih =>
    obtain ⟨fresh, nodup⟩ := List.nodup_cons.1 nodup
    have others : rest.filter (fun other => !other == id) = rest := by
      rw [List.filter_eq_self]
      intro other mem
      simp only [Bool.not_eq_true', beq_eq_false_iff_ne]
      rintro rfl
      exact fresh mem
    rw [List.eraseDups_cons, others, ih nodup]

/-- No identifiers stay only when there are none. -/
lemma eraseDups_eq_nil_iff {ids : List UInt16} : ids.eraseDups = [] ↔ ids = [] := by
  cases ids <;> simp [List.eraseDups_cons]

/-- The identifiers of schemes among some. -/
def registered (ids : List UInt16) : List UInt16 :=
  ids.filter fun id => (Definition.ofId? id).isSome

/-- The identifiers among some that are those of no scheme. -/
def unregistered (ids : List UInt16) : List UInt16 :=
  ids.filter fun id => (Definition.ofId? id).isNone

/-- A list of identifiers enables the known ones, each once, and records all others. -/
lemma ofIds_eq (ids : List UInt16) :
    ofIds ids = ⟨(registered ids).eraseDups, (unregistered ids).map wireHex⟩ := by
  -- From the end, as each identifier is added to what those before it came to.
  induction ids using List.reverseRecOn with
  | nil => rfl
  | append_singleton before id ih =>
    have step : ofIds (before ++ [id]) = (ofIds before).addId id := List.foldl_concat _ _ _ _
    rw [step, ih, addId]
    cases found : Definition.ofId? id with
    | some d =>
      have known : registered (before ++ [id]) = registered before ++ [id] := by
        simp [registered, found]
      have others : unregistered (before ++ [id]) = unregistered before := by
        simp [unregistered, found]
      rw [known, others]
      exact enable_eraseDups _ _ _
    | none => simp [reject, registered, unregistered, found]

/-- Identifiers that are known are enabled, each once. -/
lemma ofIds_of_known {ids : List UInt16}
    (known : ∀ id ∈ ids, (Definition.ofId? id).isSome = true) :
    ofIds ids = ⟨ids.eraseDups, []⟩ := by
  have all : registered ids = ids := List.filter_eq_self.2 known
  have none : unregistered ids = [] := by
    rw [unregistered, List.filter_eq_nil_iff]
    intro id mem
    rw [Option.isNone_iff_eq_none, ← ne_eq, ← Option.isSome_iff_ne_none]
    exact known id mem
  rw [ofIds_eq, all, none, List.map_nil]

/-- Identifiers that are known and differ are enabled as they are. -/
lemma ofIds_of_nodup {ids : List UInt16} (nodup : ids.Nodup)
    (known : ∀ id ∈ ids, (Definition.ofId? id).isSome = true) : ofIds ids = ⟨ids, []⟩ := by
  rw [ofIds_of_known known, eraseDups_of_nodup nodup]

/-- A list is valid unless nothing is enabled and something was not recognised. -/
lemma validate_eq_ok_iff {l : AllowList} :
    l.validate = .ok () ↔ (l.ids = [] → l.unrecognized = []) := by
  unfold validate
  cases l.ids <;> cases l.unrecognized <;> simp

/-- The identifiers that a list enables are read again as they were kept. -/
lemma storedIds?_toStored (l : AllowList) : storedIds? l.toStored = some l.ids :=
  Stored.listOf?_map Stored.word?_natural l.ids

/-- A list whose identifiers are known and differ is read again, without its other entries. -/
lemma ofStored_toStored {l : AllowList} (nodup : l.ids.Nodup)
    (known : ∀ id ∈ l.ids, (Definition.ofId? id).isSome = true) :
    ofStored l.toStored = .ok ⟨l.ids, []⟩ := by
  have valid : validate ⟨l.ids, []⟩ = .ok () := validate_eq_ok_iff.2 fun _ => rfl
  simp only [ofStored, storedIds?_toStored, ofIds_of_nodup nodup known, validated, valid]
  rfl

/-- The identifiers of names that are recognized are known. -/
lemma isSome_of_mem_recognized {entries : List String} {id : UInt16}
    (mem : id ∈ recognized entries) : (Definition.ofId? id).isSome = true := by
  obtain ⟨e, -, mapped⟩ := List.mem_filterMap.1 mem
  obtain ⟨d, found, rfl⟩ := Option.map_eq_some_iff.1 mapped
  exact Definition.isSome_ofId?_iff.2 ⟨d, (Definition.ofName?_eq_some_iff.1 found).1, rfl⟩

/-- Validation refuses entries that are given and of which none is known, and no others. -/
lemma validate_ofEntries {entries : List String} :
    (ofEntries entries).validate = .ok () ↔ ¬ (entries ≠ [] ∧ ∀ e ∈ entries, ¬ Known e) := by
  have ids : (ofEntries entries).ids = [] ↔ ∀ e ∈ entries, ¬ Known e := by
    rw [← isUnrestricted_ofEntries, isUnrestricted, List.isEmpty_iff]
  rw [validate_eq_ok_iff, ids, not_and', not_not]
  refine imp_congr_right fun missing => ?_
  rw [ofEntries, unknown_eq_self missing]

/-- The list of some identifiers is valid unless some are given and none is known. -/
lemma validate_ofIds {given : List UInt16} :
    (ofIds given).validate = .ok () ↔
      ¬ (given ≠ [] ∧ ∀ id ∈ given, Definition.ofId? id = none) := by
  have ids : (ofIds given).ids = [] ↔ ∀ id ∈ given, Definition.ofId? id = none := by
    simp [ofIds_eq, eraseDups_eq_nil_iff, registered]
  rw [validate_eq_ok_iff, ids, not_and', not_not]
  refine imp_congr_right fun missing => ?_
  have all : unregistered given = given := by
    simpa [unregistered] using missing
  rw [ofIds_eq, all, List.map_eq_nil_iff]

/-- What a list is made of. -/
inductive Source where
  | ids (given : List UInt16)
  | names (given : List String)
  | text (given : String)

namespace Source

/-- The list that is made. -/
def list : Source → AllowList
  | .ids given => ofIds given
  | .names given => (ofNames given).value
  | .text given => (parse given).value

/-- Something is given, and none of it is known. -/
def AllUnknown : Source → Prop
  | .ids given => given ≠ [] ∧ ∀ id ∈ given, Definition.ofId? id = none
  | .names given => nonBlank given ≠ [] ∧ ∀ e ∈ nonBlank given, ¬ Known e
  | .text given =>
    nonBlank (commaSeparated given) ≠ [] ∧ ∀ e ∈ nonBlank (commaSeparated given), ¬ Known e

/-- The identifiers of what is known, with repetitions. -/
def known : Source → List UInt16
  | .ids given => registered given
  | .names given => recognized (nonBlank given)
  | .text given => recognized (nonBlank (commaSeparated given))

/-- The list of a source enables what is known of it, without repetitions. -/
lemma ids_list (source : Source) : source.list.ids = source.known.eraseDups := by
  cases source with
  | ids given => exact congrArg AllowList.ids (ofIds_eq given)
  | names given => exact congrArg AllowList.ids (value_ofNames given)
  | text given => exact congrArg AllowList.ids (value_ofNames (commaSeparated given))

/-- The known identifiers of a source are those of schemes. -/
lemma isSome_of_mem_known {source : Source} {id : UInt16} (mem : id ∈ source.known) :
    (Definition.ofId? id).isSome = true := by
  cases source with
  | ids given => exact (List.mem_filter.1 mem).2
  | names given => exact isSome_of_mem_recognized mem
  | text given => exact isSome_of_mem_recognized mem

/-- Validation refuses a list that is made of what is all unknown, and no other. -/
lemma validate_list {source : Source} :
    source.list.validate = .ok () ↔ ¬ source.AllUnknown := by
  cases source with
  | ids given => exact validate_ofIds
  | names given =>
    rw [list, value_ofNames]
    exact validate_ofEntries
  | text given =>
    rw [list, parse, value_ofNames]
    exact validate_ofEntries

/-- A source of which nothing is known enables nothing by name. -/
lemma ids_of_allUnknown {source : Source} (all : source.AllUnknown) : source.list.ids = [] := by
  by_contra some
  exact validate_list.1 (validate_eq_ok_iff.2 fun none => absurd none some) all

/-- What becomes of the list made of something when it is kept and read again. -/
structure Reloads (source : Source) : Prop where
  loaded : ofStored source.list.toStored = .ok ⟨source.list.ids, []⟩
  agrees_iff : (source.list.validate = .ok () ↔ ∃ l, ofStored source.list.toStored = .ok l) ↔
    ¬ source.AllUnknown
  widened : source.AllUnknown →
    source.list.validate ≠ .ok () ∧ ofStored source.list.toStored = .ok unrestricted

/--
Every list that is made of something can be read again when it was kept, valid or not. So what is
read is valid just when the list was, unless something was given of which nothing is known; and then
everything is enabled.
-/
theorem reloads (source : Source) : source.Reloads := by
  have loaded : ofStored source.list.toStored = .ok ⟨source.list.ids, []⟩ := by
    have nodup : source.list.ids.Nodup := source.ids_list ▸ nodup_eraseDups source.known
    refine ofStored_toStored nodup fun id mem => ?_
    rw [ids_list, List.mem_eraseDups] at mem
    exact isSome_of_mem_known mem
  refine ⟨loaded, ?_, ?_⟩
  · rw [← validate_list]
    exact iff_true_right ⟨_, loaded⟩
  · intro all
    refine ⟨fun valid => validate_list.1 valid all, ?_⟩
    rw [loaded, ids_of_allUnknown all]
    rfl

/-- An unknown identifier is refused, and enables everything once its list was kept. -/
theorem widened_of_unknown_id :
    let l := ofIds [0xffff]
    ¬ (l.validate = .ok () ↔ ∃ m, ofStored l.toStored = .ok m) ∧
      ofStored l.toStored = .ok unrestricted := by
  intro l
  have refused : l.validate ≠ .ok () := by decide
  have read : ofStored l.toStored = .ok unrestricted := rfl
  exact ⟨fun same => refused (same.2 ⟨_, read⟩), read⟩

end Source

end AllowList

end SchemeNegotiation
