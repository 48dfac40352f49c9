import SchemeNegotiation.Proofs.Accounting
import SchemeNegotiation.Proofs.Storage

/-!
# Accounting for configured entries

Each entry that an allow-list is made of comes to one of three things (`AllowList.Outcome`): it
means a scheme, it means nothing, or it is blank. What an identifier comes to is said in `ReadsId`,
and what a name comes to in `ReadsName`. The list follows from what its entries come to, whichever
way they are given, so none of them is lost: identifiers stand in the order in which they are first
met, and every entry that means nothing is recorded and, if it is a name, told about
(`AllowList.entries_accounted`).
-/

namespace SchemeNegotiation

namespace Text

/-- Hexadecimal digits are those that numbers are written with. -/
lemma hexDigit_eq : ∀ n < 16, hexDigit n = Nat.digitChar n := by decide

/-- Zero is written in zeros. -/
lemma paddedHex_zero (width : Nat) : paddedHex width 0 = List.replicate width '0' := by
  induction width with
  | zero => rfl
  | succ width ih =>
    rw [paddedHex, Nat.zero_div, ih, List.replicate_succ']
    rfl

/-- Padding puts zeros in front of the digits of a number that fits. -/
lemma paddedHex_eq_leftpad {width n : Nat} (fits : n < Nat.pow 16 (width + 1)) :
    paddedHex (width + 1) n = (Nat.toDigits 16 n).leftpad (width + 1) '0' := by
  induction width generalizing n with
  | zero =>
    have small : n < 16 := fits
    rw [Nat.toDigits_of_lt_base small, paddedHex, Nat.mod_eq_of_lt small, hexDigit_eq n small]
    rfl
  | succ width ih =>
    have digit := hexDigit_eq (n % 16) (Nat.mod_lt n (by decide))
    rw [paddedHex, digit]
    by_cases small : n < 16
    · rw [Nat.toDigits_of_lt_base small, Nat.div_eq_of_lt small, Nat.mod_eq_of_lt small,
        paddedHex_zero]
      rfl
    · have shorter : n / 16 < Nat.pow 16 (width + 1) := Nat.div_lt_of_lt_mul (by
        rw [Nat.mul_comm]
        exact fits)
      rw [ih shorter, Nat.toDigits_of_base_le (by decide) (Nat.le_of_not_lt small)]
      simp [List.leftpad]

/-- An identifier is written as four hexadecimal digits after a prefix. -/
lemma wireHex_eq (id : UInt16) :
    wireHex id = "0x" ++ String.leftpad 4 '0' (String.ofList (Nat.toDigits 16 id.toNat)) := by
  have pad : String.leftpad 4 '0' (String.ofList (Nat.toDigits 16 id.toNat)) =
      String.ofList (paddedHex 4 id.toNat) := by
    have unfolded (s : String) : String.leftpad 4 '0' s = String.ofList (s.toList.leftpad 4 '0') :=
      rfl
    rw [paddedHex_eq_leftpad id.toNat_lt, unfolded, String.toList_ofList]
  rw [pad, wireHex, ← String.toList_inj, String.toList_append, String.toList_ofList]
  simp

end Text

namespace Definition

/-- Every scheme has a name. -/
lemma name_ne_empty : ∀ {d : Definition}, d ∈ table → d.name ≠ "" := by
  decide

end Definition

namespace AllowList

open Text
open Registry (notices)

/-- What an entry of an allow-list comes to. -/
inductive Outcome where
  /-- The entry means a scheme, which has this identifier. -/
  | scheme (id : UInt16)
  /-- The entry means nothing, and is recorded as this text. -/
  | unknown (text : String)
  | blank
  deriving DecidableEq

namespace Outcome

/-- The identifier of the scheme that is meant. -/
def id? : Outcome → Option UInt16
  | scheme id => some id
  | _ => none

/-- The text that is recorded. -/
def text? : Outcome → Option String
  | unknown text => some text
  | _ => none

end Outcome

/-- What an identifier comes to. -/
inductive ReadsId : UInt16 → Outcome → Prop where
  | scheme {d} (known : d ∈ Definition.table) : ReadsId d.id (.scheme d.id)
  | unknown {id} (missing : ∀ d ∈ Definition.table, d.id ≠ id) :
    ReadsId id (.unknown
      ("0x" ++ String.leftpad 4 '0' (String.ofList (Nat.toDigits 16 id.toNat))))

/-- What a name comes to. -/
inductive ReadsName : String → Outcome → Prop where
  | blank {name} (blank : trim name = "") : ReadsName name .blank
  | scheme {name d} (known : d ∈ Definition.table) (same : upper d.name = upper (trim name)) :
    ReadsName name (.scheme d.id)
  | unknown {name} (given : trim name ≠ "")
    (missing : ∀ d ∈ Definition.table, upper d.name ≠ upper (trim name)) :
    ReadsName name (.unknown (trim name))

/-- A scheme is met before another one among some outcomes. -/
def MetBefore (outcomes : List Outcome) (a b : UInt16) : Prop :=
  outcomes.idxOf (.scheme a) < outcomes.idxOf (.scheme b)

/--
How a list accounts for entries with some outcomes when it is made with a warning about each of some
texts.
-/
structure Accounts (outcomes : List Outcome) (warnings : List String) (made : Traced AllowList) :
    Prop where
  nodup : made.value.ids.Nodup
  registered : ∀ id ∈ made.value.ids, ∃ d ∈ Definition.table, d.id = id
  mem_iff : ∀ id, id ∈ made.value.ids ↔ .scheme id ∈ outcomes
  /-- Identifiers stand in the order in which they are first met. -/
  ordered : made.value.ids.Pairwise (MetBefore outcomes)
  unrecognized : made.value.unrecognized = outcomes.filterMap Outcome.text?
  rebuilt : ofIds made.value.ids = ⟨made.value.ids, []⟩
  /-- There is one warning for each text, in order, and nothing else happens. -/
  warned : (notices made.events).map Notice.record = warnings.map fun text =>
    (.warn, "Ignoring unsupported signature scheme name: " ++ text)
  quiet : queries made.events = []

/-- The notices among events that are all notices are these notices. -/
lemma notices_told (told : List Notice) : notices (told.map .told) = told := by
  rw [notices, List.filterMap_map]
  exact List.filterMap_some

/-- There are no questions among notices. -/
lemma queries_told (told : List Notice) : queries (told.map .told) = [] := by
  rw [queries, List.filterMap_eq_nil_iff]
  intro event mem
  obtain ⟨notice, -, rfl⟩ := List.mem_map.1 mem
  rfl

section

variable {outcomes : List Outcome} {a b id : UInt16}

/-- Which of two schemes is met first does not depend on what comes after both. -/
lemma MetBefore.append (before : MetBefore outcomes a b) (first : .scheme a ∈ outcomes)
    (second : .scheme b ∈ outcomes) (more : List Outcome) :
    MetBefore (outcomes ++ more) a b := by
  rw [MetBefore, List.idxOf_append_of_mem first, List.idxOf_append_of_mem second]
  exact before

/-- What was met is met before something new at the end. -/
lemma metBefore_concat (first : .scheme a ∈ outcomes) (fresh : .scheme b ∉ outcomes) :
    MetBefore (outcomes ++ [.scheme b]) a b := by
  rw [MetBefore, List.idxOf_append_of_mem first, List.idxOf_append_of_notMem fresh]
  exact Nat.lt_add_right _ (List.idxOf_lt_length_iff.2 first)

/-- The identifiers among some outcomes, each once. -/
def met (outcomes : List Outcome) : List UInt16 :=
  (outcomes.filterMap Outcome.id?).eraseDups

/-- A scheme is met when some outcome is that scheme. -/
lemma mem_met : id ∈ met outcomes ↔ .scheme id ∈ outcomes := by
  rw [met, List.mem_eraseDups, List.mem_filterMap]
  constructor
  · rintro ⟨o, mem, same⟩
    cases o with
    | scheme other =>
      cases same
      exact mem
    | unknown => cases same
    | blank => cases same
  · intro mem
    exact ⟨_, mem, rfl⟩

/-- One more outcome adds its scheme at the end, unless it is none or was met before. -/
lemma met_concat (outcomes : List Outcome) (last : Outcome) :
    met (outcomes ++ [last]) = met outcomes ∨
      ∃ id, last = .scheme id ∧ id ∉ met outcomes ∧
        met (outcomes ++ [last]) = met outcomes ++ [id] := by
  have skip (nothing : [last].filterMap Outcome.id? = []) :
      met (outcomes ++ [last]) = met outcomes := by
    rw [met, List.filterMap_append, nothing, List.append_nil, met]
  cases last with
  | unknown => exact .inl (skip rfl)
  | blank => exact .inl (skip rfl)
  | scheme id =>
    have single : [Outcome.scheme id].filterMap Outcome.id? = [id] := rfl
    have step := congrArg ids (enable_eraseDups (outcomes.filterMap Outcome.id?) [] id)
    rw [← single, ← List.filterMap_append, ← met, ← met, enable] at step
    by_cases mem : id ∈ met outcomes
    · rw [if_pos (List.contains_iff_mem.2 mem)] at step
      exact .inl step.symm
    · rw [if_neg (mt List.contains_iff_mem.1 mem)] at step
      exact .inr ⟨id, rfl, mem, step.symm⟩

/-- Without their repetitions, identifiers stand in the order in which they are first met. -/
lemma pairwise_met (outcomes : List Outcome) : (met outcomes).Pairwise (MetBefore outcomes) := by
  -- From the end, where an outcome is added to those before it.
  induction outcomes using List.reverseRecOn with
  | nil => exact .nil
  | append_singleton before last ih =>
    have kept : (met before).Pairwise (MetBefore (before ++ [last])) := by
      refine ih.imp_of_mem ?_
      intro a b first second less
      exact less.append (mem_met.1 first) (mem_met.1 second) [last]
    rcases met_concat before last with same | ⟨id, rfl, fresh, more⟩
    · rw [same]
      exact kept
    · rw [more, List.pairwise_append]
      refine ⟨kept, List.pairwise_singleton _ id, ?_⟩
      intro a first b second
      rw [List.mem_singleton.1 second]
      exact metBefore_concat (mem_met.1 first) (mt mem_met.2 fresh)

/-- A list accounts for the outcomes from which it follows. -/
lemma accounts_of_eq {warnings : List String} {made : Traced AllowList}
    (ids : made.value.ids = met outcomes)
    (others : made.value.unrecognized = outcomes.filterMap Outcome.text?)
    (known : ∀ id ∈ made.value.ids, (Definition.ofId? id).isSome = true)
    (told : made.events = (warnings.map .unknownName).map .told) :
    Accounts outcomes warnings made := by
  have nodup : made.value.ids.Nodup := ids ▸ nodup_eraseDups _
  refine ⟨nodup, ?_, ?_, ids ▸ pairwise_met outcomes, others, ofIds_of_nodup nodup known, ?_, ?_⟩
  · intro id mem
    exact Definition.isSome_ofId?_iff.1 (known id mem)
  · intro id
    rw [ids]
    exact mem_met
  · rw [told, notices_told, List.map_map]
    rfl
  · rw [told, queries_told]

end

/-- Every identifier has an outcome. -/
lemma exists_readsId (id : UInt16) : ∃ o, ReadsId id o := by
  by_cases known : ∃ d ∈ Definition.table, d.id = id
  · obtain ⟨d, listed, rfl⟩ := known
    exact ⟨_, .scheme listed⟩
  · push Not at known
    exact ⟨_, .unknown known⟩

/-- Every name has an outcome. -/
lemma exists_readsName (name : String) : ∃ o, ReadsName name o := by
  by_cases given : trim name = ""
  · exact ⟨_, .blank given⟩
  · by_cases known : ∃ d ∈ Definition.table, upper d.name = upper (trim name)
    · obtain ⟨d, listed, same⟩ := known
      exact ⟨_, .scheme listed same⟩
    · push Not at known
      exact ⟨_, .unknown given known⟩

/-- Where each element is related to something, a list is related to some list. -/
lemma exists_forall₂ {α β : Type} {R : α → β → Prop} (total : ∀ a, ∃ b, R a b) (l : List α) :
    ∃ m, List.Forall₂ R l m := by
  choose pick holds using total
  exact ⟨l.map pick, List.forall₂_map_right_iff.2 (List.forall₂_same.2 fun a _ => holds a)⟩

/-- The outcome of an identifier is what the table says of it. -/
lemma ReadsId.found {id : UInt16} {o : Outcome} (reads : ReadsId id o) :
    (∃ d, Definition.ofId? id = some d ∧ o = .scheme id) ∨
      (Definition.ofId? id = none ∧ o = .unknown (wireHex id)) := by
  cases reads with
  | @scheme d known =>
    left
    exact ⟨d, Definition.ofId?_eq_some_iff.2 ⟨known, rfl⟩, rfl⟩
  | unknown missing =>
    right
    refine ⟨?_, congrArg _ (wireHex_eq id).symm⟩
    rw [← Option.not_isSome_iff_eq_none, Definition.isSome_ofId?_iff]
    rintro ⟨d, known, same⟩
    exact missing d known same

/-- What is known and what is not among some identifiers is what their outcomes say. -/
lemma registered_of_reads {given : List UInt16} {outcomes : List Outcome}
    (reads : List.Forall₂ ReadsId given outcomes) :
    registered given = outcomes.filterMap Outcome.id? ∧
      (unregistered given).map wireHex = outcomes.filterMap Outcome.text? := by
  rw [registered, unregistered]
  induction reads with
  | nil => exact ⟨rfl, rfl⟩
  | cons here _ ih =>
    rcases here.found with ⟨d, found, rfl⟩ | ⟨missing, rfl⟩
    · simpa [found, List.filterMap_cons, Outcome.id?, Outcome.text?] using ih
    · simpa [missing, List.filterMap_cons, Outcome.id?, Outcome.text?] using ih

/-- The outcome of a name is what the table says of it when it is trimmed, unless it is blank. -/
lemma ReadsName.found {name : String} {o : Outcome} (reads : ReadsName name o) :
    (nonBlank [name] = [] ∧ o = .blank) ∨
      (∃ d, nonBlank [name] = [trim name] ∧ Definition.ofName? (trim name) = some d ∧
        o = .scheme d.id) ∨
      (nonBlank [name] = [trim name] ∧ Definition.ofName? (trim name) = none ∧
        o = .unknown (trim name)) := by
  have single (given : trim name ≠ "") : nonBlank [name] = [trim name] :=
    (nonBlank_singleton name).trans (if_neg given)
  cases reads with
  | blank blank => exact .inl ⟨(nonBlank_singleton name).trans (if_pos blank), rfl⟩
  | @scheme d known same =>
    have found := Definition.ofName?_eq_some_iff.2 ⟨known, sameLetters_iff.2 same⟩
    have given : trim name ≠ "" := by
      intro blank
      rw [blank, upper_eq_empty_iff.2 rfl, upper_eq_empty_iff] at same
      exact Definition.name_ne_empty known same
    exact .inr (.inl ⟨d, single given, found, rfl⟩)
  | unknown given missing =>
    refine .inr (.inr ⟨single given, ofName?_eq_none_iff.2 ?_, rfl⟩)
    rintro ⟨d, known, same⟩
    exact missing d known (sameLetters_iff.1 same)

/-- What is known and what is not among some names is what their outcomes say. -/
lemma recognized_of_reads {given : List String} {outcomes : List Outcome}
    (reads : List.Forall₂ ReadsName given outcomes) :
    recognized (nonBlank given) = outcomes.filterMap Outcome.id? ∧
      unknown (nonBlank given) = outcomes.filterMap Outcome.text? := by
  rw [recognized, unknown]
  induction reads with
  | nil => exact ⟨rfl, rfl⟩
  | @cons name o given outcomes here _ ih =>
    rw [nonBlank_cons]
    rcases here.found with ⟨blank, rfl⟩ | ⟨d, single, found, rfl⟩ | ⟨single, missing, rfl⟩
    · simpa [blank, List.filterMap_cons, Outcome.id?, Outcome.text?] using ih
    · simpa [single, found, List.filterMap_cons, Outcome.id?, Outcome.text?] using ih
    · simpa [single, missing, List.filterMap_cons, Outcome.id?, Outcome.text?] using ih

/-- Reading one more name tells about it if it is neither blank nor known. -/
lemma events_addName (l : AllowList) (name : String) :
    (l.addName name).events = ((unknown (nonBlank [name])).map .unknownName).map .told := by
  rw [nonBlank_singleton]
  unfold addName
  by_cases blank : trim name = ""
  · rw [if_pos blank, if_pos blank]
    rfl
  · rw [if_neg blank, if_neg blank]
    cases found : Definition.ofName? (trim name) with
    | some d => simp [unknown, found]
    | none => simp [unknown, found]

/-- Each unknown name of a list is told, in order, and nothing else is. -/
lemma events_addNames (l : AllowList) (names : List String) :
    (l.addNames names).events = ((unknown (nonBlank names)).map .unknownName).map .told := by
  induction names generalizing l with
  | nil => rfl
  | cons name rest ih =>
    rw [addNames, Traced.events_bind, events_addName, ih, nonBlank_cons name rest, unknown,
      unknown, unknown, List.filter_append, List.map_append, List.map_append]

/-- A list of names is told about, and comes to, what its non-blank names are. -/
lemma ofNames_eq (names : List String) :
    ofNames names =
      ⟨((unknown (nonBlank names)).map .unknownName).map .told, ofEntries (nonBlank names)⟩ := by
  rw [← events_addNames unrestricted names, ← value_ofNames names]
  rfl

/-- Blank names can be left out beforehand. -/
lemma nonBlank_filter (names : List String) :
    nonBlank (names.filter fun name => trim name ≠ "") = nonBlank names := by
  rw [nonBlank, nonBlank, List.filter_map, List.filter_map, List.filter_filter]
  simp [Function.comp_def]

/--
Every entry of an allow-list is accounted for, whether identifiers or names are given, and blank
names leave no trace.
-/
theorem entries_accounted :
    (∀ given, ∃ outcomes, List.Forall₂ ReadsId given outcomes ∧
      Accounts outcomes [] (pure (ofIds given))) ∧
    ∀ given, ∃ outcomes, List.Forall₂ ReadsName given outcomes ∧
      Accounts outcomes (outcomes.filterMap Outcome.text?) (ofNames given) ∧
      ofNames (given.filter fun name => trim name ≠ "") = ofNames given := by
  constructor
  · intro given
    obtain ⟨outcomes, reads⟩ := exists_forall₂ exists_readsId given
    obtain ⟨ids, others⟩ := registered_of_reads reads
    refine ⟨outcomes, reads, accounts_of_eq ?_ ?_ ?_ rfl⟩
    · rw [Traced.value_pure, ofIds_eq, ids, met]
    · rw [Traced.value_pure, ofIds_eq, others]
    · intro id mem
      rw [Traced.value_pure, ofIds_eq, List.mem_eraseDups] at mem
      exact (List.mem_filter.1 mem).2
  · intro given
    obtain ⟨outcomes, reads⟩ := exists_forall₂ exists_readsName given
    obtain ⟨ids, others⟩ := recognized_of_reads reads
    refine ⟨outcomes, reads, accounts_of_eq ?_ ?_ ?_ ?_, ?_⟩
    · rw [ofNames_eq, ofEntries, ids, met]
    · rw [ofNames_eq, ofEntries, others]
    · intro id mem
      rw [ofNames_eq, ofEntries, List.mem_eraseDups] at mem
      exact isSome_of_mem_recognized mem
    · rw [ofNames_eq, others]
    · rw [ofNames_eq, ofNames_eq, nonBlank_filter]

end AllowList

end SchemeNegotiation
