import SchemeNegotiation.Proofs.Entries
import SchemeNegotiation.Proofs.Loading
import SchemeNegotiation.Proofs.Naming

/-!
# Writing allow-lists

Identifiers are written by their names, in any case, with white space around them and blank entries
in between (`AllowList.Writes`). No name has a comma or white space in it, and no two names differ
in case alone, so the entries come back when the text is cut at its commas, and each comes to its
identifier. A text that writes identifiers is thus the same as the identifiers
(`AllowList.parse_writes`).
-/

namespace SchemeNegotiation

namespace Text

/-- A text without commas is one piece. -/
lemma commaSeparated_of_absent {s : String} (absent : ',' ∉ s.toList) :
    commaSeparated s = [s] := by
  have apart : ¬ [','] <:+: s.toList := fun within => absent (within.subset List.mem_cons_self)
  rw [commaSeparated, pieces_of_absent apart, List.map_singleton, String.ofList_toList]

/-- Texts without commas come back when they were put together by commas. -/
lemma commaSeparated_intercalate {texts : List String} (given : texts ≠ [])
    (absent : ∀ s ∈ texts, ',' ∉ s.toList) : commaSeparated (",".intercalate texts) = texts := by
  induction texts with
  | nil => exact absurd rfl given
  | cons s rest ih =>
    have here := commaSeparated_of_absent (absent s List.mem_cons_self)
    cases rest with
    | nil => rw [String.intercalate_singleton, here]
    | cons t more =>
      have later := ih (List.cons_ne_nil t more) fun u mem => absent u (List.mem_cons_of_mem s mem)
      rw [String.intercalate_cons_cons, commaSeparated_append, here, later, List.singleton_append]

end Text

namespace Definition

open Text

/-- No scheme has white space around its name. -/
lemma trim_name : ∀ d ∈ table, trim d.name = d.name := by decide +kernel

/-- No scheme has a comma in its name. -/
lemma comma_notMem_name : ∀ d ∈ table, ',' ∉ (upper d.name).toList := by decide +kernel

end Definition

namespace AllowList

open Text

/-- Entries that write identifiers, in order. -/
inductive Writes : List UInt16 → List String → Prop where
  | nil : Writes [] []
  | blank {ids entries entry} :
    trim entry = "" →
    Writes ids entries →
    Writes ids (entry :: entries)
  | name {id ids entries before name after} :
    trim before = "" →
    upper name = upper (nameOfId id) →
    trim after = "" →
    Writes ids entries →
    Writes (id :: ids) ((before ++ name ++ after) :: entries)

/-- Padding and case do not change what a name comes to. -/
lemma readsName_padded {d : Definition} {before name after : String} (listed : d ∈ Definition.table)
    (left : trim before = "") (same : upper name = upper d.name) (right : trim after = "") :
    ReadsName (before ++ name ++ after) (.scheme d.id) := by
  refine .scheme listed ?_
  calc upper d.name
    _ = upper (trim d.name) := by rw [Definition.trim_name d listed]
    _ = trim (upper name) := by rw [upper_trim, same]
    _ = upper (trim (before ++ name ++ after)) := by rw [trim_padded left right, upper_trim]

/-- There is no comma in white space. -/
lemma comma_notMem_of_blank {s : String} (blank : trim s = "") : ',' ∉ s.toList := by
  intro mem
  have comma : isBlank ',' = true := trim_eq_empty_iff.1 blank ',' mem
  rw [isBlank_eq_false (by decide)] at comma
  cases comma

/-- There is no comma in the name of a scheme, in whatever case. -/
lemma comma_notMem_of_name {d : Definition} {name : String} (listed : d ∈ Definition.table)
    (same : upper name = upper d.name) : ',' ∉ name.toList := by
  intro mem
  apply Definition.comma_notMem_name d listed
  rw [← same]
  exact (mem_upper_iff (by decide)).2 mem

namespace Writes

variable {ids : List UInt16} {entries : List String}

/-- The entries come to the identifiers and to nothing else. -/
lemma reads (writes : Writes ids entries) (known : ∀ id ∈ ids, ∃ d ∈ Definition.table, d.id = id) :
    ∃ outcomes, List.Forall₂ ReadsName entries outcomes ∧
      outcomes.filterMap Outcome.id? = ids ∧ outcomes.filterMap Outcome.text? = [] := by
  induction writes with
  | nil => exact ⟨[], .nil, rfl, rfl⟩
  | blank blank _ ih =>
    obtain ⟨outcomes, later, ids, others⟩ := ih known
    exact ⟨.blank :: outcomes, .cons (.blank blank) later, ids, others⟩
  | @name id ids entries before name after left same right _ ih =>
    obtain ⟨outcomes, later, more, others⟩ := ih fun i mem => known i (List.mem_cons_of_mem id mem)
    obtain ⟨d, listed, rfl⟩ := known id List.mem_cons_self
    rw [nameOfId_eq listed] at same
    have here := readsName_padded listed left same right
    exact ⟨.scheme d.id :: outcomes, .cons here later, congrArg (d.id :: ·) more, others⟩

/-- There is no comma in the entries that known identifiers are written in. -/
lemma comma_notMem (writes : Writes ids entries)
    (known : ∀ id ∈ ids, ∃ d ∈ Definition.table, d.id = id) :
    ∀ entry ∈ entries, ',' ∉ entry.toList := by
  induction writes with
  | nil => exact fun _ mem => absurd mem List.not_mem_nil
  | blank blank _ ih => exact List.forall_mem_cons.2 ⟨comma_notMem_of_blank blank, ih known⟩
  | @name id ids entries before name after left same right _ ih =>
    refine List.forall_mem_cons.2 ⟨?_, ih fun i mem => known i (List.mem_cons_of_mem id mem)⟩
    obtain ⟨d, listed, rfl⟩ := known id List.mem_cons_self
    rw [nameOfId_eq listed] at same
    rw [String.toList_append, String.toList_append, List.mem_append, List.mem_append, not_or,
      not_or]
    exact ⟨⟨comma_notMem_of_blank left, comma_notMem_of_name listed same⟩,
      comma_notMem_of_blank right⟩

/-- Cutting the text at its commas gives the entries back, but for blank ones. -/
lemma nonBlank_intercalate (writes : Writes ids entries)
    (known : ∀ id ∈ ids, ∃ d ∈ Definition.table, d.id = id) :
    nonBlank (commaSeparated (",".intercalate entries)) = nonBlank entries := by
  cases entries with
  | nil => rfl
  | cons entry rest =>
    rw [commaSeparated_intercalate (List.cons_ne_nil entry rest) (writes.comma_notMem known)]

end Writes

/-- Names as they are write their identifiers. -/
lemma writes_names (ids : List UInt16) : Writes ids (ids.map nameOfId) := by
  induction ids with
  | nil => exact .nil
  | cons id rest ih =>
    have plain := @Writes.name id rest _ "" (nameOfId id) "" rfl rfl rfl ih
    rw [String.empty_append, String.append_empty] at plain
    exact plain

/-- Entries between commas are read as the identifiers that they write, each once. -/
lemma parse_of_writes {ids : List UInt16} {entries : List String} (writes : Writes ids entries)
    (known : ∀ id ∈ ids, ∃ d ∈ Definition.table, d.id = id) :
    parse (",".intercalate entries) = pure ⟨ids.eraseDups, []⟩ := by
  obtain ⟨outcomes, reads, found, others⟩ := writes.reads known
  obtain ⟨recognized, unknown⟩ := recognized_of_reads reads
  rw [parse, ofNames_eq, writes.nonBlank_intercalate known, ofEntries, recognized, unknown, found,
    others]
  rfl

/--
A text that writes the identifiers of schemes is read, without a word, as the list of these
identifiers. So a list is read again from the names of its identifiers.
-/
theorem parse_writes :
    (∀ ids entries, (∀ id ∈ ids, ∃ d ∈ Definition.table, d.id = id) → Writes ids entries →
      parse (",".intercalate entries) = pure (ofIds ids) ∧ ofIds ids = ⟨ids.eraseDups, []⟩) ∧
    ∀ l : AllowList, l.IsBuilt →
      parse (",".intercalate (l.ids.map nameOfId)) = pure ⟨l.ids, []⟩ := by
  constructor
  · intro ids entries known writes
    have same : ofIds ids = ⟨ids.eraseDups, []⟩ :=
      ofIds_of_known fun id mem => Definition.isSome_ofId?_iff.2 (known id mem)
    rw [same]
    exact ⟨parse_of_writes writes known, rfl⟩
  · intro l built
    have known : ∀ id ∈ l.ids, ∃ d ∈ Definition.table, d.id = id := fun id mem =>
      Definition.isSome_ofId?_iff.1 (built.known id mem)
    have read := parse_of_writes (writes_names l.ids) known
    rw [eraseDups_of_nodup built.nodup] at read
    exact read

/-- Two schemes, one of them twice, in other cases and with a blank entry between them. -/
theorem parse_writes_mixed :
    let ids : List UInt16 := [0x0807, 0x0401, 0x0807]
    let entries := [" ED25519\t", "\u00a0", "Rsa_Pkcs1_SHA256", "ed25519 "]
    (∀ id ∈ ids, ∃ d ∈ Definition.table, d.id = id) ∧ Writes ids entries ∧
      parse (",".intercalate entries) = pure (ofIds ids) ∧ ofIds ids = ⟨[0x0807, 0x0401], []⟩ ∧
      parse (",".intercalate ((ofIds ids).ids.map nameOfId)) = pure ⟨[0x0807, 0x0401], []⟩ := by
  intro ids entries
  have found : (ids.all fun id => (Definition.ofId? id).isSome) = true := by decide
  have known : ∀ id ∈ ids, ∃ d ∈ Definition.table, d.id = id := fun id mem =>
    Definition.isSome_ofId?_iff.1 (List.all_eq_true.1 found id mem)
  have writes : Writes ids entries := by
    refine @Writes.name 0x0807 _ _ " " "ED25519" "\t" (by decide) (by decide) (by decide) ?_
    refine @Writes.blank _ _ "\u00a0" (by decide) ?_
    refine @Writes.name 0x0401 _ _ "" "Rsa_Pkcs1_SHA256" "" rfl (by decide) rfl ?_
    exact @Writes.name 0x0807 _ _ "" "ed25519" " " rfl (by decide) (by decide) .nil
  have parsed := parse_writes.1 ids entries known writes
  exact ⟨known, writes, parsed.1, parsed.2, parse_writes.2 (ofIds ids) (.made (.ids ids))⟩

end AllowList

end SchemeNegotiation
