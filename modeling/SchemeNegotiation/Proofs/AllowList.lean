import SchemeNegotiation.Proofs.Narrowing
import SchemeNegotiation.Proofs.Pieces
import SchemeNegotiation.Proofs.Trimming

/-!
# Allow-lists from the environment

Reading names keeps account of all of them: the identifiers of the known ones and the unknown ones
themselves, as `AllowList.ofEntries` says (`AllowList.value_ofNames`). So a value of the environment
variable means what its entries mean. Without entries it enables everything, entries of which none
is known are refused, and all others enable the schemes that they name and no more
(`AllowList.ofVariable_reads`).
-/

namespace SchemeNegotiation

namespace Text

/-- The bytes of a text are read as the text. -/
lemma fromUTF8?_toUTF8 (s : String) : String.fromUTF8? s.toUTF8 = some s :=
  dif_pos s.isValidUTF8

/-- What stands between the commas of a blank text is blank. -/
lemma trim_of_mem_commaSeparated {s piece : String} (blank : trim s = "")
    (mem : piece ∈ commaSeparated s) : trim piece = "" := by
  obtain ⟨cs, part, rfl⟩ := List.mem_map.1 mem
  rw [trim_eq_empty_iff] at blank ⊢
  intro c inside
  rw [String.toList_ofList] at inside
  exact blank c ((infix_of_mem_pieces (List.cons_ne_nil _ _) part).subset inside)

/-- A blank text is blank without its quotes. -/
lemma trim_unquote {s : String} (blank : trim s = "") : trim (unquote s) = "" := by
  rw [trim_eq_empty_iff] at blank ⊢
  intro c inside
  rw [toList_unquote] at inside
  exact blank c ((strip_isInfix _ _).subset inside)

end Text

namespace Definition

/-- No two schemes of the table have names that differ in case alone. -/
lemma nodup_upper_names : (table.map fun d => Text.upper d.name).Nodup := by decide +kernel

/-- The scheme of a name is the one in the table with that name, in whatever case. -/
lemma ofName?_eq_some_iff {name : String} {d : Definition} :
    ofName? name = some d ↔ d ∈ table ∧ Text.sameLetters d.name name = true := by
  rw [Text.sameLetters_iff]
  exact find?_key_eq_some_iff nodup_upper_names fun _ => Text.sameLetters_iff

end Definition

namespace AllowList

open Text

/-- The names of a list without the white space around them; blank ones are left out. -/
def nonBlank (names : List String) : List String :=
  (names.map trim).filter (· ≠ "")

/-- The entries in a value of the variable: what stands between commas, outer quotes aside. -/
def entries (text : String) : List String :=
  nonBlank (commaSeparated (unquote text))

/-- The identifiers of the entries that are names of schemes. -/
def recognized (entries : List String) : List UInt16 :=
  entries.filterMap fun e => (Definition.ofName? e).map Definition.id

/-- The entries that are no names of schemes. -/
def unknown (entries : List String) : List String :=
  entries.filter fun e => (Definition.ofName? e).isNone

/-- The list that some entries come to: each known identifier once, and every unknown entry. -/
def ofEntries (entries : List String) : AllowList :=
  ⟨(recognized entries).eraseDups, unknown entries⟩

/-- Some entry names a scheme, in whatever case. -/
def Named (entries : List String) (s : Scheme) : Prop :=
  ∃ e ∈ entries, sameLetters s.name e = true

/-- An entry is the name of some scheme, in whatever case. -/
def Known (e : String) : Prop :=
  ∃ d ∈ Definition.table, sameLetters d.name e = true

/-- Enabling one more identifier adds it to those that are enabled, unless it is one of them. -/
lemma enable_eraseDups (ids : List UInt16) (others : List String) (id : UInt16) :
    enable ⟨ids.eraseDups, others⟩ id = ⟨(ids ++ [id]).eraseDups, others⟩ := by
  rw [enable, List.eraseDups_append]
  by_cases mem : id ∈ ids
  · simp [mem, List.removeAll]
  · simp [mem, List.removeAll, List.eraseDups_cons]

/-- Enabling the scheme of an entry is reading the entry. -/
lemma enable_ofEntries {e : String} {d : Definition} (found : Definition.ofName? e = some d)
    (before : List String) : (ofEntries before).enable d.id = ofEntries (before ++ [e]) := by
  have ids : recognized (before ++ [e]) = recognized before ++ [d.id] := by
    simp [recognized, found]
  have others : unknown (before ++ [e]) = unknown before := by simp [unknown, found]
  rw [ofEntries, ofEntries, ids, others, enable_eraseDups]

/-- Rejecting an entry that is no name is reading the entry. -/
lemma reject_ofEntries {e : String} (missing : Definition.ofName? e = none)
    (before : List String) : (ofEntries before).reject e = ofEntries (before ++ [e]) := by
  simp [reject, ofEntries, recognized, unknown, missing]

/-- The first of some names is left out or stays on its own. -/
lemma nonBlank_cons (name : String) (rest : List String) :
    nonBlank (name :: rest) = nonBlank [name] ++ nonBlank rest := by
  rw [nonBlank, nonBlank, nonBlank, ← List.filter_append, ← List.map_append,
    List.singleton_append]

/-- A name stays without the white space around it, unless it is blank. -/
lemma nonBlank_singleton (name : String) :
    nonBlank [name] = if trim name = "" then [] else [trim name] := by
  by_cases blank : trim name = ""
  · simp [nonBlank, blank]
  · simp [nonBlank, blank]

/-- Reading one more name adds it to the entries, unless it is blank. -/
lemma value_addName (before : List String) (name : String) :
    ((ofEntries before).addName name).value = ofEntries (before ++ nonBlank [name]) := by
  rw [nonBlank_singleton]
  unfold addName
  by_cases blank : trim name = ""
  · rw [if_pos blank, if_pos blank, List.append_nil]
    rfl
  · rw [if_neg blank, if_neg blank]
    cases found : Definition.ofName? (trim name) with
    | some d => exact enable_ofEntries found before
    | none => exact reject_ofEntries found before

/-- Reading names adds those that are not blank to the entries. -/
lemma value_addNames (before names : List String) :
    ((ofEntries before).addNames names).value = ofEntries (before ++ nonBlank names) := by
  induction names generalizing before with
  | nil => simp [addNames, nonBlank]
  | cons name rest ih =>
    rw [addNames, Traced.value_bind, value_addName, ih, List.append_assoc, ← nonBlank_cons]

/-- A list of names comes to what its non-blank names come to. -/
lemma value_ofNames (names : List String) : (ofNames names).value = ofEntries (nonBlank names) :=
  value_addNames [] names

/-- The identifier of a known scheme is recognised when an entry names the scheme. -/
lemma id_mem_recognized {entries : List String} {s : Scheme}
    (known : s.definition ∈ Definition.table) : s.id ∈ recognized entries ↔ Named entries s := by
  rw [recognized, List.mem_filterMap]
  constructor
  · rintro ⟨e, mem, mapped⟩
    obtain ⟨d, found, same⟩ := Option.map_eq_some_iff.1 mapped
    obtain ⟨listed, letters⟩ := Definition.ofName?_eq_some_iff.1 found
    rw [Definition.eq_of_id listed known same] at letters
    exact ⟨e, mem, letters⟩
  · rintro ⟨e, mem, letters⟩
    have found := Definition.ofName?_eq_some_iff.2 ⟨known, letters⟩
    exact ⟨e, mem, Option.map_eq_some_iff.2 ⟨s.definition, found, rfl⟩⟩

/-- An entry is not found when it is the name of no scheme. -/
lemma ofName?_eq_none_iff {e : String} : Definition.ofName? e = none ↔ ¬ Known e := by
  rw [Option.eq_none_iff_forall_ne_some, Known, not_exists]
  exact forall_congr' fun d => not_congr Definition.ofName?_eq_some_iff

/-- Nothing is recognised when no entry is the name of a scheme. -/
lemma recognized_eq_nil_iff {entries : List String} :
    recognized entries = [] ↔ ∀ e ∈ entries, ¬ Known e := by
  rw [recognized, List.filterMap_eq_nil_iff]
  refine forall_congr' fun e => imp_congr_right fun _ => ?_
  rw [Option.map_eq_none_iff, ofName?_eq_none_iff]

/-- Everything is unknown when no entry is the name of a scheme. -/
lemma unknown_eq_self {entries : List String} (missing : ∀ e ∈ entries, ¬ Known e) :
    unknown entries = entries := by
  apply List.filter_eq_self.2
  intro e mem
  rw [ofName?_eq_none_iff.2 (missing e mem)]
  rfl

/-- Entries enable everything when none of them is the name of a scheme. -/
lemma isUnrestricted_ofEntries {entries : List String} :
    (ofEntries entries).isUnrestricted = true ↔ ∀ e ∈ entries, ¬ Known e := by
  rw [← recognized_eq_nil_iff, isUnrestricted, List.isEmpty_iff, List.eq_nil_iff_forall_not_mem,
    List.eq_nil_iff_forall_not_mem]
  exact forall_congr' fun id => not_congr List.mem_eraseDups

/-- A list that is kept to what some entries name. -/
structure Restricts (l : AllowList) (entries : List String) : Prop where
  restricted : l.isUnrestricted = false
  permits : ∀ s : Scheme, s.definition ∈ Definition.table →
    (l.permits s = true ↔ Named entries s)
  /-- No selector with the list lets another scheme through, in either way of narrowing. -/
  narrowed : ∀ sel : Selector, sel.registry.IsBuilt → sel.allowList = l → ∀ active v ids s,
    s ∈ (sel.supported active).value ∨ s ∈ (sel.usableOffer v ids).value → Named entries s

/-- What comes through narrowing is a known scheme that the allow-list permits. -/
lemma permitted_of_narrowed {sel : Selector} {active : List Version} {v : Version}
    {ids : List UInt16} {s : Scheme} (built : sel.registry.IsBuilt)
    (through : s ∈ (sel.supported active).value ∨ s ∈ (sel.usableOffer v ids).value) :
    s.definition ∈ Definition.table ∧ sel.allowList.permits s = true := by
  rcases through with mem | mem
  · obtain ⟨entry, _, _, usable⟩ := Selector.mem_supported.1 mem
    exact ⟨built.mem_table entry, usable.allowed⟩
  · obtain ⟨_, _, found, usable⟩ := Selector.mem_usableOffer.1 mem
    exact ⟨built.mem_table (built.ofId?_eq_some_iff.1 found).1, usable.allowed⟩

/-- Entries of which one is the name of a scheme enable what they name and no more. -/
lemma restricts_ofEntries {entries : List String} {e : String} (mem : e ∈ entries)
    (known : Known e) : (ofEntries entries).Restricts entries := by
  have restricted : (ofEntries entries).isUnrestricted = false := by
    rw [Bool.eq_false_iff, Ne, isUnrestricted_ofEntries]
    intro missing
    exact missing e mem known
  have permits (s : Scheme) (listed : s.definition ∈ Definition.table) :
      (ofEntries entries).permits s = true ↔ Named entries s := by
    rw [AllowList.permits, restricted, Bool.false_or, List.contains_iff_mem, ofEntries,
      List.mem_eraseDups, id_mem_recognized listed]
  refine ⟨restricted, permits, ?_⟩
  intro sel built same active v ids s through
  obtain ⟨listed, allowed⟩ := permitted_of_narrowed built through
  rw [same] at allowed
  exact (permits s listed).1 allowed

/-- The error for entries of which none is the name of a scheme. -/
def noneKnown (entries : List String) : Error :=
  .configuration ("no supported signature scheme in " ++ (textsShape entries).line)

/-- What reading some entries has to come to. -/
structure ReadsAs (entries : List String) (result : Except Error AllowList) : Prop where
  /-- Everything is enabled just when there are no entries. -/
  unrestricted : result = .ok unrestricted ↔ entries = []
  /-- Entries are refused, and shown, just when none of them is the name of a scheme. -/
  refused : result = .error (noneKnown entries) ↔ entries ≠ [] ∧ ∀ e ∈ entries, ¬ Known e
  restricted : (∃ e ∈ entries, Known e) → ∃ l, result = .ok l ∧ l.Restricts entries

/-- Validation refuses a list that enables nothing though entries were given. -/
lemma validated_of_none {l : AllowList} (ids : l.ids = []) (given : l.unrecognized ≠ []) :
    l.validated = .error (noneKnown l.unrecognized) := by
  rw [validated, validate, List.isEmpty_iff.2 ids, List.isEmpty_eq_false_iff.2 given]
  rfl

/-- Validation refuses entries of which none is the name of a scheme. -/
lemma validated_of_missing {entries : List String} (given : entries ≠ [])
    (missing : ∀ e ∈ entries, ¬ Known e) :
    (ofEntries entries).validated = .error (noneKnown entries) := by
  have ids : (ofEntries entries).ids = [] := List.isEmpty_iff.1 (isUnrestricted_ofEntries.2 missing)
  have others : (ofEntries entries).unrecognized = entries := unknown_eq_self missing
  have refused := validated_of_none ids (others.trans_ne given)
  rw [others] at refused
  exact refused

/-- Validation keeps entries of which one is the name of a scheme. -/
lemma validated_of_known {entries : List String} {e : String} (mem : e ∈ entries)
    (known : Known e) : (ofEntries entries).validated = .ok (ofEntries entries) := by
  have ids : (ofEntries entries).ids.isEmpty = false := (restricts_ofEntries mem known).restricted
  rw [validated, validate, ids]
  rfl

/-- Entries come to what they have to come to once their list is validated. -/
lemma readsAs_ofEntries (entries : List String) :
    ReadsAs entries (ofEntries entries).validated := by
  by_cases known : ∃ e ∈ entries, Known e
  · obtain ⟨e, mem, name⟩ := known
    have given : entries ≠ [] := List.ne_nil_of_mem mem
    have kept := restricts_ofEntries mem name
    have read := validated_of_known mem name
    refine ⟨?_, ?_, fun _ => ⟨_, read, kept⟩⟩
    · rw [read, Except.ok.injEq]
      refine ⟨fun same => ?_, fun none => absurd none given⟩
      have restricted := kept.restricted
      rw [same] at restricted
      cases restricted
    · rw [read]
      exact ⟨nofun, fun ⟨_, missing⟩ => absurd name (missing e mem)⟩
  · have missing : ∀ e ∈ entries, ¬ Known e := fun e mem name => known ⟨e, mem, name⟩
    refine ⟨?_, ?_, fun name => absurd name known⟩
    · constructor
      · intro read
        by_contra given
        rw [validated_of_missing given missing] at read
        cases read
      · rintro rfl
        rfl
    · constructor
      · intro refused
        refine ⟨?_, missing⟩
        rintro rfl
        cases refused
      · rintro ⟨given, -⟩
        exact validated_of_missing given missing

/-- A value that is a text means what its entries mean. -/
lemma value_ofVariable {value : ByteArray} {text : String}
    (read : String.fromUTF8? value = some text) :
    (ofVariable (some value)).value = (ofEntries (entries text)).validated := by
  simp only [ofVariable, read]
  by_cases blank : trim text = ""
  · have none : entries text = [] := by
      rw [entries, nonBlank, List.filter_eq_nil_iff]
      intro e mem
      obtain ⟨piece, part, rfl⟩ := List.mem_map.1 mem
      simp [trim_of_mem_commaSeparated (trim_unquote blank) part]
    simp only [blank, if_true, none]
    rfl
  · simp only [blank, if_false, Traced.value_bind, Traced.value_pure, parse, value_ofNames]
    rfl

/--
A variable that is not set enables everything. A value that is not a text is refused. Any other
value is read as its entries.
-/
theorem ofVariable_reads :
    (ofVariable none).value = .ok unrestricted ∧
      (∀ value, String.fromUTF8? value = none →
        (ofVariable (some value)).value = .error (notUnicode value)) ∧
      ∀ value text, String.fromUTF8? value = some text →
        ReadsAs (entries text) (ofVariable (some value)).value := by
  refine ⟨rfl, ?_, ?_⟩
  · intro value unreadable
    simp only [ofVariable, unreadable]
    rfl
  · intro value text read
    rw [value_ofVariable read]
    exact readsAs_ofEntries (entries text)

/-- Two schemes are named, in another case and with blank and unknown entries between them. -/
theorem ofVariable_reads_quoted :
    let text := "\" Ed25519 ,, no_such,ECDSA_sha1\t\""
    String.fromUTF8? text.toUTF8 = some text ∧
      entries text = ["Ed25519", "no_such", "ECDSA_sha1"] ∧
        ∃ l, (ofVariable (some text.toUTF8)).value = .ok l ∧
          l.Restricts ["Ed25519", "no_such", "ECDSA_sha1"] := by
  intro text
  have read := fromUTF8?_toUTF8 text
  have parts : entries text = ["Ed25519", "no_such", "ECDSA_sha1"] := by decide +kernel
  have reads := ofVariable_reads.2.2 text.toUTF8 text read
  rw [parts] at reads
  have known : Known "Ed25519" := ⟨_, List.mem_cons_self, by decide⟩
  exact ⟨read, parts, reads.restricted ⟨"Ed25519", List.mem_cons_self, known⟩⟩

end AllowList

end SchemeNegotiation
