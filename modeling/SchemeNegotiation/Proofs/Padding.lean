import SchemeNegotiation.Proofs.Fringe

/-!
# White space around the value of the variable

Cutting, trimming, looking up and escaping all keep the quotes that are in a text, and no scheme has
a quote in its name. So what a value comes to has as many quotes in its unknown entries, or in the
error that shows them, as are left in the value (`AllowList.validated_ne`). White space around the
value is therefore without effect just when it keeps no quote from being taken off
(`AllowList.ofVariable_padded_iff`).
-/

namespace SchemeNegotiation

namespace Text

/-- How many double quotes there are in some texts. -/
def quotes (texts : List String) : Nat :=
  (texts.flatMap String.toList).count '"'

/-- The quotes of some texts are those of the first and those of the others. -/
lemma quotes_cons (s : String) (rest : List String) :
    quotes (s :: rest) = s.toList.count '"' + quotes rest := by
  rw [quotes, List.flatMap_cons, List.count_append, quotes]

/-- Cutting a text at its commas keeps its quotes. -/
lemma quotes_commaSeparated (s : String) : quotes (commaSeparated s) = s.toList.count '"' := by
  have counted (cs : List Char) : (pieces [','] cs).flatten.count '"' = cs.count '"' := by
    induction cs using pieces_induction (List.cons_ne_nil ',' []) with
    | nil => rfl
    | found rest ih =>
      have comma : [','].count '"' = 0 := rfl
      rw [pieces_found (List.cons_ne_nil ',' []), List.flatten_cons, List.nil_append, ih,
        List.count_append, comma, Nat.zero_add]
    | cons c rest absent ih =>
      obtain ⟨first, back, inner⟩ := exists_pieces_cons [','] rest
      rw [inner, List.flatten_cons] at ih
      rw [pieces_cons absent, inner, consFirst, List.flatten_cons, List.cons_append,
        List.count_cons, ih, List.count_cons]
  have characters : (commaSeparated s).flatMap String.toList = (pieces [','] s.toList).flatten := by
    rw [commaSeparated, List.flatMap_map]
    simp only [String.toList_ofList, List.flatMap_id']
  rw [quotes, characters, counted]

/-- Trimming keeps the number of quotes. -/
lemma count_quote_trim (s : String) : (trim s).toList.count '"' = s.toList.count '"' := by
  obtain ⟨a, b, left, right, split⟩ := exists_strip isBlank s.toList
  have whole := congrArg (List.count '"') split
  rw [List.count_append, List.count_append, List.count_eq_zero.2 (quote_notMem_of_blank left),
    List.count_eq_zero.2 (quote_notMem_of_blank right), Nat.zero_add, Nat.add_zero] at whole
  rw [toList_trim, whole]

/-- No hexadecimal digit is a quote. -/
lemma hexDigit_ne_quote : ∀ n < 16, hexDigit n ≠ '"' := by decide

/-- There is no quote in a hexadecimal number. -/
lemma quote_notMem_paddedHex (width n : Nat) : '"' ∉ paddedHex width n := by
  induction width generalizing n with
  | zero => exact List.not_mem_nil
  | succ width ih =>
    rw [paddedHex, List.mem_append, List.mem_singleton, not_or]
    exact ⟨ih (n / 16), (hexDigit_ne_quote (n % 16) (Nat.mod_lt n (by decide))).symm⟩

/-- Escaping keeps the number of quotes. -/
lemma count_quote_escape (c : Char) : (escape c).count '"' = [c].count '"' := by
  by_cases double : c = '"'
  · rw [double]
    rfl
  · have other : '"' ∉ [c] := fun mem => double (List.mem_singleton.1 mem).symm
    rw [List.count_eq_zero.2 other, List.count_eq_zero, escape, if_neg double]
    split_ifs with back line feed tab zero hidden
    · decide
    · decide
    · decide
    · decide
    · decide
    · rw [byNumber, hex, List.mem_append, List.mem_append, not_or, not_or]
      exact ⟨⟨by decide, quote_notMem_paddedHex _ _⟩, by decide⟩
    · exact other

/-- A quoted text has two quotes more. -/
lemma count_quote_quote (s : String) : (quote s).toList.count '"' = 2 + s.toList.count '"' := by
  have inner (cs : List Char) : (cs.flatMap escape).count '"' = cs.count '"' := by
    induction cs with
    | nil => rfl
    | cons c rest ih =>
      rw [List.flatMap_cons, List.count_append, count_quote_escape, ih, ← List.count_append,
        List.singleton_append]
  rw [quote, String.toList_ofList, List.count_append, List.count_append, inner]
  simp only [List.count_singleton_self]
  omega

/-- Joining texts keeps the number of quotes. -/
lemma quotes_intercalate (texts : List String) :
    (", ".intercalate texts).toList.count '"' = quotes texts := by
  induction texts with
  | nil => rfl
  | cons s rest ih =>
    cases rest with
    | nil =>
      rw [String.intercalate_singleton, quotes_cons]
      rfl
    | cons t more =>
      have separator : (", ").toList.count '"' = 0 := rfl
      rw [String.intercalate_cons_cons, String.toList_append, String.toList_append,
        List.count_append, List.count_append, ih, separator, quotes_cons s]
      rfl

/-- Quoted texts have two quotes more for each of them. -/
lemma quotes_map_quote (texts : List String) :
    quotes (texts.map quote) = 2 * texts.length + quotes texts := by
  induction texts with
  | nil => rfl
  | cons s rest ih =>
    rw [List.map_cons, quotes_cons, quotes_cons, count_quote_quote, ih, List.length_cons]
    omega

/-- Texts are shown as they are quoted. -/
lemma lines_atoms (texts : List String) :
    Shape.line.lines (texts.map fun text => .atom (quote text)) = texts.map quote := by
  induction texts with
  | nil => rfl
  | cons s rest ih => rw [List.map_cons, Shape.line.lines, ih, Shape.line, List.map_cons]

end Text

namespace AllowList

open Text

/-- The text of a list has two quotes for each entry and those of the entries. -/
lemma count_quote_line (texts : List String) :
    (textsShape texts).line.toList.count '"' = 2 * texts.length + quotes texts := by
  have opening : ("[").toList.count '"' = 0 := rfl
  have closing : ("]").toList.count '"' = 0 := rfl
  rw [textsShape, Shape.line, lines_atoms, String.toList_append, String.toList_append,
    List.count_append, List.count_append, quotes_intercalate, quotes_map_quote, opening, closing,
    Nat.zero_add, Nat.add_zero]

/-- Errors that are equal show as many quotes. -/
lemma count_of_noneKnown {entries padded : List String}
    (same : noneKnown padded = noneKnown entries) :
    2 * padded.length + quotes padded = 2 * entries.length + quotes entries := by
  have texts := Error.configuration.inj same
  have counts := congrArg (fun text : String => text.toList.count '"') texts
  simp only [String.toList_append, List.count_append, count_quote_line] at counts
  exact Nat.add_left_cancel counts

/-- Trimming names and leaving out blank ones keeps the number of quotes. -/
lemma quotes_nonBlank (names : List String) : quotes (nonBlank names) = quotes names := by
  induction names with
  | nil => rfl
  | cons name rest ih =>
    rw [nonBlank_cons, quotes_cons, ← ih, ← count_quote_trim name, nonBlank_singleton]
    by_cases blank : trim name = ""
    · rw [if_pos blank, blank, List.nil_append]
      exact (Nat.zero_add _).symm
    · rw [if_neg blank, List.singleton_append, quotes_cons]

/-- No scheme has a quote in its name. -/
lemma quote_notMem_name : ∀ d ∈ Definition.table, '"' ∉ (upper d.name).toList := by decide +kernel

/-- A name that finds a scheme has no quote. -/
lemma quote_notMem_of_found {e : String} {d : Definition} (found : Definition.ofName? e = some d) :
    '"' ∉ e.toList := by
  obtain ⟨listed, same⟩ := Definition.ofName?_eq_some_iff.1 found
  intro mem
  apply quote_notMem_name d listed
  rw [sameLetters_iff.1 same]
  exact (mem_upper_iff (by decide)).2 mem

/-- All quotes in some entries are in the unknown ones. -/
lemma quotes_unknown (entries : List String) : quotes (unknown entries) = quotes entries := by
  induction entries with
  | nil => rfl
  | cons e rest ih =>
    cases found : Definition.ofName? e with
    | none =>
      have kept : unknown (e :: rest) = e :: unknown rest := by simp [unknown, found]
      rw [kept, quotes_cons, quotes_cons, ih]
    | some d =>
      have dropped : unknown (e :: rest) = unknown rest := by simp [unknown, found]
      have absent := quote_notMem_of_found found
      rw [dropped, quotes_cons, List.count_eq_zero.2 absent, Nat.zero_add, ih]

/-- The entries of a text have the quotes that stay when the outer ones are taken off. -/
lemma quotes_entries (text : String) : quotes (entries text) = (unquote text).toList.count '"' := by
  rw [entries, quotes_nonBlank, quotes_commaSeparated]

/-- Validation keeps what some entries come to, or refuses the entries. -/
lemma validated_ofEntries (entries : List String) :
    (ofEntries entries).validated = .ok (ofEntries entries) ∨
      (ofEntries entries).validated = .error (noneKnown entries) := by
  by_cases known : ∃ e ∈ entries, Known e
  · obtain ⟨e, mem, name⟩ := known
    exact .inl (validated_of_known mem name)
  · by_cases given : entries = []
    · rw [given]
      exact .inl rfl
    · exact .inr (validated_of_missing given fun e mem name => known ⟨e, mem, name⟩)

/-- With more quotes in them, and no fewer of them, entries come to something else. -/
lemma validated_ne {entries padded : List String} (longer : entries.length ≤ padded.length)
    (more : quotes entries < quotes padded) :
    (ofEntries padded).validated ≠ (ofEntries entries).validated := by
  intro same
  rcases validated_ofEntries padded with read | refused
  · rcases validated_ofEntries entries with read' | refused'
    · rw [read, read', Except.ok.injEq] at same
      have counted : quotes (unknown padded) = quotes (unknown entries) :=
        congrArg (fun l => quotes l.unrecognized) same
      rw [quotes_unknown, quotes_unknown] at counted
      omega
    · rw [read, refused'] at same
      cases same
  · rcases validated_ofEntries entries with read' | refused'
    · rw [refused, read'] at same
      cases same
    · rw [refused, refused', Except.error.injEq] at same
      have counted := count_of_noneKnown same
      omega

section

variable {x y : List Char} {names padded : List String}

/-- White space around names is without effect. -/
lemma nonBlank_eq_of_pads (left : ∀ c ∈ x, isBlank c = true) (right : ∀ c ∈ y, isBlank c = true)
    (pads : List.Forall₂ (fun p r : String => Pads x y p.toList r.toList) names padded) :
    nonBlank padded = nonBlank names := by
  have trimmed : padded.map trim = names.map trim := by
    induction pads with
    | nil => rfl
    | cons here _ ih =>
      obtain ⟨u, v, front, back, whole⟩ := here
      rw [List.map_cons, List.map_cons, ih, trim, whole,
        strip_append (fun c mem => left c (front mem)) fun c mem => right c (back mem), ← trim]
  rw [nonBlank, trimmed, nonBlank]

/-- A name is blank when it is blank with something around it. -/
lemma trim_of_pads {p r : String} (pads : Pads x y p.toList r.toList) (blank : trim r = "") :
    trim p = "" := by
  obtain ⟨u, v, -, -, whole⟩ := pads
  rw [trim_eq_empty_iff] at blank ⊢
  intro c mem
  apply blank
  rw [whole]
  exact List.mem_append_left v (List.mem_append_right u mem)

/-- With something around them, no fewer names stay. -/
lemma length_nonBlank_le_of_pads
    (pads : List.Forall₂ (fun p r : String => Pads x y p.toList r.toList) names padded) :
    (nonBlank names).length ≤ (nonBlank padded).length := by
  induction pads with
  | nil => exact Nat.le_refl _
  | @cons p r ps rs here _ ih =>
    have first : (nonBlank [p]).length ≤ (nonBlank [r]).length := by
      rw [nonBlank_singleton p, nonBlank_singleton r]
      by_cases blank : trim r = ""
      · rw [if_pos (trim_of_pads here blank)]
        exact Nat.zero_le _
      · rw [if_neg blank]
        exact nonBlank_singleton p ▸ List.length_filter_le _ _
    rw [nonBlank_cons p, nonBlank_cons r, List.length_append, List.length_append]
    exact Nat.add_le_add first ih

end

/-- White space around a value changes what it comes to just when it keeps quotes in the value. -/
theorem ofVariable_padded_iff {before text after : String} (left : trim before = "")
    (right : trim after = "") :
    (ofVariable (some (before ++ text ++ after).toUTF8)).value =
        (ofVariable (some text.toUTF8)).value ↔
      ¬ Covers before.toList text.toList after.toList := by
  rw [value_ofVariable (fromUTF8?_toUTF8 _), value_ofVariable (fromUTF8?_toUTF8 _)]
  rw [trim_eq_empty_iff] at left right
  obtain ⟨x, y, stays⟩ := exists_stays left right text.toList
  have unquoted : (unquote (before ++ text ++ after)).toList = x ++ (unquote text).toList ++ y := by
    rw [toList_unquote, toList_unquote, String.toList_append, String.toList_append]
    exact stays.whole
  have pads := forall₂_commaSeparated unquoted (comma_notMem_of_fringe stays.front)
    (comma_notMem_of_fringe stays.back)
  rw [← stays.quotes]
  constructor
  · intro same quote
    refine validated_ne (length_nonBlank_le_of_pads pads) ?_ same
    have more : 0 < x.count '"' + y.count '"' := by
      rcases quote with front | back
      · exact Nat.add_pos_left (List.count_pos_iff.2 front) _
      · exact Nat.add_pos_right _ (List.count_pos_iff.2 back)
    have plain := quotes_entries text
    have padded := quotes_entries (before ++ text ++ after)
    rw [unquoted, List.count_append, List.count_append] at padded
    rw [entries] at plain padded
    omega
  · intro absent
    rw [not_or] at absent
    have same := nonBlank_eq_of_pads (isBlank_of_fringe stays.front absent.1)
      (isBlank_of_fringe stays.back absent.2) pads
    rw [entries, entries, same]

/-- Quotes inside a value do no harm; quotes around the last name are kept by a line break. -/
theorem ofVariable_padded_quotes :
    trim "\t" = "" ∧ trim "\n" = "" ∧
      (ofVariable (some ("\t" ++ "none, \"rsa\", ed25519" ++ "\n").toUTF8)).value =
        (ofVariable (some "none, \"rsa\", ed25519".toUTF8)).value ∧
      (ofVariable (some ("\t" ++ "none, \"ed25519\"" ++ "\n").toUTF8)).value ≠
        (ofVariable (some "none, \"ed25519\"".toUTF8)).value :=
  ⟨by decide, by decide, (ofVariable_padded_iff (by decide) (by decide)).2 (by decide),
    fun same => (ofVariable_padded_iff (by decide) (by decide)).1 same (by decide)⟩

/-- A space in front of a list in quotes makes its first name unknown. -/
theorem ofVariable_padded_front :
    trim " " = "" ∧ trim "" = "" ∧
      (ofVariable (some "\"ed25519, RSA_PKCS1_SHA256\"".toUTF8)).value =
        .ok ⟨[0x0807, 0x0401], []⟩ ∧
      (ofVariable (some (" " ++ "\"ed25519, RSA_PKCS1_SHA256\"" ++ "").toUTF8)).value =
        .ok ⟨[0x0401], ["\"ed25519"]⟩ := by
  rw [value_ofVariable (fromUTF8?_toUTF8 _), value_ofVariable (fromUTF8?_toUTF8 _)]
  decide +kernel

end AllowList

end SchemeNegotiation
