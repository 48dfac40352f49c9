import Mathlib.Data.List.Perm.Basic
import SchemeNegotiation.Policy.DenyList
import SchemeNegotiation.Proofs.Pieces
import SchemeNegotiation.Proofs.Trimming

/-!
# Components of a name that is put together

The separators share no letters with one another and repeat none (`nodup_separators`), so a name is
cut at each of them wherever it stands, in whatever order they are looked for. The components of
two names with a separator between them are those of the one and those of the other, and a name
without separators has no component but itself. Components are what such names can be; their other
spellings come after them (`Decomposed`).
-/

namespace SchemeNegotiation.Components

open Text

/-- The separators share no letters and repeat none. -/
lemma nodup_separators : (separators.flatMap String.toList).Nodup := by decide

/-- No separator is empty. -/
lemma separators_ne_empty {word : String} (mem : word ∈ separators) : word.toList ≠ [] := by
  have every : ∀ w ∈ separators, w.toList ≠ [] := by decide
  exact every word mem

/-- The pieces of some texts that are cut at several words, one word after the other. -/
def cutAt (words : List String) (parts : List (List Char)) : List (List Char) :=
  words.foldl (fun parts word => parts.flatMap (pieces word.toList)) parts

variable {words : List String} {word : String}

/-- To cut at some words is to cut at the first of them, and then at the others. -/
lemma cutAt_cons (word : String) (words : List String) (parts : List (List Char)) :
    cutAt (word :: words) parts = cutAt words (parts.flatMap (pieces word.toList)) := rfl

/-- The texts of two lists are cut on their own. -/
lemma cutAt_append (words : List String) (ps qs : List (List Char)) :
    cutAt words (ps ++ qs) = cutAt words ps ++ cutAt words qs := by
  induction words generalizing ps qs with
  | nil => rfl
  | cons word words ih => rw [cutAt_cons, List.flatMap_append, ih, cutAt_cons, cutAt_cons]

/-- Where the text in a joint cuts into its two sides, the pieces are those of both lists. -/
lemma cutAt_welded {ps qs rs : List (List Char)} {middle first : List Char}
    (split : ∀ a b, cutAt words [a ++ middle ++ b] = cutAt words [a] ++ cutAt words [b])
    (welded : Welded ps ((middle ++ first) :: qs) rs) :
    cutAt words rs = cutAt words ps ++ cutAt words (first :: qs) := by
  generalize start : (middle ++ first) :: qs = ts at welded
  induction welded with
  | last p q ts =>
    cases start
    rw [← List.append_assoc, ← List.singleton_append, cutAt_append, split, List.append_assoc,
      ← cutAt_append, List.singleton_append]
  | cons p _ ih =>
    rw [← List.singleton_append, cutAt_append, ih start, ← List.append_assoc, ← cutAt_append,
      List.singleton_append]

/-- A text is cut at an occurrence of any of the words, when no letter occurs twice in them. -/
lemma cutAt_word (given : ∀ w ∈ words, w.toList ≠ [])
    (nodup : (words.flatMap String.toList).Nodup) (mem : word ∈ words) (a b : List Char) :
    cutAt words [a ++ word.toList ++ b] = cutAt words [a] ++ cutAt words [b] := by
  induction words generalizing a b with
  | nil => cases mem
  | cons w words ih =>
    rw [List.flatMap_cons, List.nodup_append] at nodup
    obtain ⟨own, others, disjoint⟩ := nodup
    have nonempty : w.toList ≠ [] := given w List.mem_cons_self
    rw [cutAt_cons, cutAt_cons, cutAt_cons, List.flatMap_singleton, List.flatMap_singleton,
      List.flatMap_singleton]
    rcases List.mem_cons.1 mem with rfl | later
    · rw [pieces_append_word nonempty own, cutAt_append]
    · have apart : w.toList.Disjoint word.toList := by
        intro c left right
        exact disjoint c left c (List.mem_flatMap.2 ⟨word, later, right⟩) rfl
      obtain ⟨first, back, whole, welded⟩ :=
        welded_pieces_other nonempty (given word mem) apart a b
      rw [whole]
      exact cutAt_welded (ih (fun v inner => given v (List.mem_cons_of_mem w inner)) others later)
        welded

/-- What is left after cutting stands in one of the texts, and none of the words stands in it. -/
lemma exists_of_mem_cutAt (given : ∀ w ∈ words, w.toList ≠ []) {parts : List (List Char)}
    {piece : List Char} (mem : piece ∈ cutAt words parts) :
    (∃ part ∈ parts, piece <:+: part) ∧ ∀ w ∈ words, ¬ w.toList <:+: piece := by
  induction words generalizing parts with
  | nil => exact ⟨⟨piece, mem, List.infix_refl piece⟩, nofun⟩
  | cons w words ih =>
    have nonempty : w.toList ≠ [] := given w List.mem_cons_self
    obtain ⟨⟨part, cutUp, within⟩, absent⟩ :=
      ih (fun v inner => given v (List.mem_cons_of_mem w inner)) mem
    obtain ⟨whole, known, stands⟩ := List.mem_flatMap.1 cutUp
    refine ⟨⟨whole, known, within.trans (infix_of_mem_pieces nonempty stands)⟩, ?_⟩
    intro v listed occurs
    rcases List.mem_cons.1 listed with rfl | later
    · exact absent_of_mem_pieces nonempty stands (occurs.trans within)
    · exact absent v later occurs

/-- Without an occurrence of the words there is nothing to cut. -/
lemma cutAt_of_absent {cs : List Char} (absent : ∀ w ∈ words, ¬ w.toList <:+: cs) :
    cutAt words [cs] = [cs] := by
  induction words with
  | nil => rfl
  | cons w words ih =>
    rw [cutAt_cons, List.flatMap_singleton, pieces_of_absent (absent w List.mem_cons_self)]
    exact ih fun v later => absent v (List.mem_cons_of_mem w later)

/-- Two names with a separator between them have the components of both, in order. -/
lemma standing_append {sep : String} (mem : upper sep ∈ separators) (a b : String) :
    standing (a ++ sep ++ b) = standing a ++ standing b := by
  have raised : (upper (a ++ sep ++ b)).toList =
      (upper a).toList ++ (upper sep).toList ++ (upper b).toList := by
    rw [toList_upper, String.toList_append, String.toList_append, List.map_append, List.map_append,
      toList_upper, toList_upper, toList_upper]
  have cutUp : cutAll (upper (a ++ sep ++ b)).toList =
      cutAll (upper a).toList ++ cutAll (upper b).toList := by
    rw [raised]
    exact cutAt_word (fun _ => separators_ne_empty) nodup_separators mem _ _
  rw [standing, cutUp, List.map_append, List.filter_append, standing, standing]

/-- What a component can be: a name in upper case without separators or white space around it. -/
structure IsPlain (cs : List Char) : Prop where
  nonempty : cs ≠ []
  trimmed : Stripped isBlank cs
  raised : ∀ c ∈ cs, c.isLower = false
  whole : ∀ word ∈ separators, ¬ word.toList <:+: cs

/-- What stands in a name is plain. -/
lemma isPlain_of_mem_standing {s : String} {cs : List Char} (mem : cs ∈ standing s) :
    IsPlain cs := by
  obtain ⟨trimmed, given⟩ := List.mem_filter.1 mem
  obtain ⟨piece, cutUp, rfl⟩ := List.mem_map.1 trimmed
  obtain ⟨⟨_, whole, within⟩, absent⟩ := exists_of_mem_cutAt (fun _ => separators_ne_empty) cutUp
  cases List.mem_singleton.1 whole
  have inner := strip_isInfix isBlank piece
  refine ⟨?_, stripped_strip isBlank piece, ?_, ?_⟩
  · rintro none
    rw [none] at given
    cases given
  · intro c stands
    have raised := (inner.trans within).subset stands
    rw [toList_upper, List.mem_map] at raised
    obtain ⟨d, -, rfl⟩ := raised
    exact isLower_toUpper d
  · intro word listed occurs
    exact absent word listed (occurs.trans inner)

/-- The name itself, trimmed and in upper case, unless it is blank. -/
def alone (s : String) : List (List Char) :=
  if trim s = "" then [] else [(upper (trim s)).toList]

/-- A name without separators stands alone. -/
lemma standing_of_absent {s : String}
    (absent : ∀ w ∈ separators, ¬ w.toList <:+: (upper s).toList) : standing s = alone s := by
  have cutUp : cutAll (upper s).toList = [(upper s).toList] := cutAt_of_absent absent
  have trimmed : strip isBlank (upper s).toList = (upper (trim s)).toList := by
    rw [upper_trim, toList_trim]
  rw [standing, cutUp, List.map_singleton, trimmed, alone]
  by_cases blank : trim s = ""
  · rw [if_pos blank, blank]
    rfl
  · have given : (upper (trim s)).toList.isEmpty = false := by
      rw [toList_upper, List.isEmpty_map, List.isEmpty_eq_false_iff, ne_eq,
        String.toList_eq_nil_iff]
      exact blank
    rw [if_neg blank, List.filter_singleton, given]
    rfl

/-- A name whose letters can be a component is its own only component. -/
lemma IsPlain.standing_eq {s : String} {cs : List Char} (plain : IsPlain cs)
    (raised : (upper s).toList = cs) : standing s = [cs] := by
  have absent : ∀ w ∈ separators, ¬ w.toList <:+: (upper s).toList := by
    rw [raised]
    exact plain.whole
  have cutUp : cutAll (upper s).toList = [(upper s).toList] := cutAt_of_absent absent
  have given : cs.isEmpty = false := List.isEmpty_eq_false_iff.2 plain.nonempty
  rw [standing, cutUp, raised, List.map_singleton, plain.trimmed.strip_eq, List.filter_singleton,
    given]
  rfl

/-- A plain name is in upper case. -/
lemma IsPlain.upper_eq {s : String} (plain : IsPlain s.toList) : upper s = s :=
  upper_eq_self plain.raised

/-- A plain name is its own one component. -/
lemma IsPlain.standing_self {s : String} (plain : IsPlain s.toList) : standing s = [s.toList] :=
  plain.standing_eq (congrArg String.toList plain.upper_eq)

/-- What stands in a plain name is the name. -/
lemma IsPlain.mem_standing_iff {s name : String} (plain : IsPlain s.toList) :
    name.toList ∈ standing s ↔ name = s := by
  rw [plain.standing_self, List.mem_singleton, String.toList_inj]

/-- A name that starts with SHA, and the same name without its first hyphen. -/
inductive Respelled : List Char → List Char → Prop where
  | mk (middle back : List Char) :
    '-' ∉ middle →
    Respelled ("SHA".toList ++ middle ++ '-' :: back) ("SHA".toList ++ middle ++ back)

/-- A component is spelled again when it has a hyphen, and without its first one. -/
lemma respelled_iff {cs ds : List Char} :
    Respelled cs ds ↔ isHyphenated cs = true ∧ unhyphenated cs = ds := by
  constructor
  · rintro ⟨middle, back, absent⟩
    have before : '-' ∉ "SHA".toList ++ middle := by
      intro mem
      rcases List.mem_append.1 mem with first | later
      · exact absurd first (by decide)
      · exact absent later
    constructor
    · rw [isHyphenated, Bool.and_eq_true, List.isPrefixOf_iff_prefix, List.contains_iff_mem,
        List.append_assoc]
      exact ⟨List.prefix_append _ _, by simp⟩
    · rw [unhyphenated, List.erase_append_right _ before, List.erase_cons_head]
  · rintro ⟨hyphenated, rfl⟩
    rw [isHyphenated, Bool.and_eq_true, List.isPrefixOf_iff_prefix, List.contains_iff_mem]
      at hyphenated
    obtain ⟨⟨rest, rfl⟩, mem⟩ := hyphenated
    have first : '-' ∉ "SHA".toList := by decide
    have later : '-' ∈ rest := (List.mem_append.1 mem).resolve_left first
    obtain ⟨middle, back, absent, split, erased⟩ := List.exists_erase_eq later
    rw [unhyphenated, List.erase_append_right _ first, erased, split, ← List.append_assoc,
      ← List.append_assoc]
    exact .mk middle back absent

/-- The other spellings of some components, in order; most components have none. -/
inductive Aliases : List (List Char) → List (List Char) → Prop where
  | nil : Aliases [] []
  | digest {c d cs ds} :
    Respelled c d →
    Aliases cs ds →
    Aliases (c :: cs) (d :: ds)
  | other {c cs ds} :
    (∀ d, ¬ Respelled c d) →
    Aliases cs ds →
    Aliases (c :: cs) ds

/-- The aliases of components are their other spellings, in order. -/
lemma aliases_aliases (cs : List (List Char)) : Aliases cs (aliases cs) := by
  induction cs with
  | nil => exact .nil
  | cons c cs ih =>
    cases hyphenated : isHyphenated c with
    | true =>
      rw [aliases, List.filter_cons_of_pos hyphenated, List.map_cons]
      exact .digest (respelled_iff.2 ⟨hyphenated, rfl⟩) ih
    | false =>
      rw [aliases, List.filter_cons_of_neg (Bool.eq_false_iff.1 hyphenated)]
      apply Aliases.other _ ih
      intro d respelled
      rw [(respelled_iff.1 respelled).1] at hyphenated
      cases hyphenated

/-- An alias is another spelling of some component. -/
lemma mem_aliases {cs : List (List Char)} {d : List Char} :
    d ∈ aliases cs ↔ ∃ c ∈ cs, Respelled c d := by
  rw [aliases, List.mem_map]
  constructor
  · rintro ⟨c, mem, unhyphenated⟩
    obtain ⟨listed, hyphenated⟩ := List.mem_filter.1 mem
    exact ⟨c, listed, respelled_iff.2 ⟨hyphenated, unhyphenated⟩⟩
  · rintro ⟨c, listed, respelled⟩
    obtain ⟨hyphenated, unhyphenated⟩ := respelled_iff.1 respelled
    exact ⟨c, List.mem_filter.2 ⟨listed, hyphenated⟩, unhyphenated⟩

/-- A component of a name stands in it or is another spelling of one that does. -/
lemma mem_ofName {s name : String} :
    name ∈ ofName s ↔
      name.toList ∈ standing s ∨ ∃ cs ∈ standing s, Respelled cs name.toList := by
  rw [← mem_aliases, ← List.mem_append, ofName, List.mem_map]
  constructor
  · rintro ⟨cs, mem, rfl⟩
    rwa [String.toList_ofList]
  · intro mem
    exact ⟨name.toList, mem, String.ofList_toList⟩

/-- The components of a name are in upper case, in either spelling. -/
lemma upper_of_mem_ofName {s name : String} (mem : name ∈ ofName s) : upper name = name := by
  apply upper_eq_self
  intro c inside
  rcases mem_ofName.1 mem with stands | ⟨cs, stands, respelled⟩
  · exact (isPlain_of_mem_standing stands).raised c inside
  · apply (isPlain_of_mem_standing stands).raised
    rw [← (respelled_iff.1 respelled).2] at inside
    exact List.erase_subset inside

/-- Names with the same letters have the same components. -/
lemma ofName_congr {s t : String} (letters : upper s = upper t) : ofName s = ofName t := by
  rw [ofName, ofName, standing, standing, letters]

/-- Components that some parts of a name come to: the parts, then their other spellings. -/
inductive Decomposed : List (List Char) → List String → Prop where
  | mk {parts others} :
    (∀ part ∈ parts, IsPlain part) →
    Aliases parts others →
    Decomposed parts ((parts ++ others).map String.ofList)

/--
The components of two names with a separator between them, in whatever case, are those of the one
and those of the other. All components are parts of the name that cannot be taken apart further,
followed by their other spellings; a name without separators has no part but itself.
-/
theorem ofName_decomposes :
    (∀ a sep b : String, upper sep ∈ separators →
      (ofName (a ++ sep ++ b)).Perm (ofName a ++ ofName b)) ∧
    ∀ s : String, ∃ parts, Decomposed parts (ofName s) ∧
      ((∀ word ∈ separators, ¬ word.toList <:+: (upper s).toList) → parts = alone s) := by
  constructor
  · intro a sep b mem
    have others : aliases (standing a ++ standing b) =
        aliases (standing a) ++ aliases (standing b) := by
      rw [aliases, List.filter_append, List.map_append, aliases, aliases]
    rw [ofName, standing_append mem, others, ofName, ofName, ← List.map_append]
    apply List.Perm.map
    -- The parts of the second name pass the other spellings of the first.
    rw [List.append_assoc, List.append_assoc]
    apply List.Perm.append_left
    rw [← List.append_assoc, ← List.append_assoc]
    exact List.perm_append_comm.append_right _
  · intro s
    refine ⟨standing s, ?_, standing_of_absent⟩
    exact .mk (fun _ => isPlain_of_mem_standing) (aliases_aliases (standing s))

/-- Around a separator, what is left of others is no separator. -/
example : ofName "wiwithth and sha-256/wi" = ["WI", "TH", "SHA-256", "WI", "SHA256"] := by decide

end SchemeNegotiation.Components
