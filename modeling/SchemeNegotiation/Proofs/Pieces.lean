import Mathlib.Data.List.Infix
import Mathlib.Tactic.Lemma
import SchemeNegotiation.Text.Reading

/-!
# Cutting a text at a word

The pieces of a text are parts of it (`infix_of_mem_pieces`) in which the word does not occur
(`absent_of_mem_pieces`). Where no occurrence of the word straddles the join of two texts, their
pieces are put together at the join (`welded_pieces`). In a word without repeated letters no end is
a beginning, so a text is cut at an occurrence of the word into the pieces of both sides
(`pieces_append_word`); and at another word, without a letter in common, it is not cut at all
(`welded_pieces_other`).
-/

namespace SchemeNegotiation.Text

variable {word other cs piece a b : List Char}

/-- What is skipped is dropped before the rest is cut. -/
lemma cut_eq_pieces_drop (word : List Char) (skip : Nat) (cs : List Char) :
    cut word skip cs = pieces word (cs.drop skip) := by
  induction cs generalizing skip with
  | nil => rw [List.drop_nil, pieces_nil, cut]
  | cons c rest ih =>
    cases skip with
    | zero => rfl
    | succ skip => exact ih skip

/-- A text that starts with the word has an empty first piece. -/
lemma pieces_found (given : word ≠ []) (rest : List Char) :
    pieces word (word ++ rest) = [] :: pieces word rest := by
  obtain ⟨c, more, rfl⟩ := List.exists_cons_of_ne_nil given
  have starts : (c :: more).isPrefixOf (c :: (more ++ rest)) = true :=
    List.isPrefixOf_iff_prefix.2 (List.prefix_append (c :: more) rest)
  rw [List.cons_append, pieces, cut, if_pos starts, cut_eq_pieces_drop, List.length_cons,
    Nat.add_sub_cancel, List.drop_left]

/-- A character that starts no occurrence of the word belongs to the first piece. -/
lemma pieces_cons {c : Char} {rest : List Char} (absent : ¬ word <+: c :: rest) :
    pieces word (c :: rest) = consFirst c (pieces word rest) := by
  rw [← List.isPrefixOf_iff_prefix] at absent
  rw [pieces, cut, if_neg absent]
  rfl

/-- A text is empty, or it starts with the word, or its first character starts no occurrence. -/
@[elab_as_elim]
theorem pieces_induction {motive : List Char → Prop} (given : word ≠ []) (nil : motive [])
    (found : ∀ rest, motive rest → motive (word ++ rest))
    (cons : ∀ c rest, ¬ word <+: c :: rest → motive rest → motive (c :: rest))
    (cs : List Char) : motive cs := by
  induction size : cs.length using Nat.strong_induction_on generalizing cs with
  | _ n ih =>
    cases cs with
    | nil => exact nil
    | cons c rest =>
      by_cases starts : word <+: c :: rest
      · obtain ⟨after, split⟩ := starts
        have shorter : after.length < n := by
          have positive := List.length_pos_of_ne_nil given
          rw [← size, ← split, List.length_append]
          omega
        rw [← split]
        exact found after (ih _ shorter after rfl)
      · refine cons c rest starts (ih rest.length ?_ rest rfl)
        rw [← size, List.length_cons]
        omega

/-- There is a first piece. -/
lemma exists_pieces_cons (word cs : List Char) : ∃ first back, pieces word cs = first :: back :=
  List.exists_cons_of_ne_nil (cut_ne_nil word 0 cs)

/-- A text starts with its first piece. -/
lemma first_isPrefix {first : List Char} {back : List (List Char)} (given : word ≠ [])
    (cutUp : pieces word cs = first :: back) : first <+: cs := by
  induction cs using pieces_induction given generalizing first back with
  | nil =>
    rw [pieces_nil] at cutUp
    cases cutUp
    exact List.nil_prefix
  | found rest ih =>
    rw [pieces_found given] at cutUp
    cases cutUp
    exact List.nil_prefix
  | cons c rest absent ih =>
    obtain ⟨first', back', inner⟩ := exists_pieces_cons word rest
    rw [pieces_cons absent, inner] at cutUp
    cases cutUp
    exact List.cons_prefix_cons.2 ⟨rfl, ih inner⟩

/-- The pieces of a text stand in the text. -/
lemma infix_of_mem_pieces (given : word ≠ []) (mem : piece ∈ pieces word cs) : piece <:+: cs := by
  induction cs using pieces_induction given with
  | nil =>
    rw [pieces_nil, List.mem_singleton] at mem
    exact mem ▸ List.infix_refl []
  | found rest ih =>
    rw [pieces_found given] at mem
    rcases List.mem_cons.1 mem with rfl | later
    · exact List.nil_infix
    · exact (ih later).trans (List.suffix_append word rest).isInfix
  | cons c rest absent ih =>
    obtain ⟨first, back, inner⟩ := exists_pieces_cons word rest
    rw [pieces_cons absent, inner, consFirst] at mem
    rcases List.mem_cons.1 mem with rfl | later
    · exact (List.cons_prefix_cons.2 ⟨rfl, first_isPrefix given inner⟩).isInfix
    · exact List.infix_cons (ih (inner ▸ List.mem_cons_of_mem first later))

/-- The word stands in none of the pieces. -/
lemma absent_of_mem_pieces (given : word ≠ []) (mem : piece ∈ pieces word cs) :
    ¬ word <:+: piece := by
  induction cs using pieces_induction given generalizing piece with
  | nil =>
    rw [pieces_nil, List.mem_singleton] at mem
    rw [mem, List.infix_nil]
    exact given
  | found rest ih =>
    rw [pieces_found given] at mem
    rcases List.mem_cons.1 mem with rfl | later
    · rw [List.infix_nil]
      exact given
    · exact ih later
  | cons c rest absent ih =>
    obtain ⟨first, back, inner⟩ := exists_pieces_cons word rest
    rw [pieces_cons absent, inner, consFirst] at mem
    rcases List.mem_cons.1 mem with rfl | later
    · -- An occurrence at the front of the piece would be one at the front of the text.
      rw [List.infix_cons_iff]
      rintro (front | within)
      · exact absent (front.trans (List.cons_prefix_cons.2 ⟨rfl, first_isPrefix given inner⟩))
      · exact ih (inner ▸ List.mem_cons_self) within
    · exact ih (inner ▸ List.mem_cons_of_mem first later)

/-- A text in which the word does not stand is one piece. -/
lemma pieces_of_absent (absent : ¬ word <:+: cs) : pieces word cs = [cs] := by
  induction cs with
  | nil => rfl
  | cons c rest ih =>
    rw [List.infix_cons_iff, not_or] at absent
    rw [pieces_cons absent.1, ih absent.2, consFirst]

/-- Two lists of pieces put together, the last of the one and the first of the other as one. -/
inductive Welded : List (List Char) → List (List Char) → List (List Char) → Prop where
  | last (p q : List Char) (qs : List (List Char)) : Welded [p] (q :: qs) ((p ++ q) :: qs)
  | cons (p : List Char) {ps qs rs : List (List Char)} :
    Welded ps qs rs →
    Welded (p :: ps) qs (p :: rs)

/-- Another character in front goes to the first piece of the whole. -/
lemma Welded.consFirst {ps qs rs : List (List Char)} (welded : Welded ps qs rs) (c : Char) :
    Welded (consFirst c ps) qs (consFirst c rs) := by
  cases welded with
  | last p q qs => exact .last (c :: p) q qs
  | cons p welded => exact .cons (c :: p) welded

/-- An empty first piece is put to the last one without a trace. -/
lemma Welded.eq_append {ps qs rs : List (List Char)} (welded : Welded ps ([] :: qs) rs) :
    rs = ps ++ qs := by
  generalize start : [] :: qs = ts at welded
  induction welded with
  | last p q ts =>
    cases start
    rw [List.append_nil, List.singleton_append]
  | cons p _ ih => rw [ih start, List.cons_append]

/-- An occurrence of a word that begins in one text and ends in the next. -/
def Straddles (word a b : List Char) : Prop :=
  ∃ u v, u ≠ [] ∧ v ≠ [] ∧ u <:+ a ∧ v <+: b ∧ word = u ++ v

/-- A word that does not start a text and straddles no join does not start the longer text. -/
lemma not_prefix_append {c : Char} {rest : List Char} (absent : ¬ word <+: c :: rest)
    (apart : ¬ Straddles word (c :: rest) b) : ¬ word <+: c :: (rest ++ b) := by
  intro starts
  have front : c :: rest <+: c :: (rest ++ b) := List.prefix_append (c :: rest) b
  rcases List.prefix_or_prefix_of_prefix starts front with inside | ⟨v, split⟩
  · exact absent inside
  · apply apart
    refine ⟨c :: rest, v, List.cons_ne_nil c rest, ?_, List.suffix_refl _, ?_, split.symm⟩
    · rintro rfl
      rw [List.append_nil] at split
      exact absent (split ▸ List.prefix_refl _)
    · rw [← split] at starts
      exact (List.prefix_append_right_inj (c :: rest)).1 starts

/-- Where no occurrence straddles the join of two texts, their pieces are put together there. -/
lemma welded_pieces (given : word ≠ []) (apart : ¬ Straddles word a b) :
    Welded (pieces word a) (pieces word b) (pieces word (a ++ b)) := by
  have later {front rest : List Char} (tail : rest <:+ front) (out : ¬ Straddles word front b) :
      ¬ Straddles word rest b := by
    rintro ⟨u, v, nonempty, more, ends, starts, split⟩
    exact out ⟨u, v, nonempty, more, ends.trans tail, starts, split⟩
  induction a using pieces_induction given with
  | nil =>
    obtain ⟨first, back, whole⟩ := exists_pieces_cons word b
    rw [List.nil_append, pieces_nil, whole]
    exact .last [] first back
  | found rest ih =>
    rw [List.append_assoc, pieces_found given, pieces_found given]
    exact .cons [] (ih (later (List.suffix_append word rest) apart))
  | cons c rest absent ih =>
    rw [List.cons_append, pieces_cons absent, pieces_cons (not_prefix_append absent apart)]
    exact (ih (later (List.suffix_cons c rest) apart)).consFirst c

/-- A text is cut at an occurrence of a word without repeated letters. -/
lemma pieces_append_word (given : word ≠ []) (nodup : word.Nodup) (a b : List Char) :
    pieces word (a ++ word ++ b) = pieces word a ++ pieces word b := by
  have apart : ¬ Straddles word a (word ++ b) := by
    rintro ⟨u, v, nonempty, more, -, starts, split⟩
    obtain ⟨x, u, rfl⟩ := List.exists_cons_of_ne_nil nonempty
    obtain ⟨y, v, rfl⟩ := List.exists_cons_of_ne_nil more
    -- The occurrence would go on with the first letter of the word.
    rw [split, List.cons_append, List.cons_append, List.cons_prefix_cons] at starts
    rw [split, List.cons_append, List.nodup_cons, ← starts.1] at nodup
    exact nodup.1 (List.mem_append_right u List.mem_cons_self)
  have welded := welded_pieces given apart
  rw [pieces_found given, ← List.append_assoc] at welded
  exact welded.eq_append

/-- A text is cut at the comma between two texts into the pieces of both. -/
lemma commaSeparated_append (s t : String) :
    commaSeparated (s ++ "," ++ t) = commaSeparated s ++ commaSeparated t := by
  have comma : (",").toList = [','] := rfl
  have cutUp := pieces_append_word (List.cons_ne_nil ',' []) (by decide) s.toList t.toList
  rw [commaSeparated, String.toList_append, String.toList_append, comma, cutUp, List.map_append,
    commaSeparated, commaSeparated]

/-- A text is not cut where another word stands that shares no letter with the word. -/
lemma welded_pieces_other (given : word ≠ []) (more : other ≠ []) (disjoint : word.Disjoint other)
    (a b : List Char) : ∃ first back, pieces word b = first :: back ∧
      Welded (pieces word a) ((other ++ first) :: back) (pieces word (a ++ other ++ b)) := by
  have left : ¬ Straddles word a (other ++ b) := by
    rintro ⟨u, v, -, nonempty, -, starts, split⟩
    obtain ⟨y, v, rfl⟩ := List.exists_cons_of_ne_nil nonempty
    obtain ⟨o, rest, rfl⟩ := List.exists_cons_of_ne_nil more
    rw [List.cons_append, List.cons_prefix_cons] at starts
    rw [split] at disjoint
    exact disjoint (List.mem_append_right u List.mem_cons_self) (starts.1 ▸ List.mem_cons_self)
  have right : ¬ Straddles word other b := by
    rintro ⟨u, v, nonempty, -, ends, -, split⟩
    obtain ⟨x, u, rfl⟩ := List.exists_cons_of_ne_nil nonempty
    rw [split] at disjoint
    exact disjoint List.mem_cons_self (ends.subset List.mem_cons_self)
  have absent : ¬ word <:+: other := by
    intro within
    obtain ⟨x, rest, rfl⟩ := List.exists_cons_of_ne_nil given
    exact disjoint List.mem_cons_self (within.subset List.mem_cons_self)
  obtain ⟨first, back, pieceB⟩ := exists_pieces_cons word b
  have inner : pieces word (other ++ b) = (other ++ first) :: back := by
    have welded := welded_pieces given right
    rw [pieces_of_absent absent, pieceB] at welded
    generalize pieces word (other ++ b) = rs at welded
    cases welded with
    | last => rfl
    | cons _ welded => cases welded
  refine ⟨first, back, pieceB, ?_⟩
  rw [← inner, List.append_assoc]
  exact welded_pieces given left

end SchemeNegotiation.Text
