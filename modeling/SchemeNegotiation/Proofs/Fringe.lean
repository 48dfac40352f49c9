import SchemeNegotiation.Proofs.AllowList

/-!
# White space around quotes

Quotes are taken off a text before its pieces are trimmed, so white space around a quoted text keeps
quotes in it. The text and the white space tell which of them stay (`Covers`). What is left of the
padded text is what is left of the text itself with white space and quotes around it
(`exists_stays`), and these go to the first and to the last of its pieces
(`forall₂_commaSeparated`).
-/

namespace SchemeNegotiation

namespace Text

section

variable {p : Char → Bool} {m x y : List Char}

/-- What is stripped off a text is of the class. -/
lemma exists_strip (p : Char → Bool) (cs : List Char) :
    ∃ a b, (∀ c ∈ a, p c = true) ∧ (∀ c ∈ b, p c = true) ∧ cs = a ++ strip p cs ++ b := by
  refine ⟨cs.takeWhile p, ((cs.dropWhile p).reverse.takeWhile p).reverse, ?_, ?_, ?_⟩
  · intro c mem
    exact List.mem_takeWhile_imp mem
  · intro c mem
    exact List.mem_takeWhile_imp (List.mem_reverse.1 mem)
  · rw [strip, List.append_assoc, ← List.reverse_append, List.takeWhile_append_dropWhile,
      List.reverse_reverse, List.takeWhile_append_dropWhile]

/-- A stripped text stays stripped between texts whose outer ends are not of the class. -/
lemma Stripped.pad (stripped : Stripped p m) (given : m ≠ [])
    (left : ∀ c ∈ x.head?, p c = false) (right : ∀ c ∈ y.getLast?, p c = false) :
    Stripped p (x ++ m ++ y) := by
  constructor
  · cases x with
    | nil =>
      rw [List.nil_append, List.head?_append_of_ne_nil _ given]
      exact stripped.first
    | cons c rest => exact left
  · rw [List.append_assoc]
    by_cases none : y = []
    · rw [none, List.append_nil, List.getLast?_append_of_ne_nil _ given]
      exact stripped.last
    · rw [← List.append_assoc, List.getLast?_append_of_ne_nil _ none]
      exact right

end

/-- Whether a character is a double quote. -/
def isQuote (c : Char) : Bool := c == '"'

/--
White space at an end of a text keeps quotes there from being taken off: quotes that end the text,
or, when the text is quotes alone, all of them.
-/
inductive Covers (before text after : List Char) : Prop where
  | front (given : before ≠ []) (starts : text.head? = some '"')
    (more : ∃ c ∈ text, isQuote c = false) : Covers before text after
  | back (given : after ≠ []) (ends : text.getLast? = some '"')
    (more : ∃ c ∈ text, isQuote c = false) : Covers before text after
  /-- Quotes alone are taken off from either end, so there has to be white space at both. -/
  | both (front : before ≠ []) (back : after ≠ []) (given : text ≠ [])
    (quotes : ∀ c ∈ text, isQuote c = true) : Covers before text after

/-- Whether white space keeps quotes from being taken off can be decided. -/
instance (before text after : List Char) : Decidable (Covers before text after) :=
  decidable_of_iff
    ((before ≠ [] ∧ text.head? = some '"' ∨ after ≠ [] ∧ text.getLast? = some '"') ∧
        text.all isQuote = false ∨
      before ≠ [] ∧ after ≠ [] ∧ text ≠ [] ∧ text.all isQuote = true) <| by
    rw [List.all_eq_false, List.all_eq_true]
    simp only [Bool.not_eq_true]
    constructor
    · rintro (⟨⟨white, quote⟩ | ⟨white, quote⟩, more⟩ | ⟨front, back, given, quotes⟩)
      · exact .front white quote more
      · exact .back white quote more
      · exact .both front back given quotes
    · rintro (⟨white, quote, more⟩ | ⟨white, quote, more⟩ | ⟨front, back, given, quotes⟩)
      · exact .inl ⟨.inl ⟨white, quote⟩, more⟩
      · exact .inl ⟨.inr ⟨white, quote⟩, more⟩
      · exact .inr ⟨front, back, given, quotes⟩

/-- A character is white space or a quote. -/
def IsFringe (c : Char) : Prop := isBlank c = true ∨ isQuote c = true

section

variable {before text after q m x y : List Char}

/-- There is no comma among white space and quotes. -/
lemma comma_notMem_of_fringe (fringe : ∀ c ∈ x, IsFringe c) : ',' ∉ x := by
  intro mem
  rcases fringe _ mem with blank | quote
  · rw [isBlank_eq_false (by decide)] at blank
    cases blank
  · cases quote

/-- White space and quotes among which there is no quote are white space. -/
lemma isBlank_of_fringe (fringe : ∀ c ∈ x, IsFringe c) (absent : '"' ∉ x) :
    ∀ c ∈ x, isBlank c = true := by
  intro c mem
  refine (fringe c mem).resolve_right fun quote => absent ?_
  rw [← beq_iff_eq.1 quote]
  exact mem

/-- White space is not a quote. -/
lemma isQuote_eq_false_of_blank {c : Char} (blank : isBlank c = true) : isQuote c = false := by
  cases quote : isQuote c with
  | false => rfl
  | true =>
    rw [beq_iff_eq.1 quote, isBlank_eq_false (by decide)] at blank
    cases blank

/-- There is no quote in white space. -/
lemma quote_notMem_of_blank (blank : ∀ c ∈ x, isBlank c = true) : '"' ∉ x := by
  intro mem
  have wrong := isQuote_eq_false_of_blank (blank _ mem)
  cases wrong

/-- There is a quote among quotes, if there are any. -/
lemma quote_mem_of_ne_nil (quotes : ∀ c ∈ q, isQuote c = true) (given : q ≠ []) : '"' ∈ q := by
  obtain ⟨c, more, rfl⟩ := List.exists_cons_of_ne_nil given
  rw [← beq_iff_eq.1 (quotes c List.mem_cons_self)]
  exact List.mem_cons_self

/-- Of white space and quotes after it, the quotes are stripped off when there is no white space. -/
lemma exists_front (blank : ∀ c ∈ before, isBlank c = true) (quotes : ∀ c ∈ q, isQuote c = true) :
    ∃ off x, before ++ q = off ++ x ∧ (∀ c ∈ off, isQuote c = true) ∧
      (∀ c ∈ x.head?, isQuote c = false) ∧ (∀ c ∈ x, IsFringe c) ∧
      ('"' ∈ x ↔ before ≠ [] ∧ q ≠ []) := by
  cases before with
  | nil => exact ⟨q, [], (List.append_nil q).symm, quotes, nofun, nofun, by simp⟩
  | cons w rest =>
    refine ⟨[], w :: rest ++ q, rfl, nofun, ?_, ?_, ?_⟩
    · intro c first
      cases first
      exact isQuote_eq_false_of_blank (blank w List.mem_cons_self)
    · intro c mem
      exact (List.mem_append.1 mem).imp (blank c) (quotes c)
    · rw [List.mem_append]
      constructor
      · rintro (white | quote)
        · exact absurd white (quote_notMem_of_blank blank)
        · exact ⟨List.cons_ne_nil w rest, List.ne_nil_of_mem quote⟩
      · exact fun ⟨_, given⟩ => .inr (quote_mem_of_ne_nil quotes given)

/-- The same at the back. -/
lemma exists_back (blank : ∀ c ∈ after, isBlank c = true) (quotes : ∀ c ∈ q, isQuote c = true) :
    ∃ off y, q ++ after = y ++ off ∧ (∀ c ∈ off, isQuote c = true) ∧
      (∀ c ∈ y.getLast?, isQuote c = false) ∧ (∀ c ∈ y, IsFringe c) ∧
      ('"' ∈ y ↔ after ≠ [] ∧ q ≠ []) := by
  have blank' : ∀ c ∈ after.reverse, isBlank c = true :=
    fun c mem => blank c (List.mem_reverse.1 mem)
  have quotes' : ∀ c ∈ q.reverse, isQuote c = true :=
    fun c mem => quotes c (List.mem_reverse.1 mem)
  obtain ⟨off, x, split, offQuotes, first, fringe, mem⟩ := exists_front blank' quotes'
  refine ⟨off.reverse, x.reverse, ?_, ?_, ?_, ?_, ?_⟩
  · rw [← List.reverse_append, ← split, List.reverse_append, List.reverse_reverse,
      List.reverse_reverse]
  · exact fun c mem => offQuotes c (List.mem_reverse.1 mem)
  · rwa [List.getLast?_reverse]
  · exact fun c mem => fringe c (List.mem_reverse.1 mem)
  · rw [List.mem_reverse, mem, List.reverse_ne_nil_iff, List.reverse_ne_nil_iff]

variable {a b : List Char}

/-- A text starts with a quote when quotes stand before what is left of it. -/
lemma head?_eq_quote_iff (quotes : ∀ c ∈ a, isQuote c = true) (stripped : Stripped isQuote m)
    (given : m ≠ []) : (a ++ m ++ b).head? = some '"' ↔ a ≠ [] := by
  cases a with
  | nil =>
    rw [List.nil_append, List.head?_append_of_ne_nil _ given]
    constructor
    · intro first
      have wrong := stripped.first _ first
      cases wrong
    · exact fun absent => absurd rfl absent
  | cons c rest =>
    have first := beq_iff_eq.1 (quotes c List.mem_cons_self)
    rw [first]
    exact iff_of_true rfl (List.cons_ne_nil _ _)

/-- A text ends with a quote when quotes stand after what is left of it. -/
lemma getLast?_eq_quote_iff (quotes : ∀ c ∈ b, isQuote c = true) (stripped : Stripped isQuote m)
    (given : m ≠ []) : (a ++ m ++ b).getLast? = some '"' ↔ b ≠ [] := by
  by_cases none : b = []
  · rw [none, List.append_nil, List.getLast?_append_of_ne_nil _ given]
    constructor
    · intro last
      have wrong := stripped.last _ last
      cases wrong
    · exact fun absent => absurd rfl absent
  · refine iff_of_true ?_ none
    rw [List.getLast?_append_of_ne_nil _ none, List.getLast?_eq_some_getLast none]
    exact congrArg some (beq_iff_eq.1 (quotes _ (List.getLast_mem none)))

/-- No quotes can be stripped off white space. -/
lemma stripped_of_blank (blank : ∀ c ∈ x, isBlank c = true) : Stripped isQuote x := by
  constructor
  · exact fun c first => isQuote_eq_false_of_blank (blank c (List.mem_of_head? first))
  · exact fun c last => isQuote_eq_false_of_blank (blank c (List.mem_of_getLast? last))

/-- White space keeps quotes of a text when it stands on a side where the text has some. -/
lemma covers_iff (quotesA : ∀ c ∈ a, isQuote c = true) (quotesB : ∀ c ∈ b, isQuote c = true)
    (stripped : Stripped isQuote m) (given : m ≠ []) :
    Covers before (a ++ m ++ b) after ↔ before ≠ [] ∧ a ≠ [] ∨ after ≠ [] ∧ b ≠ [] := by
  have inner : m.head given ∈ a ++ m ++ b :=
    List.mem_append_left b (List.mem_append_right a (List.head_mem given))
  have plain := stripped.first _ (List.head?_eq_some_head given)
  constructor
  · intro covers
    cases covers with
    | front white starts => exact .inl ⟨white, (head?_eq_quote_iff quotesA stripped given).1 starts⟩
    | back white ends => exact .inr ⟨white, (getLast?_eq_quote_iff quotesB stripped given).1 ends⟩
    | both _ _ _ quotes =>
      rw [quotes _ inner] at plain
      cases plain
  · rintro (⟨white, some⟩ | ⟨white, some⟩)
    · exact .front white ((head?_eq_quote_iff quotesA stripped given).2 some) ⟨_, inner, plain⟩
    · exact .back white ((getLast?_eq_quote_iff quotesB stripped given).2 some) ⟨_, inner, plain⟩

/-- White space keeps quotes alone when it stands on both sides of some. -/
lemma covers_quotes_iff (quotes : ∀ c ∈ text, isQuote c = true) :
    Covers before text after ↔ before ≠ [] ∧ after ≠ [] ∧ text ≠ [] := by
  constructor
  · rintro (⟨-, -, c, mem, other⟩ | ⟨-, -, c, mem, other⟩ | ⟨front, back, given, -⟩)
    · rw [quotes c mem] at other
      cases other
    · rw [quotes c mem] at other
      cases other
    · exact ⟨front, back, given⟩
  · exact fun ⟨front, back, given⟩ => .both front back given quotes

/-- What stays of the text around a text when quotes are stripped off. -/
structure Stays (before text after x y : List Char) : Prop where
  whole : strip isQuote (before ++ text ++ after) = x ++ strip isQuote text ++ y
  front : ∀ c ∈ x, IsFringe c
  back : ∀ c ∈ y, IsFringe c
  quotes : '"' ∈ x ∨ '"' ∈ y ↔ Covers before text after

/-- Around a text that is more than quotes stay white space and quotes. -/
lemma exists_stays_of_given (left : ∀ c ∈ before, isBlank c = true)
    (right : ∀ c ∈ after, isBlank c = true) (given : strip isQuote text ≠ []) :
    ∃ x y, Stays before text after x y := by
  have stripped := stripped_strip isQuote text
  obtain ⟨a, b, quotesA, quotesB, split⟩ := exists_strip isQuote text
  obtain ⟨off, x, front, offFront, first, fringeX, memX⟩ := exists_front left quotesA
  obtain ⟨off', y, back, offBack, last, fringeY, memY⟩ := exists_back right quotesB
  refine ⟨x, y, ?_, fringeX, fringeY, ?_⟩
  · calc strip isQuote (before ++ text ++ after)
      _ = strip isQuote (before ++ (a ++ strip isQuote text ++ b) ++ after) := by rw [← split]
      _ = strip isQuote ((before ++ a) ++ strip isQuote text ++ (b ++ after)) := by
        simp only [List.append_assoc]
      _ = strip isQuote (off ++ (x ++ strip isQuote text ++ y) ++ off') := by
        rw [front, back]
        simp only [List.append_assoc]
      _ = x ++ strip isQuote text ++ y := by
        rw [strip_append offFront offBack, (stripped.pad given first last).strip_eq]
  · rw [split, covers_iff quotesA quotesB stripped given, memX, memY]

/-- Quotes alone stay between white space on both sides. -/
lemma stays_of_sides (left : ∀ c ∈ before, isBlank c = true)
    (right : ∀ c ∈ after, isBlank c = true) (quotes : ∀ c ∈ text, isQuote c = true)
    (front : before ≠ []) (back : after ≠ []) : Stays before text after (before ++ text) after := by
  refine ⟨?_, ?_, fun c mem => .inl (right c mem), ?_⟩
  · rw [strip_eq_nil_iff.2 quotes, List.append_nil]
    apply Stripped.strip_eq
    constructor
    · rw [List.append_assoc, List.head?_append_of_ne_nil _ front]
      exact (stripped_of_blank left).first
    · rw [List.getLast?_append_of_ne_nil _ back]
      exact (stripped_of_blank right).last
  · exact fun c mem => (List.mem_append.1 mem).imp (left c) (quotes c)
  · rw [covers_quotes_iff quotes, List.mem_append]
    constructor
    · rintro ((mem | mem) | mem)
      · exact absurd mem (quote_notMem_of_blank left)
      · exact ⟨front, back, List.ne_nil_of_mem mem⟩
      · exact absurd mem (quote_notMem_of_blank right)
    · exact fun ⟨_, _, given⟩ => .inl (.inr (quote_mem_of_ne_nil quotes given))

/-- Quotes alone at an end of the whole are all stripped off. -/
lemma stays_of_end (left : ∀ c ∈ before, isBlank c = true)
    (right : ∀ c ∈ after, isBlank c = true) (quotes : ∀ c ∈ text, isQuote c = true)
    (one : before = [] ∨ after = []) : Stays before text after before after := by
  refine ⟨?_, fun c mem => .inl (left c mem), fun c mem => .inl (right c mem), ?_⟩
  · rw [strip_eq_nil_iff.2 quotes, List.append_nil]
    rcases one with none | none
    · have off : strip isQuote (text ++ after ++ []) = strip isQuote after :=
        strip_append quotes nofun
      rw [List.append_nil] at off
      rw [none, List.nil_append, List.nil_append, off]
      exact (stripped_of_blank right).strip_eq
    · have off : strip isQuote ([] ++ before ++ text) = strip isQuote before :=
        strip_append nofun quotes
      rw [none, List.append_nil, List.append_nil]
      exact off.trans (stripped_of_blank left).strip_eq
  · rw [covers_quotes_iff quotes]
    constructor
    · rintro (mem | mem)
      · exact absurd mem (quote_notMem_of_blank left)
      · exact absurd mem (quote_notMem_of_blank right)
    · exact fun ⟨front, back, _⟩ => absurd one (not_or.2 ⟨front, back⟩)

/-- Around what is left of a text stay white space and quotes, and it is known when quotes do. -/
lemma exists_stays (left : ∀ c ∈ before, isBlank c = true)
    (right : ∀ c ∈ after, isBlank c = true) (text : List Char) :
    ∃ x y, Stays before text after x y := by
  by_cases given : strip isQuote text = []
  · have quotes := strip_eq_nil_iff.1 given
    by_cases one : before = [] ∨ after = []
    · exact ⟨_, _, stays_of_end left right quotes one⟩
    · obtain ⟨front, back⟩ := not_or.1 one
      exact ⟨_, _, stays_of_sides left right quotes front back⟩
  · exact exists_stays_of_given left right given

end

section

variable {x y : List Char}

/-- A text with characters of two classes put around it. -/
def Pads (x y : List Char) (piece padded : List Char) : Prop :=
  ∃ u v, u ⊆ x ∧ v ⊆ y ∧ padded = u ++ piece ++ v

/-- A word of one letter straddles no join. -/
lemma not_straddles_letter (c : Char) (a b : List Char) : ¬ Straddles [c] a b := by
  rintro ⟨u, v, given, more, -, -, split⟩
  have size := congrArg List.length split
  rw [List.length_append, List.length_singleton] at size
  have := List.length_pos_of_ne_nil given
  have := List.length_pos_of_ne_nil more
  omega

/-- A single piece goes to the last of the pieces that it is put together with. -/
lemma welded_last {ps rs : List (List Char)} (welded : Welded ps [y] rs) :
    List.Forall₂ (Pads [] y) ps rs := by
  generalize last : [y] = qs at welded
  induction welded with
  | last p q qs =>
    cases last
    exact .cons ⟨[], y, List.Subset.refl _, List.Subset.refl _, rfl⟩ .nil
  | cons p _ ih =>
    refine .cons ⟨[], [], List.Subset.refl _, List.nil_subset _, ?_⟩ (ih last)
    rw [List.nil_append, List.append_nil]

/-- Text without commas around a text goes to the first and to the last of its pieces. -/
lemma pads_pieces (left : ',' ∉ x) (right : ',' ∉ y) (m : List Char) :
    List.Forall₂ (Pads x y) (pieces [','] m) (pieces [','] (x ++ m ++ y)) := by
  have whole {cs : List Char} (absent : ',' ∉ cs) : pieces [','] cs = [cs] :=
    pieces_of_absent fun within => absent (within.subset List.mem_cons_self)
  obtain ⟨first, back, inner⟩ := exists_pieces_cons [','] m
  have front : pieces [','] (x ++ m) = (x ++ first) :: back := by
    have welded := welded_pieces (List.cons_ne_nil ',' []) (not_straddles_letter ',' x m)
    rw [whole left, inner] at welded
    generalize pieces [','] (x ++ m) = rs at welded
    cases welded with
    | last => rfl
    | cons _ welded => cases welded
  have welded := welded_pieces (List.cons_ne_nil ',' []) (not_straddles_letter ',' (x ++ m) y)
  rw [whole right, front] at welded
  rw [inner]
  generalize pieces [','] (x ++ m ++ y) = rs at welded
  cases welded_last welded with
  | cons here later =>
    obtain ⟨u, v, none, inside, rfl⟩ := here
    rw [List.subset_nil.1 none, List.nil_append]
    refine .cons ⟨x, v, List.Subset.refl x, inside, rfl⟩ (later.imp ?_)
    rintro p r ⟨u, v, none, inside, rfl⟩
    exact ⟨u, v, List.Subset.trans none (List.nil_subset x), inside, rfl⟩

/-- The same of the texts between the commas of a text. -/
lemma forall₂_commaSeparated {s t : String} (whole : t.toList = x ++ s.toList ++ y)
    (left : ',' ∉ x) (right : ',' ∉ y) :
    List.Forall₂ (fun p r => Pads x y p.toList r.toList) (commaSeparated s) (commaSeparated t) := by
  rw [commaSeparated, commaSeparated, whole, List.forall₂_map_left_iff, List.forall₂_map_right_iff]
  refine (pads_pieces left right s.toList).imp fun p r pads => ?_
  rwa [String.toList_ofList, String.toList_ofList]

end

end Text

end SchemeNegotiation
