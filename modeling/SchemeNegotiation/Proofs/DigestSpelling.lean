import SchemeNegotiation.Proofs.DenyVerdict

/-!
# Two spellings of a digest

The digests of the SHA family are spelled with a hyphen or without. A use goes by the plain spelling
wherever the hyphenated one is a component (`SpelledPlain`), and the digests in parameters go by the
plain spelling alone. It does not go by the hyphenated spelling where the plain one is a component
(`SpelledHyphenated`). So an entry with a hyphen does not stand for the entry without: the two agree
on a use when it goes by both spellings or by neither, and on all uses only when the other entries
leave nothing for them to refuse (`spellings_agree_iff`).
-/

namespace SchemeNegotiation.DenyList

open Text Components

/-- The uses that go by the hyphenated spelling of a digest. -/
inductive SpelledHyphenated (digits algorithm : String) : Prop where
  | component :
    ("SHA-" ++ digits).toList ∈ standing algorithm →
    SpelledHyphenated digits algorithm
  | doubled :
    ("SHA--" ++ digits).toList ∈ standing algorithm →
    SpelledHyphenated digits algorithm

/-- The uses that go by the plain spelling of a digest. -/
inductive SpelledPlain (digits algorithm : String) (params : Option PssParams) : Prop where
  | component :
    ("SHA" ++ digits).toList ∈ standing algorithm →
    SpelledPlain digits algorithm params
  | hyphenated {front back} :
    digits = front ++ back →
    ("SHA" ++ front ++ "-" ++ back).toList ∈ standing algorithm →
    SpelledPlain digits algorithm params
  | hash {p} :
    params = some p →
    p.hash.name = "SHA-" ++ digits →
    SpelledPlain digits algorithm params
  | maskHash {p} :
    params = some p →
    p.maskHash.name = "SHA-" ++ digits →
    SpelledPlain digits algorithm params

variable {digits algorithm : String} {params : Option PssParams}

/-- A name of the letters of SHA, hyphens and digits can be a component. -/
lemma isPlain_of_letters {cs : List Char} (given : cs ≠ [])
    (letters : ∀ c ∈ cs, c ∈ "SHA-".toList ∨ c.isDigit = true) : IsPlain cs := by
  have range : ∀ c ∈ cs, 45 ≤ c.toNat ∧ c.toNat ≤ 83 ∧ c.toNat ≠ 47 ∧ c.toNat ≠ 78 := by
    intro c mem
    rcases letters c mem with letter | digit
    · have every : ("SHA-".toList.all fun c =>
        45 ≤ c.toNat ∧ c.toNat ≤ 83 ∧ c.toNat ≠ 47 ∧ c.toNat ≠ 78) = true := by decide
      exact of_decide_eq_true (List.all_eq_true.1 every c letter)
    · rw [Char.isDigit, Bool.and_eq_true, decide_eq_true_eq, decide_eq_true_eq] at digit
      have bounds : 48 ≤ c.toNat ∧ c.toNat ≤ 57 := digit
      omega
  have visible : ∀ c ∈ cs, isBlank c = false := by
    intro c mem
    have := range c mem
    exact isBlank_eq_false (by omega)
  refine ⟨given, ⟨?_, ?_⟩, ?_, ?_⟩
  · intro c first
    exact visible c (List.mem_of_head? first)
  · intro c last
    exact visible c (List.mem_of_getLast? last)
  · intro c mem
    have := range c mem
    rw [Bool.eq_false_iff, ne_eq, isLower_iff]
    omega
  · intro word listed occurs
    -- Each separator has a letter that is not among these.
    have every : ∀ w ∈ separators,
      (w.toList.any fun c => c.toNat = 87 ∨ c.toNat = 78 ∨ c.toNat = 47) = true := by decide
    obtain ⟨c, mem, foreign⟩ := List.any_eq_true.1 (every word listed)
    have other := of_decide_eq_true foreign
    have := range c (occurs.subset mem)
    omega

/-- A name that can be a component stands for itself as an entry. -/
lemma upper_trim_of_isPlain {name : String} (plain : IsPlain name.toList) :
    upper (trim name) = name := by
  rw [trim, plain.trimmed.strip_eq, String.ofList_toList]
  exact plain.upper_eq

/-- The digest of a name with a hyphen is looked up by the name without. -/
lemma exists_digits (h : Hash) : ∃ t, h.name = "SHA-" ++ t ∧ hashName h = "SHA" ++ t := by
  cases h with
  | sha256 => exact ⟨"256", rfl, by decide⟩
  | sha384 => exact ⟨"384", rfl, by decide⟩
  | sha512 => exact ⟨"512", rfl, by decide⟩

/-- The name under which a digest is looked up lacks the hyphen of its own name. -/
lemma hashName_eq_iff {h : Hash} : hashName h = "SHA" ++ digits ↔ h.name = "SHA-" ++ digits := by
  obtain ⟨t, name, plain⟩ := exists_digits h
  rw [name, plain, String.append_right_inj, String.append_right_inj]

/-- No digest is looked up by a name with a hyphen. -/
lemma hashName_ne (h : Hash) : hashName h ≠ "SHA-" ++ digits := by
  have absent : '-' ∉ (hashName h).toList := by cases h <;> decide
  intro same
  rw [same, String.toList_append] at absent
  exact absent (List.mem_append_left _ (by decide))

/-- What a name that starts with SHA can be another spelling of. -/
lemma respelled_sha_iff {cs rest : List Char} :
    Respelled cs ("SHA".toList ++ rest) ↔ ∃ middle back, rest = middle ++ back ∧ '-' ∉ middle ∧
      cs = "SHA".toList ++ middle ++ '-' :: back := by
  constructor
  · intro respelled
    generalize whole : "SHA".toList ++ rest = ds at respelled
    cases respelled with
    | mk middle back absent =>
      rw [List.append_assoc] at whole
      exact ⟨middle, back, List.append_cancel_left whole, absent, rfl⟩
  · rintro ⟨middle, back, rfl, absent, rfl⟩
    rw [← List.append_assoc]
    exact .mk middle back absent

/-- Only a name with two hyphens after SHA is spelled again with one. -/
lemma respelled_hyphenated_iff {cs : List Char} :
    Respelled cs ("SHA-" ++ digits).toList ↔ cs = ("SHA--" ++ digits).toList := by
  have split : ("SHA-" ++ digits).toList = "SHA".toList ++ '-' :: digits.toList :=
    String.toList_append
  have doubled : ("SHA--" ++ digits).toList = "SHA".toList ++ [] ++ '-' :: '-' :: digits.toList :=
    String.toList_append
  rw [split, doubled, respelled_sha_iff]
  constructor
  · rintro ⟨middle, back, whole, absent, rfl⟩
    cases middle with
    | nil => rw [whole, List.nil_append]
    | cons c middle =>
      -- The hyphen that is left is the second one, so none stands before the first.
      rw [List.cons_append, List.cons.injEq] at whole
      exact absurd (whole.1 ▸ List.mem_cons_self) absent
  · rintro rfl
    exact ⟨[], '-' :: digits.toList, rfl, List.not_mem_nil, rfl⟩

/-- A list with one more entry refuses also the uses that the entry names. -/
lemma permits_insert {e name : String} (entry : upper (trim e) = name) (given : name ≠ "")
    (before after : List String) :
    (ofNames (before ++ e :: after)).permits algorithm params = true ↔
      (ofNames (before ++ after)).permits algorithm params = true ∧
        ¬ Names algorithm params name := by
  rw [permits_congr (Reworded.order List.perm_middle).mem_iff rfl, permits_iff, permits_iff,
    and_assoc]
  apply and_congr_right
  intro _
  constructor
  · intro free
    constructor
    · intro other named listed
      exact free other named (mem_cons_ofNames.2 (.inr listed))
    · intro named
      exact free name named (mem_cons_ofNames.2 (.inl ⟨given, entry⟩))
  · rintro ⟨free, unnamed⟩ other named listed
    rcases mem_cons_ofNames.1 listed with ⟨-, rfl⟩ | old
    · exact unnamed (entry ▸ named)
    · exact free other named old

/-- Two entries agree on a use that others refuse, and on one that both of them name or neither. -/
lemma permits_insert_eq_iff {e f : String} (left : IsPlain e.toList) (right : IsPlain f.toList)
    (before after : List String) :
    (ofNames (before ++ e :: after)).permits algorithm params =
        (ofNames (before ++ f :: after)).permits algorithm params ↔
      (ofNames (before ++ after)).permits algorithm params = false ∨
        (Names algorithm params e ↔ Names algorithm params f) := by
  have nonempty {name : String} (plain : IsPlain name.toList) : name ≠ "" := by
    rintro rfl
    exact plain.nonempty rfl
  rw [Bool.eq_iff_iff, permits_insert (upper_trim_of_isPlain left) (nonempty left),
    permits_insert (upper_trim_of_isPlain right) (nonempty right)]
  cases (ofNames (before ++ after)).permits algorithm params with
  | false => simp only [Bool.false_eq_true, false_and, true_or]
  | true => simp only [true_and, not_iff_not, Bool.true_eq_false, false_or]

/-- A plain name is on a list when it is one of the entries. -/
lemma contains_iff_of_isPlain {l : DenyList} {name : String} (plain : IsPlain name.toList) :
    l.contains name = true ↔ name ∈ l.entries := by
  rw [contains, List.contains_iff_mem, plain.upper_eq]

/-- An algorithm that is its own component is refused by name, in the one spelling or the other. -/
lemma listed_of_refused {l : DenyList} {name : String} (plain : IsPlain name.toList)
    (refused : l.permits name none = false) :
    name ∈ l.entries ∨ ∃ other ∈ l.entries, Respelled name.toList other.toList := by
  by_contra free
  push Not at free
  rw [Bool.eq_false_iff, ne_eq, permits_iff] at refused
  apply refused
  constructor
  · rintro rfl
    exact plain.nonempty rfl
  · intro other named listed
    cases named with
    | whole => exact free.1 (plain.upper_eq ▸ listed)
    | component mem =>
      rcases mem_ofName.1 mem with stands | ⟨cs, stands, respelled⟩
      · rw [plain.mem_standing_iff.1 stands] at listed
        exact free.1 listed
      · rw [plain.standing_self, List.mem_singleton] at stands
        rw [stands] at respelled
        exact free.2 other listed respelled
    | hash given => cases given
    | maskHash given => cases given

section

variable {l : DenyList} (digit : ∀ c ∈ digits.toList, c.isDigit = true)

include digit

/-- The three spellings of a digest that matter are names that can be components. -/
lemma isPlain_spelling {spelling : String} (given : spelling ∈ ["SHA", "SHA-", "SHA--"]) :
    IsPlain (spelling ++ digits).toList := by
  have known : ∀ t ∈ ["SHA", "SHA-", "SHA--"],
      t.toList ≠ [] ∧ t.toList ⊆ "SHA-".toList := by decide
  obtain ⟨nonempty, front⟩ := known spelling given
  rw [String.toList_append]
  apply isPlain_of_letters (List.append_ne_nil_of_left_ne_nil nonempty _)
  intro c mem
  rcases List.mem_append.1 mem with left | right
  · exact .inl (front left)
  · exact .inr (digit c right)

/-- A name without a hyphen is another spelling of those with one somewhere after SHA. -/
lemma respelled_plain_iff {cs : List Char} :
    Respelled cs ("SHA" ++ digits).toList ↔
      ∃ front back, digits = front ++ back ∧ cs = ("SHA" ++ front ++ "-" ++ back).toList := by
  have spelled (front back : String) : ("SHA" ++ front ++ "-" ++ back).toList =
      "SHA".toList ++ front.toList ++ '-' :: back.toList := by
    rw [String.toList_append, String.toList_append, String.toList_append, List.append_assoc]
    rfl
  rw [String.toList_append, respelled_sha_iff]
  constructor
  · rintro ⟨middle, back, whole, -, rfl⟩
    refine ⟨String.ofList middle, String.ofList back, ?_, ?_⟩
    · rw [← String.toList_inj, whole, String.toList_append, String.toList_ofList,
        String.toList_ofList]
    · rw [spelled, @String.toList_ofList middle, @String.toList_ofList back]
  · rintro ⟨front, back, rfl, rfl⟩
    refine ⟨front.toList, back.toList, String.toList_append, ?_, spelled front back⟩
    intro mem
    rw [String.toList_append] at digit
    exact absurd (digit '-' (List.mem_append_left _ mem)) (by decide)

/-- A use goes by the hyphenated spelling of a digest in two cases. -/
lemma names_hyphenated_iff :
    Names algorithm params ("SHA-" ++ digits) ↔ SpelledHyphenated digits algorithm := by
  constructor
  · intro names
    generalize spelled : "SHA-" ++ digits = name at names
    cases names with
    | whole =>
      apply SpelledHyphenated.component
      rw [(isPlain_spelling digit (by decide)).standing_eq (congrArg String.toList spelled.symm)]
      exact List.mem_singleton_self _
    | component mem =>
      rw [← spelled] at mem
      rcases mem_ofName.1 mem with stands | ⟨cs, stands, respelled⟩
      · exact .component stands
      · rw [respelled_hyphenated_iff.1 respelled] at stands
        exact .doubled stands
    | hash given => exact absurd spelled.symm (hashName_ne _)
    | maskHash given => exact absurd spelled.symm (hashName_ne _)
  · intro spelled
    cases spelled with
    | component stands => exact .component (mem_ofName.2 (.inl stands))
    | doubled stands =>
      exact .component (mem_ofName.2 (.inr ⟨_, stands, respelled_hyphenated_iff.2 rfl⟩))

/-- A use goes by the plain spelling of a digest in four cases. -/
lemma names_plain_iff :
    Names algorithm params ("SHA" ++ digits) ↔ SpelledPlain digits algorithm params := by
  constructor
  · intro names
    generalize spelled : "SHA" ++ digits = name at names
    cases names with
    | whole =>
      apply SpelledPlain.component
      rw [(isPlain_spelling digit (by decide)).standing_eq (congrArg String.toList spelled.symm)]
      exact List.mem_singleton_self _
    | component mem =>
      rw [← spelled] at mem
      rcases mem_ofName.1 mem with stands | ⟨cs, stands, respelled⟩
      · exact .component stands
      · obtain ⟨front, back, parts, rfl⟩ := (respelled_plain_iff digit).1 respelled
        exact .hyphenated parts stands
    | hash given => exact .hash given (hashName_eq_iff.1 spelled.symm)
    | maskHash given => exact .maskHash given (hashName_eq_iff.1 spelled.symm)
  · intro spelled
    cases spelled with
    | component stands => exact .component (mem_ofName.2 (.inl stands))
    | hyphenated parts stands =>
      have respelled := (respelled_plain_iff digit).2 ⟨_, _, parts, rfl⟩
      exact .component (mem_ofName.2 (.inr ⟨_, stands, respelled⟩))
    | hash given name =>
      rw [← hashName_eq_iff.2 name]
      exact .hash given
    | maskHash given name =>
      rw [← hashName_eq_iff.2 name]
      exact .maskHash given

/-- The plain spelling as an algorithm does not go by the hyphenated one. -/
lemma not_spelledHyphenated_plain : ¬ SpelledHyphenated digits ("SHA" ++ digits) := by
  have plain : IsPlain ("SHA" ++ digits).toList := isPlain_spelling digit (by decide)
  intro spelled
  cases spelled with
  | component stands =>
    rw [plain.mem_standing_iff, String.append_left_inj] at stands
    exact absurd stands (by decide)
  | doubled stands =>
    rw [plain.mem_standing_iff, String.append_left_inj] at stands
    exact absurd stands (by decide)

/-- Of two hyphens one is left when the first is taken out, so this is not the plain spelling. -/
lemma not_spelledPlain_doubled : ¬ SpelledPlain digits ("SHA--" ++ digits) none := by
  have doubled : IsPlain ("SHA--" ++ digits).toList := isPlain_spelling digit (by decide)
  intro spelled
  cases spelled with
  | component stands =>
    rw [doubled.mem_standing_iff, String.append_left_inj] at stands
    exact absurd stands (by decide)
  | @hyphenated front back parts stands =>
    rw [doubled.mem_standing_iff, parts] at stands
    have size := congrArg String.length stands
    simp only [String.length_append] at size
    have sha : "SHA".length = 3 ∧ "-".length = 1 ∧ "SHA--".length = 5 := by decide
    omega
  | hash given => cases given
  | maskHash given => cases given

/-- There is no hyphen in the plain spelling to leave out. -/
lemma not_respelled_plain {ds : List Char} : ¬ Respelled ("SHA" ++ digits).toList ds := by
  intro respelled
  have hyphenated := (respelled_iff.1 respelled).1
  rw [isHyphenated, Bool.and_eq_true, List.contains_iff_mem, String.toList_append] at hyphenated
  rcases List.mem_append.1 hyphenated.2 with front | back
  · exact absurd front (by decide)
  · exact absurd (digit '-' back) (by decide)

/-- As an algorithm, the plain spelling goes by no other, so it has to be on the list. -/
lemma plain_mem_of_agree (agree : ∀ algorithm params, l.permits algorithm params = false ∨
      (SpelledHyphenated digits algorithm ↔ SpelledPlain digits algorithm params)) :
    "SHA" ++ digits ∈ l.entries := by
  have plain : IsPlain ("SHA" ++ digits).toList := isPlain_spelling digit (by decide)
  have spelled : SpelledPlain digits ("SHA" ++ digits) none :=
    .component (plain.mem_standing_iff.2 rfl)
  have refused : l.permits ("SHA" ++ digits) none = false := by
    rcases agree ("SHA" ++ digits) none with refused | both
    · exact refused
    · exact absurd (both.2 spelled) (not_spelledHyphenated_plain digit)
  rcases listed_of_refused plain refused with listed | ⟨other, -, respelled⟩
  · exact listed
  · exact absurd respelled (not_respelled_plain digit)

/-- As an algorithm, the spelling with two hyphens goes by the one with a single hyphen besides. -/
lemma hyphenated_mem_of_agree (agree : ∀ algorithm params, l.permits algorithm params = false ∨
      (SpelledHyphenated digits algorithm ↔ SpelledPlain digits algorithm params)) :
    "SHA-" ++ digits ∈ l.entries ∨ "SHA--" ++ digits ∈ l.entries := by
  have doubled : IsPlain ("SHA--" ++ digits).toList := isPlain_spelling digit (by decide)
  have spelled : SpelledHyphenated digits ("SHA--" ++ digits) :=
    .doubled (doubled.mem_standing_iff.2 rfl)
  have refused : l.permits ("SHA--" ++ digits) none = false := by
    rcases agree ("SHA--" ++ digits) none with refused | both
    · exact refused
    · exact absurd (both.1 spelled) (not_spelledPlain_doubled digit)
  rcases listed_of_refused doubled refused with listed | ⟨other, listed, respelled⟩
  · exact .inr listed
  · left
    have same := (respelled_iff.1 respelled).2
    rw [(respelled_iff.1 (respelled_hyphenated_iff.2 rfl)).2, String.toList_inj] at same
    rw [same]
    exact listed

/-- A list with both spellings refuses the uses that go by one of them alone. -/
lemma agree_of_mem (hasPlain : "SHA" ++ digits ∈ l.entries)
    (hasOther : "SHA-" ++ digits ∈ l.entries ∨ "SHA--" ++ digits ∈ l.entries)
    (algorithm : String) (params : Option PssParams) : l.permits algorithm params = false ∨
      (SpelledHyphenated digits algorithm ↔ SpelledPlain digits algorithm params) := by
  cases verdict : l.permits algorithm params with
  | false => exact .inl rfl
  | true =>
    right
    obtain ⟨-, free⟩ := permits_iff.1 verdict
    have notPlain : ¬ SpelledPlain digits algorithm params := by
      intro spelled
      exact free _ ((names_plain_iff digit).2 spelled) hasPlain
    refine iff_of_false ?_ notPlain
    intro spelled
    have named : Names algorithm params ("SHA-" ++ digits) :=
      (names_hyphenated_iff digit).2 spelled
    cases spelled with
    | component stands =>
      -- Without its hyphen the component is the plain spelling.
      apply notPlain
      exact @SpelledPlain.hyphenated _ _ _ "" digits String.empty_append.symm stands
    | doubled stands =>
      rcases hasOther with listed | listed
      · exact free _ named listed
      · exact free _ (.component (mem_ofName.2 (.inl stands))) listed

end

/--
An entry with the hyphenated spelling of a digest in place of the plain one makes no difference to a
use that the other entries refuse, or that goes by both spellings, or by neither, and to no other
use. It makes no difference at all only where the other entries have the plain spelling and one of
the hyphenated ones, so that the entry is not needed.
-/
theorem spellings_agree_iff {digits : String} (digit : ∀ c ∈ digits.toList, c.isDigit = true)
    (before after : List String) :
    (∀ algorithm params,
      (ofNames (before ++ ("SHA-" ++ digits) :: after)).permits algorithm params =
          (ofNames (before ++ ("SHA" ++ digits) :: after)).permits algorithm params ↔
        (ofNames (before ++ after)).permits algorithm params = false ∨
          (SpelledHyphenated digits algorithm ↔ SpelledPlain digits algorithm params)) ∧
    ((∀ algorithm params,
      (ofNames (before ++ ("SHA-" ++ digits) :: after)).permits algorithm params =
        (ofNames (before ++ ("SHA" ++ digits) :: after)).permits algorithm params) ↔
      (ofNames (before ++ after)).contains ("SHA" ++ digits) = true ∧
        ((ofNames (before ++ after)).contains ("SHA-" ++ digits) = true ∨
          (ofNames (before ++ after)).contains ("SHA--" ++ digits) = true)) := by
  have plain : IsPlain ("SHA" ++ digits).toList := isPlain_spelling digit (by decide)
  have hyphenated : IsPlain ("SHA-" ++ digits).toList := isPlain_spelling digit (by decide)
  have doubled : IsPlain ("SHA--" ++ digits).toList := isPlain_spelling digit (by decide)
  have agree (algorithm : String) (params : Option PssParams) :
      (ofNames (before ++ ("SHA-" ++ digits) :: after)).permits algorithm params =
          (ofNames (before ++ ("SHA" ++ digits) :: after)).permits algorithm params ↔
        (ofNames (before ++ after)).permits algorithm params = false ∨
          (SpelledHyphenated digits algorithm ↔ SpelledPlain digits algorithm params) := by
    rw [permits_insert_eq_iff hyphenated plain, names_hyphenated_iff digit, names_plain_iff digit]
  refine ⟨agree, ?_⟩
  rw [contains_iff_of_isPlain plain, contains_iff_of_isPlain hyphenated,
    contains_iff_of_isPlain doubled]
  simp only [agree]
  constructor
  · intro all
    exact ⟨plain_mem_of_agree digit all, hyphenated_mem_of_agree digit all⟩
  · rintro ⟨hasPlain, hasOther⟩
    exact agree_of_mem digit hasPlain hasOther

/-- With both spellings among the other entries, a third one of either kind changes nothing. -/
theorem spellings_agree_of_both :
    (∀ c ∈ "256".toList, c.isDigit = true) ∧
      ∀ algorithm params,
        (ofNames ["MD5", "SHA-256", "sha256 ", "Sha-256"]).permits algorithm params =
          (ofNames ["MD5", "SHA256", "sha256 ", "Sha-256"]).permits algorithm params := by
  have digit : ∀ c ∈ "256".toList, c.isDigit = true := List.all_eq_true.1 (by decide)
  refine ⟨digit, ?_⟩
  apply (spellings_agree_iff digit ["MD5"] ["sha256 ", "Sha-256"]).2.2
  exact ⟨by decide, .inl (by decide)⟩

/--
An entry with the name of SHA-256, hyphenated as it is, refuses neither parameters with that digest
nor algorithms that name it; an entry without the hyphen refuses both.
-/
theorem hyphenated_entry_refuses_neither :
    let hyphenated := ofNames [Hash.sha256.name]
    let plain := ofNames ["SHA256"]
    let pss := some (PssParams.ofHash .sha256)
    Hash.sha256.name = "SHA-" ++ "256" ∧
      hyphenated.permits "SHA256withECDSA" none = true ∧
      hyphenated.permits "RSASSA-PSS" pss = true ∧
      plain.permits "SHA256withECDSA" none = false ∧
      plain.permits "RSASSA-PSS" pss = false := by
  decide

end SchemeNegotiation.DenyList
