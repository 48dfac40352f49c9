import Mathlib.Data.List.DropRight
import Mathlib.Data.List.TakeWhile
import Mathlib.Tactic.Lemma
import SchemeNegotiation.Text.Reading

/-!
# Trimmed and raised texts

Stripping leaves a part of a text in one piece (`strip_isInfix`) that cannot be stripped further
(`stripped_strip`), and what is put around a text to be stripped off does not count
(`strip_append`). Raising letters keeps white space and makes none, so a name can be raised before
or after it is trimmed (`upper_trim`). Nor does it make any other character that is not a letter, or
lose one (`mem_upper_iff`).
-/

namespace SchemeNegotiation.Text

variable {p : Char → Bool} {cs : List Char}

/-- A text with no character of a class at either end. -/
structure Stripped (p : Char → Bool) (cs : List Char) : Prop where
  first : ∀ c ∈ cs.head?, p c = false
  last : ∀ c ∈ cs.getLast?, p c = false

/-- What is left when both ends are stripped stands in the text. -/
lemma strip_isInfix (p : Char → Bool) (cs : List Char) : strip p cs <:+: cs := by
  have front : strip p cs <+: cs.dropWhile p := List.rdropWhile_prefix p _
  exact front.isInfix.trans (List.dropWhile_suffix p).isInfix

/-- What is left has no character of the class at its ends. -/
lemma stripped_strip (p : Char → Bool) (cs : List Char) : Stripped p (strip p cs) := by
  constructor
  · intro c first
    obtain ⟨rest, starts⟩ := List.head?_eq_some_iff.1 first
    obtain ⟨more, front⟩ : strip p cs <+: cs.dropWhile p := List.rdropWhile_prefix p _
    have left := List.head?_dropWhile_not p cs
    rw [← front, starts] at left
    exact left
  · intro c last
    have given : strip p cs ≠ [] := List.ne_nil_of_mem (List.mem_of_getLast? last)
    have right := List.rdropWhile_last_not p (cs.dropWhile p) given
    rw [Option.mem_def, List.getLast?_eq_some_getLast given, Option.some.injEq] at last
    rw [← last]
    exact Bool.eq_false_iff.2 right

/-- A stripped text is left as it is. -/
lemma Stripped.strip_eq (stripped : Stripped p cs) : strip p cs = cs := by
  have front : cs.dropWhile p = cs := by
    rw [List.dropWhile_eq_self_iff]
    intro given
    have first : cs[0] ∈ cs.head? := by
      rw [List.head?_eq_getElem?]
      exact List.getElem?_eq_getElem given
    exact Bool.eq_false_iff.1 (stripped.first _ first)
  have back : cs.rdropWhile p = cs := by
    rw [List.rdropWhile_eq_self_iff]
    intro given
    exact Bool.eq_false_iff.1 (stripped.last _ (List.getLast?_eq_some_getLast given))
  rw [strip, front]
  exact back

/-- Nothing is left of a text when all of it is of the class, and only then. -/
lemma strip_eq_nil_iff : strip p cs = [] ↔ ∀ c ∈ cs, p c = true := by
  have unfolded : strip p cs = (cs.dropWhile p).rdropWhile p := rfl
  rw [unfolded, List.rdropWhile_eq_nil_iff, ← List.dropWhile_eq_nil_iff,
    List.dropWhile_idempotent, List.dropWhile_eq_nil_iff]

/-- Characters of the class around a text are stripped off. -/
lemma strip_append {before after : List Char} (left : ∀ c ∈ before, p c = true)
    (right : ∀ c ∈ after, p c = true) : strip p (before ++ cs ++ after) = strip p cs := by
  have ends : ∀ c ∈ after.reverse, p c = true := fun c mem => right c (List.mem_reverse.1 mem)
  by_cases whole : cs.dropWhile p = []
  · -- All of the text is of the class, so nothing is left on either side.
    rw [List.dropWhile_eq_nil_iff] at whole
    rw [strip_eq_nil_iff.2 whole, strip_eq_nil_iff]
    intro c mem
    rcases List.mem_append.1 mem with inner | outer
    · exact (List.mem_append.1 inner).elim (left c) (whole c)
    · exact right c outer
  · have kept : (cs ++ after).dropWhile p = cs.dropWhile p ++ after := by
      rw [List.dropWhile_append, List.isEmpty_eq_false_iff.2 whole]
      rfl
    rw [strip, strip, List.append_assoc, List.dropWhile_append_of_pos left, kept,
      List.reverse_append, List.dropWhile_append_of_pos ends]

/-- Nothing is left of white space alone. -/
lemma trim_eq_empty_iff {s : String} : trim s = "" ↔ ∀ c ∈ s.toList, isBlank c = true := by
  rw [trim, String.ofList_eq_empty_iff, strip_eq_nil_iff]

/-- Blank text around a text is trimmed off. -/
lemma trim_padded {before after : String} (left : trim before = "") (right : trim after = "")
    (e : String) : trim (before ++ e ++ after) = trim e := by
  rw [trim_eq_empty_iff] at left right
  rw [trim, String.toList_append, String.toList_append, strip_append left right, trim]

/-- The small letters by their codes. -/
lemma isLower_iff (c : Char) : c.isLower = true ↔ 97 ≤ c.toNat ∧ c.toNat ≤ 122 := by
  delta Char.isLower
  rw [Bool.and_eq_true, decide_eq_true_eq, decide_eq_true_eq]
  exact Iff.rfl

/-- The capital of a small letter has a code that is less by 32. -/
lemma toNat_toUpper {c : Char} (small : c.isLower = true) : c.toUpper.toNat = c.toNat - 32 := by
  have range := (isLower_iff c).1 small
  have raised : c.toUpper.toNat = (c.toNat + 4294967264) % 4294967296 := by
    delta Char.toUpper
    rw [dif_pos (show 'a'.val ≤ c.val ∧ c.val ≤ 'z'.val from range)]
    exact UInt32.toNat_add c.val ('A'.val - 'a'.val)
  omega

/-- All other characters are their own capitals. -/
lemma toUpper_eq_self {c : Char} (other : c.isLower = false) : c.toUpper = c := by
  delta Char.toUpper
  rw [dif_neg]
  intro small
  rw [(isLower_iff c).2 small] at other
  cases other

/-- No capital is a small letter. -/
lemma isLower_toUpper (c : Char) : c.toUpper.isLower = false := by
  cases small : c.isLower with
  | false => rw [toUpper_eq_self small, small]
  | true =>
    have range := (isLower_iff c).1 small
    have raised := toNat_toUpper small
    rw [Bool.eq_false_iff, Ne, isLower_iff]
    omega

/-- What shows in ASCII is not white space. -/
lemma isBlank_eq_false {c : Char} (visible : 33 ≤ c.toNat ∧ c.toNat ≤ 126) : isBlank c = false := by
  rw [isBlank, Bool.eq_false_iff, ne_eq, List.contains_iff_mem, blankCodes]
  simp only [List.mem_cons, List.not_mem_nil, or_false]
  omega

/-- Raising keeps white space, and makes none. -/
lemma isBlank_toUpper (c : Char) : isBlank c.toUpper = isBlank c := by
  cases small : c.isLower with
  | false => rw [toUpper_eq_self small]
  | true =>
    have range := (isLower_iff c).1 small
    have raised := toNat_toUpper small
    rw [isBlank_eq_false (show 33 ≤ c.toUpper.toNat ∧ c.toUpper.toNat ≤ 126 by omega),
      isBlank_eq_false (show 33 ≤ c.toNat ∧ c.toNat ≤ 126 by omega)]

/-- The capital of a small letter is a capital letter. -/
lemma isUpper_toUpper {c : Char} (small : c.isLower = true) : c.toUpper.isUpper = true := by
  have range := (isLower_iff c).1 small
  have raised := toNat_toUpper small
  have letter : 65 ≤ c.toUpper.toNat ∧ c.toUpper.toNat ≤ 90 := by omega
  exact decide_eq_true letter

/-- Raising makes letters of letters, so any other character comes from itself alone. -/
lemma toUpper_eq_iff {c d : Char} (other : d.isAlpha = false) : c.toUpper = d ↔ c = d := by
  obtain ⟨noUpper, noLower⟩ := Bool.or_eq_false_iff.1 other
  cases small : c.isLower with
  | false => rw [toUpper_eq_self small]
  | true =>
    refine iff_of_false ?_ ?_
    · rintro rfl
      rw [isUpper_toUpper small] at noUpper
      cases noUpper
    · rintro rfl
      rw [small] at noLower
      cases noLower

/-- Upper case keeps the characters that are no letters. -/
lemma mem_upper_iff {c : Char} {s : String} (other : c.isAlpha = false) :
    c ∈ (upper s).toList ↔ c ∈ s.toList := by
  rw [toList_upper, List.mem_map]
  simp only [toUpper_eq_iff other, exists_eq_right]

/-- Texts are put in upper case one by one. -/
lemma upper_append (s t : String) : upper (s ++ t) = upper s ++ upper t := by
  rw [← String.toList_inj, String.toList_append]
  simp only [toList_upper, String.toList_append, List.map_append]

/-- Only the empty text is empty in upper case. -/
lemma upper_eq_empty_iff {s : String} : upper s = "" ↔ s = "" := by
  rw [upper, String.ofList_eq_empty_iff, List.map_eq_nil_iff, String.toList_eq_nil_iff]

/-- A text without small letters is in upper case. -/
lemma upper_eq_self {s : String} (raised : ∀ c ∈ s.toList, c.isLower = false) : upper s = s := by
  have kept : s.toList.map Char.toUpper = s.toList.map id := by
    apply List.map_congr_left
    intro c mem
    exact toUpper_eq_self (raised c mem)
  rw [upper, kept, List.map_id, String.ofList_toList]

/-- Upper case is in upper case. -/
lemma upper_upper (s : String) : upper (upper s) = upper s := by
  apply upper_eq_self
  intro c mem
  rw [toList_upper, List.mem_map] at mem
  obtain ⟨d, -, rfl⟩ := mem
  exact isLower_toUpper d

/-- White space is stripped off capitals as it is off small letters. -/
lemma strip_map_toUpper (cs : List Char) :
    strip isBlank (cs.map Char.toUpper) = (strip isBlank cs).map Char.toUpper := by
  have same : isBlank ∘ Char.toUpper = isBlank := funext isBlank_toUpper
  rw [strip, strip, List.dropWhile_map, same, ← List.map_reverse, List.dropWhile_map, same,
    List.map_reverse]

/-- It makes no difference whether a text is trimmed or put in upper case first. -/
lemma upper_trim (s : String) : upper (trim s) = trim (upper s) := by
  rw [upper, toList_trim, trim, toList_upper, strip_map_toUpper]

end SchemeNegotiation.Text
