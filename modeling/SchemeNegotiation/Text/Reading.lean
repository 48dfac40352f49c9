/-!
# Reading texts

How names are found in a text, and when two of them are one. A text is cut at every occurrence of a
word, with the occurrences found from the left and without overlap, so that a text with `n` of them
has `n + 1` pieces, the empty ones included. White space or quotes around a piece are stripped.
Names of schemes, algorithms and keys are then compared up to the case of ASCII letters; every other
character, letter or not, stands for itself.
-/

namespace SchemeNegotiation.Text

/-! ### Letter case -/

/-- Raises the ASCII letters of a text and keeps every other character. -/
def upper (s : String) : String :=
  String.ofList (s.toList.map Char.toUpper)

/-- Whether two texts are equal up to the case of ASCII letters. -/
def sameLetters (s t : String) : Bool :=
  upper s == upper t

/-- Two texts have the same letters exactly when their raised forms are one text. -/
theorem sameLetters_iff {s t : String} : sameLetters s t = true ↔ upper s = upper t := by
  simp [sameLetters]

/-- The characters of a raised text are the raised characters. -/
@[simp]
theorem toList_upper (s : String) : (upper s).toList = s.toList.map Char.toUpper := by
  simp [upper]

/-! ### White space -/

/-- The code points with the Unicode property White_Space. -/
def blankCodes : List Nat :=
  [0x09, 0x0a, 0x0b, 0x0c, 0x0d, 0x20, 0x85, 0xa0, 0x1680,
   0x2000, 0x2001, 0x2002, 0x2003, 0x2004, 0x2005, 0x2006, 0x2007, 0x2008, 0x2009, 0x200a,
   0x2028, 0x2029, 0x202f, 0x205f, 0x3000]

/-- Whether a character is white space. -/
def isBlank (c : Char) : Bool :=
  blankCodes.contains c.toNat

/-- Removes the characters of a class from both ends of a text. -/
def strip (p : Char → Bool) (cs : List Char) : List Char :=
  ((cs.dropWhile p).reverse.dropWhile p).reverse

/-- A text without the white space at its ends. -/
def trim (s : String) : String :=
  String.ofList (strip isBlank s.toList)

/-- A text without the double quotes at its ends, however many there are. -/
def unquote (s : String) : String :=
  String.ofList (strip (· == '"') s.toList)

/-- The characters of a trimmed text are the stripped characters. -/
@[simp]
theorem toList_trim (s : String) : (trim s).toList = strip isBlank s.toList := by
  simp [trim]

/-- The characters of an unquoted text are the stripped characters. -/
@[simp]
theorem toList_unquote (s : String) : (unquote s).toList = strip (· == '"') s.toList := by
  simp [unquote]

/-- Stripping an empty text leaves it empty. -/
@[simp]
theorem strip_nil (p : Char → Bool) : strip p [] = [] := rfl

/-! ### Pieces -/

/-- Puts a character in front of the first piece. -/
def consFirst (c : Char) : List (List Char) → List (List Char)
  | [] => [[c]]
  | piece :: rest => (c :: piece) :: rest

/-- The pieces of a text of which the first `skip` characters end an occurrence already found. -/
def cut (word : List Char) : Nat → List Char → List (List Char)
  | _, [] => [[]]
  | skip + 1, _ :: rest => cut word skip rest
  | 0, c :: rest =>
    if word.isPrefixOf (c :: rest) then
      [] :: cut word (word.length - 1) rest
    else
      consFirst c (cut word 0 rest)

/-- The pieces of a text between the occurrences of a non-empty word. -/
def pieces (word cs : List Char) : List (List Char) :=
  cut word 0 cs

/-- The pieces of a text between its commas. -/
def commaSeparated (s : String) : List String :=
  (pieces [','] s.toList).map String.ofList

/-- A text is never cut into no pieces at all. -/
theorem cut_ne_nil (word : List Char) (skip : Nat) (cs : List Char) : cut word skip cs ≠ [] := by
  induction cs generalizing skip with
  | nil => simp [cut]
  | cons c rest ih =>
    cases skip with
    | succ skip => exact ih skip
    | zero =>
      by_cases found : word.isPrefixOf (c :: rest)
      · simp [cut, found]
      · simp only [cut, found]
        cases h : cut word 0 rest with
        | nil => exact absurd h (ih 0)
        | cons piece more => simp [consFirst]

/-- An empty text is one empty piece. -/
@[simp]
theorem pieces_nil (word : List Char) : pieces word [] = [[]] := rfl

end SchemeNegotiation.Text
