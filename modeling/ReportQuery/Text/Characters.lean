/-!
# Characters

A class of characters is told by ranges of code points, the ends included.
Keywords, function names and type tags are compared without regard to the case
of the twenty-six ASCII letters; every other character stands for itself. A
character is blank when it has the Unicode property White_Space, and trimming
removes blanks from the ends of a text.
-/

namespace ReportQuery.Text

/-- Whether a character is in one of some ranges. -/
def inRanges (ranges : Array (Nat × Nat)) (c : Char) : Bool :=
  ranges.any fun range => range.1 ≤ c.toNat && c.toNat ≤ range.2

/-! ## Letters -/

/-- The text with its ASCII letters in upper case. -/
def upper (s : String) : String :=
  String.ofList (s.toList.map Char.toUpper)

/-- The text with its ASCII letters in lower case. -/
def lower (s : String) : String :=
  String.ofList (s.toList.map Char.toLower)

/-- Whether two texts agree up to the case of ASCII letters. -/
def sameLetters (s t : String) : Bool :=
  upper s == upper t

/-- Whether a character is an ASCII letter. -/
def isLetter (c : Char) : Bool :=
  c.isAlpha

/-- Whether a character is an ASCII letter or digit. -/
def isLetterOrDigit (c : Char) : Bool :=
  c.isAlphanum

/-! ## Blanks -/

/-- Whether a character has the Unicode property White_Space. -/
def isBlank (c : Char) : Bool :=
  let n := c.toNat
  (0x09 ≤ n && n ≤ 0x0D) || n == 0x20 || n == 0x85 || n == 0xA0 ||
    n == 0x1680 ||
    (0x2000 ≤ n && n ≤ 0x200A) || n == 0x2028 || n == 0x2029 || n == 0x202F ||
    n == 0x205F ||
    n == 0x3000

/-- The characters from the first that is not blank on. -/
def trimStart (cs : List Char) : List Char :=
  cs.dropWhile isBlank

/-- The characters up to the last that is not blank. -/
def trimEnd (cs : List Char) : List Char :=
  (cs.reverse.dropWhile isBlank).reverse

/-- The characters without the blanks at either end. -/
def trim (cs : List Char) : List Char :=
  trimEnd (trimStart cs)

/-- A text without the blanks at either end. -/
def trimmed (s : String) : String :=
  String.ofList (trim s.toList)

@[simp] theorem trimStart_nil : trimStart [] = [] := rfl

theorem trimStart_of_not_blank {c : Char} {cs : List Char}
    (h : isBlank c = false) : trimStart (c :: cs) = c :: cs := by
  simp [trimStart, h]

end ReportQuery.Text
