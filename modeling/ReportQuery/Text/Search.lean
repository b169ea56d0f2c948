/-!
# Parts of a text

Whether a text begins with, ends with or holds another, what is left when a
leading or trailing part is cut off, and the joining of several texts.
-/

namespace ReportQuery.Text

/-- What follows `start` in `cs`, when `cs` begins with it. -/
def dropLeading? : (start cs : List Char) → Option (List Char)
  | [], cs => some cs
  | _ :: _, [] => none
  | s :: start, c :: cs => if s = c then dropLeading? start cs else none

/-- What precedes `stop` in `cs`, when `cs` ends with it. -/
def dropTrailing? (stop cs : List Char) : Option (List Char) :=
  (dropLeading? stop.reverse cs.reverse).map List.reverse

/-- Whether `cs` begins with `start`. -/
def startsWith (start cs : List Char) : Bool :=
  (dropLeading? start cs).isSome

/-- Whether `cs` ends with `stop`. -/
def endsWith (stop cs : List Char) : Bool :=
  (dropTrailing? stop cs).isSome

/-- Whether `part` stands somewhere in `cs`. -/
def contains (part : List Char) : List Char → Bool
  | [] => part.isEmpty
  | c :: cs => startsWith part (c :: cs) || contains part cs

/-- The texts one after the other, with `between` between neighbours. -/
def join (between : String) : List String → String
  | [] => ""
  | [s] => s
  | s :: t :: rest => s ++ between ++ join between (t :: rest)

/-- The text repeated `n` times. -/
def replicate (n : Nat) (c : Char) : String :=
  String.ofList (List.replicate n c)

/-- The text followed by blanks up to a width in characters. -/
def padRight (width : Nat) (s : String) : String :=
  s ++ replicate (width - s.length) ' '

/-- The text preceded by blanks up to a width in characters. -/
def padLeft (width : Nat) (s : String) : String :=
  replicate (width - s.length) ' ' ++ s

theorem dropLeading?_eq_some_iff {start cs rest : List Char} :
    dropLeading? start cs = some rest ↔ cs = start ++ rest := by
  induction start generalizing cs with
  | nil => simp [dropLeading?]
  | cons s start ih =>
    cases cs with
    | nil => simp [dropLeading?]
    | cons c cs =>
      by_cases h : s = c
      · simp [dropLeading?, h, ih]
      · simp [dropLeading?, h, Ne.symm h]

theorem dropTrailing?_eq_some_iff {stop cs rest : List Char} :
    dropTrailing? stop cs = some rest ↔ cs = rest ++ stop := by
  simp only [dropTrailing?, Option.map_eq_some_iff, dropLeading?_eq_some_iff]
  constructor
  · rintro ⟨a, h, rfl⟩
    have := congrArg List.reverse h
    simpa using this
  · intro h
    exact ⟨rest.reverse, by simp [h], by simp⟩

theorem startsWith_iff {start cs : List Char} :
    startsWith start cs = true ↔ ∃ rest, cs = start ++ rest := by
  simp [startsWith, Option.isSome_iff_exists, dropLeading?_eq_some_iff]

theorem endsWith_iff {stop cs : List Char} :
    endsWith stop cs = true ↔ ∃ rest, cs = rest ++ stop := by
  simp [endsWith, Option.isSome_iff_exists, dropTrailing?_eq_some_iff]

theorem contains_iff {part cs : List Char} :
    contains part cs = true ↔ ∃ before after, cs = before ++ part ++ after := by
  induction cs with
  | nil => simp [contains]
  | cons c cs ih =>
    simp only [contains, Bool.or_eq_true, startsWith_iff, ih]
    constructor
    · rintro (⟨rest, h⟩ | ⟨before, after, h⟩)
      · exact ⟨[], rest, by simpa using h⟩
      · exact ⟨c :: before, after, by simp [h]⟩
    · rintro ⟨before, after, h⟩
      cases before with
      | nil => exact .inl ⟨after, by simpa using h⟩
      | cons b before =>
        simp only [List.cons_append, List.cons.injEq] at h
        exact .inr ⟨before, after, h.2⟩

end ReportQuery.Text
