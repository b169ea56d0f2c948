import ReportQuery.Decimal.Reading
import ReportQuery.Token

/-!
# Splitting a text into tokens

One step takes the longest token from the front of a text. A lexeme keeps the
characters its token was read from, so the lexemes of a text in order spell the
text again.
-/

namespace ReportQuery

/-- A token with the characters it was read from. -/
structure Lexeme where
  token : Token
  source : List Char
deriving DecidableEq, Repr

namespace Lexeme

/-- A token whose text is what it was read from. -/
def plain (kind : TokenKind) (source : List Char) : Lexeme :=
  ⟨⟨kind, String.ofList source⟩, source⟩

/-- What is read after an opening quote. -/
structure QuotedPart where
  /-- The text without escapes. -/
  content : List Char
  /-- The characters read, the closing quote included. -/
  source : List Char
  /-- The characters after the closing quote. -/
  rest : List Char
  /-- Whether the closing quote was met. -/
  closed : Bool
deriving DecidableEq, Repr

/-- Add a character of the content, written as `source`, in front of a part. -/
def QuotedPart.push (c : Char) (source : List Char) (part : QuotedPart) :
    QuotedPart :=
  ⟨c :: part.content, source ++ part.source, part.rest, part.closed⟩

/-- Read up to the first quote that no backslash protects. -/
def quotedPart (quote : Char) : List Char → QuotedPart
  | [] => ⟨[], [], [], false⟩
  | '\\' :: c :: cs => (quotedPart quote cs).push c ['\\', c]
  | c :: cs =>
    if c = quote then ⟨[], [c], cs, true⟩
    else if c = '\\' then ⟨[], [c], cs, false⟩
    else (quotedPart quote cs).push c [c]

/-- A quoted text after its opening quote. -/
def quoted (quote : Char) (cs : List Char) : Lexeme × List Char :=
  let part := quotedPart quote cs
  let kind := if part.closed then TokenKind.quoted else .illegal
  (⟨⟨kind, String.ofList part.content⟩, quote :: part.source⟩, part.rest)

/-- The kind of a word: it holds a point, is reserved, or is an identifier. -/
def wordKind (word : List Char) : TokenKind :=
  if word.contains '.' then .dotted
  else (TokenKind.ofWord? (String.ofList word)).getD .identifier

/-- The kind of a run of digits and points. -/
def numberKind (number : List Char) : TokenKind :=
  if (Numeral.signedWord? number).isSome then .digits
  else if (Decimal.float? number).isSome then .decimal
  else .illegal

/-- The longest run of characters of a class, from one character on. -/
def run (kind : List Char → TokenKind) (p : Char → Bool) (c : Char)
    (cs : List Char) : Lexeme × List Char :=
  let source := c :: cs.takeWhile p
  (plain (kind source) source, cs.dropWhile p)

/-- The operator or punctuation at the front of a text, with the number of its
characters. -/
def symbol? : List Char → Option (TokenKind × Nat)
  | '!' :: '=' :: _ => some (.operator .different, 2)
  | '>' :: '=' :: _ => some (.operator .greaterOrEqual, 2)
  | '<' :: '=' :: _ => some (.operator .lessOrEqual, 2)
  | '\\' :: 'g' :: _ => some (.vertical, 2)
  | '\\' :: 'G' :: _ => some (.vertical, 2)
  | '>' :: _ => some (.operator .greater, 1)
  | '<' :: _ => some (.operator .less, 1)
  | '=' :: _ => some (.operator .equal, 1)
  | '*' :: _ => some (.asterisk, 1)
  | ',' :: _ => some (.comma, 1)
  | ';' :: _ => some (.semicolon, 1)
  | '(' :: _ => some (.openParen, 1)
  | ')' :: _ => some (.closeParen, 1)
  | '[' :: _ => some (.openBracket, 1)
  | ']' :: _ => some (.closeBracket, 1)
  | _ => none

/-- A symbol, or one character that begins no token. -/
def symbol (cs : List Char) : Lexeme × List Char :=
  match symbol? cs with
  | some (kind, n) => (plain kind (cs.take n), cs.drop n)
  | none => (plain .illegal (cs.take 1), cs.drop 1)

/-- The lexeme at the front of the text `c :: cs`, and what follows it. -/
def nextFrom (c : Char) (cs : List Char) : Lexeme × List Char :=
  if Token.isQuote c then quoted c cs
  else if Token.isSpace c then run (fun _ => .blank) Token.isSpace c cs
  else if Text.isLetter c then run wordKind Token.isWordChar c cs
  else if c.isDigit then run numberKind Token.isNumberChar c cs
  else symbol (c :: cs)

/-- The lexeme at the front of a text, and what follows it; the end comes again
and again. -/
def next : List Char → Lexeme × List Char
  | [] => (⟨Token.ending, []⟩, [])
  | c :: cs => nextFrom c cs

theorem quotedPart_source_append_rest (quote : Char) (cs : List Char) :
    (quotedPart quote cs).source ++ (quotedPart quote cs).rest = cs := by
  fun_induction quotedPart quote cs with
  | case1 => rfl
  | case2 c cs ih => simp [QuotedPart.push, ih]
  | case3 => rfl
  | case4 => rfl
  | case5 c cs _ _ _ ih => simp [QuotedPart.push, ih]

theorem symbol?_bounds {cs : List Char} {kind : TokenKind} {n : Nat}
    (h : symbol? cs = some (kind, n)) : 1 ≤ n ∧ n ≤ cs.length := by
  unfold symbol? at h
  split at h <;> simp_all <;> omega

/-- A step takes some characters from the front of a text and leaves the
others. -/
def Takes (step : Lexeme × List Char) (cs : List Char) : Prop :=
  step.1.source ≠ [] ∧ step.1.source ++ step.2 = cs

theorem takes_quoted (c : Char) (cs : List Char) :
    Takes (quoted c cs) (c :: cs) := by
  simp [Takes, quoted, quotedPart_source_append_rest]

theorem takes_run (kind : List Char → TokenKind) (p : Char → Bool) (c : Char)
    (cs : List Char) : Takes (run kind p c cs) (c :: cs) := by
  simp [Takes, run, plain, List.takeWhile_append_dropWhile]

theorem takes_symbol (c : Char) (cs : List Char) :
    Takes (symbol (c :: cs)) (c :: cs) := by
  unfold symbol
  split
  · rename_i kind n h
    have hn := symbol?_bounds h
    refine ⟨?_, by simp [plain]⟩
    obtain ⟨m, rfl⟩ : ∃ m, n = m + 1 := ⟨n - 1, by omega⟩
    simp [plain]
  · simp [Takes, plain]

theorem takes_nextFrom (c : Char) (cs : List Char) :
    Takes (nextFrom c cs) (c :: cs) := by
  unfold nextFrom
  split
  · exact takes_quoted c cs
  · split
    · exact takes_run _ _ c cs
    · split
      · exact takes_run _ _ c cs
      · split
        · exact takes_run _ _ c cs
        · exact takes_symbol c cs

theorem length_nextFrom_lt (c : Char) (cs : List Char) :
    (nextFrom c cs).2.length < (c :: cs).length := by
  obtain ⟨hne, happ⟩ := takes_nextFrom c cs
  have hlen := congrArg List.length happ
  rw [List.length_append] at hlen
  have := List.length_pos_iff.mpr hne
  omega

/-- The lexemes of a text, without the end. -/
def split : List Char → List Lexeme
  | [] => []
  | c :: cs => (nextFrom c cs).1 :: split (nextFrom c cs).2
termination_by cs => cs.length
decreasing_by exact length_nextFrom_lt c cs

/-- The lexemes of a text spell the text. -/
theorem flatMap_source_split (cs : List Char) :
    (split cs).flatMap (·.source) = cs := by
  fun_induction split cs with
  | case1 => rfl
  | case2 c cs ih => simp [ih, (takes_nextFrom c cs).2]

end Lexeme

end ReportQuery
