import ReportQuery.Proofs.Statement.ScriptRuns

/-!
# Blanks between tokens

Blanks carry no meaning, save in front of a parenthesis. Two texts with the
same tokens, blanks left out, have the same words when they agree, parenthesis
by parenthesis, on whether a blank comes right before it. What they give is
then the same, also when they are read token by token.
-/

namespace ReportQuery

/-- The tokens that are no blanks. -/
def Token.withoutBlanks (tokens : List Token) : List Token :=
  tokens.filter fun token => token.kind ≠ .blank

/-- For every opening parenthesis, whether a blank comes directly before it;
`spaced` tells that of the first token. -/
def Token.parensSpaced (spaced : Bool) : List Token → List Bool
  | [] => []
  | token :: rest =>
    (if token.kind = .openParen then [spaced] else []) ++
      parensSpaced (token.kind = .blank) rest

/-- Two texts with the same tokens but for blanks, and blanks before the same
parentheses. -/
structure SameButForBlanks (s t : String) : Prop where
  tokens : Token.withoutBlanks (Token.ofText s) =
    Token.withoutBlanks (Token.ofText t)
  parens : Token.parensSpaced false (Token.ofText s) =
    Token.parensSpaced false (Token.ofText t)

namespace Word

/-- Words put together from tokens and from what is told of the parentheses
among them. -/
def assemble : List Token → List Bool → List Word
  | [], _ => []
  | token :: rest, spaced =>
    if token.kind = .openParen then
      ⟨token, !spaced.headD false⟩ :: assemble rest spaced.tail
    else ⟨token, false⟩ :: assemble rest spaced

/-- Of the blanks, words keep only what is told of the parentheses. -/
theorem ofLexemes_eq_assemble (spaced : Bool) (lexemes : List Lexeme) :
    ofLexemes spaced lexemes =
      assemble (Token.withoutBlanks (lexemes.map (·.token)))
        (Token.parensSpaced spaced (lexemes.map (·.token))) := by
  induction lexemes generalizing spaced with
  | nil => rfl
  | cons lexeme rest ih =>
      rw [List.map_cons, Token.withoutBlanks, Token.parensSpaced]
      by_cases hblank : lexeme.token.kind = .blank
      · rw [ofLexemes, if_pos hblank, ih,
          List.filter_cons_of_neg (by simp [hblank])]
        simp [hblank, Token.withoutBlanks]
      · rw [ofLexemes, if_neg hblank, ih,
          List.filter_cons_of_pos (by simpa using hblank), assemble]
        by_cases hparen : lexeme.token.kind = .openParen
        · simp [hparen, Token.withoutBlanks]
        · simp [hblank, hparen, Token.withoutBlanks]

end Word

theorem SameButForBlanks.ofText_eq {s t : String} (h : SameButForBlanks s t) :
    Word.ofText s = Word.ofText t := by
  have htokens := h.tokens
  have hparens := h.parens
  rw [Token.ofText, Token.ofText] at htokens hparens
  rw [Word.ofText, Word.ofText, Word.ofLexemes_eq_assemble,
    Word.ofLexemes_eq_assemble, htokens, hparens]

/-- Texts that are the same but for blanks give the same statements or the same
error, and reading one of them token by token gives what the other one
gives. -/
theorem parse_of_sameButForBlanks {s t : String} (h : SameButForBlanks s t) :
    parseScript s = parseScript t ∧ parseStatement s = parseStatement t ∧
      (∀ result, (∃ n, (Cursor.ofText s).ReadsScript n result) ↔
        result = parseScript t) ∧
      ∀ result, (Cursor.ofText s).ReadsStatement result ↔
        result = parseStatement t := by
  have hwords := h.ofText_eq
  have hscript : parseScript s = parseScript t := by
    rw [parseScript, hwords, parseScript]
  have hstatement : parseStatement s = parseStatement t := by
    rw [parseStatement, hwords, parseStatement]
  refine ⟨hscript, hstatement, fun result => ?_, fun result => ?_⟩
  · rw [Cursor.readsScript_ofText_iff, hscript]
  · rw [Cursor.readsStatement_ofText_iff, hstatement]

/-- A function call, a list of columns behind a blank, and too few columns in
it. -/
def narrowScript : String :=
  "SELECT SUM(price)total FROM sales WHERE city IN[Lyon];CREATE VIEW v (a)AS SELECT b,c FROM t"

/-- The same with other blanks, at the ends as well. -/
def wideScript : String :=
  "\n SELECT SUM( price ) total\tFROM sales\nWHERE city IN [ Lyon ] ; " ++
    "CREATE VIEW v\t\n(a) AS SELECT b , c FROM t "

def totalInLyon : Select where
  items := [{ column := ⟨"price", some "total"⟩, function := some .sum }]
  source := "sales"
  conditions :=
    [{ column := "city", operator := .isIn, values := ["Lyon"],
       literal := true }]
  terminator := .semicolon

theorem parse_wideScript :
    SameButForBlanks wideScript narrowScript ∧
      parseScript wideScript = .error (.columnCount 2 1) ∧
      parseStatement wideScript = .ok (.select totalInLyon) ∧
      (Cursor.ofText wideScript).ReadsStatement
        (.ok (.select totalInLyon)) := by
  have hsame : SameButForBlanks wideScript narrowScript :=
    ⟨by decide +kernel, by decide +kernel⟩
  obtain ⟨hscript, hstatement, -, hreads⟩ := parse_of_sameButForBlanks hsame
  have hnarrow : parseStatement narrowScript = .ok (.select totalInLyon) := by
    decide +kernel
  refine ⟨hsame, ?_, by rw [hstatement, hnarrow], (hreads _).mpr hnarrow.symm⟩
  rw [hscript]
  decide +kernel

/-- A blank in front of the parenthesis of a call is not one of those without
meaning. -/
example : ¬ SameButForBlanks "SELECT SUM (a) FROM b" "SELECT SUM(a) FROM b" ∧
    parseStatement "SELECT SUM (a) FROM b" =
      .error (.unexpected .missingSource "(") := by
  refine ⟨fun h => absurd h.parens (by decide +kernel), by decide +kernel⟩

end ReportQuery
