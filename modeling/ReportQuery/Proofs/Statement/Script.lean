import ReportQuery.Proofs.Results
import ReportQuery.Proofs.Statement.Confined
import ReportQuery.Statement.Grammar

/-!
# Scripts one after another

A script whose text ends in a semicolon or in a mark for vertical output can be
put in front of any other text: its statements come first, and what is said of
the other text, be it statements or an error, is what is said of it alone.
Blanks at the end of the script, quoted semicolons and statements cut in two do
not get in the way. Every parser of the grammar is confined to the words up to
the end of a statement, and a script is read statement by statement.
-/

namespace ReportQuery

open ReportQuery.Parser

/-! ## Entries of the select list -/

theorem confined_reference (items : List SelectItem) (code : SyntaxCode) :
    Confined EndsClosed EndsClosed (reference items code) := by
  refine confined_nextToken_bind (fun _ => ⟨⟨_, rfl⟩, ⟨_, rfl⟩⟩) fun token => ?_
  split
  · exact confined_pure _
  · exact confined_fail _

theorem confined_distinctItem : Confined EndsClosed EndsClosed distinctItem :=
  (confined_identifier .invalidField).bind fun _ => confined_pure _

theorem confined_argument (function : AggregateFunction)
    (before : List SelectItem) :
    Confined EndsClosed EndsClosed (argument function before) := by
  refine confined_nextToken_bind (fun _ => ⟨⟨_, rfl⟩, ⟨_, rfl⟩⟩) fun token => ?_
  split
  · split
    · exact confined_pure _
    · exact confined_fail _
  · exact confined_distinctItem
  · split
    · exact confined_pure _
    · exact confined_fail _
  · exact confined_pure _
  · exact confined_fail _

theorem confined_call (name : String) (before : List SelectItem) :
    Confined EndsClosed EndsClosed (call name before) := by
  unfold call
  split
  · exact confined_fail _
  · next function _ =>
      refine (confined_argument function before).bind fun item => ?_
      exact (confined_expect (by decide) .syntaxNear).bind fun _ =>
        confined_pure _

theorem confined_plainItem (before : List SelectItem) :
    Confined EndsClosed EndsClosed (plainItem before) := by
  refine confined_nextToken_bind (fun _ => ⟨⟨_, rfl⟩, ⟨_, rfl⟩⟩) fun token => ?_
  split
  · exact confined_pure _
  · exact confined_distinctItem
  · refine confined_acceptCall.bind fun taken => ?_
    split
    · exact confined_call token.literal before
    · exact confined_pure _
  · exact confined_fail _

theorem confined_aliasName? : Confined EndsClosed EndsClosed aliasName? := by
  refine (confined_accept (by decide)).bind fun taken => ?_
  split
  · exact (confined_identifier .invalidField).bind fun _ => confined_pure _
  · exact confined_identifier?

theorem confined_selectItem (before : List SelectItem) :
    Confined EndsClosed EndsClosed (selectItem before) := by
  refine (confined_plainItem before).bind fun item => ?_
  exact confined_aliasName?.bind fun _ => confined_pure _

/-! ## Conditions -/

theorem confined_listValue (before : List (String × Bool)) :
    Confined EndsClosed EndsClosed (listValue before) := by
  refine confined_nextToken_bind (fun _ => ⟨⟨_, rfl⟩, ⟨_, rfl⟩⟩) fun token => ?_
  split
  · exact confined_fail _
  · split
    · exact confined_pure _
    · exact confined_fail _

theorem confined_conditionValues :
    Confined EndsClosed EndsClosed conditionValues := by
  refine confined_nextToken_bind (fun _ => ⟨⟨_, rfl⟩, ⟨_, rfl⟩⟩) fun token => ?_
  split
  · exact confined_pure _
  · split
    · refine (confined_separated (by decide) confined_listValue []).bind
        fun values => ?_
      exact (confined_expect (by decide) .syntaxNear).bind fun _ =>
        confined_pure _
    · exact confined_fail _

theorem confined_comparison : Confined EndsClosed EndsClosed comparison := by
  refine confined_nextToken_bind (fun _ => ⟨⟨_, rfl⟩, ⟨_, rfl⟩⟩) fun token => ?_
  split
  · exact confined_pure _
  · exact confined_fail _

theorem confined_condition : Confined EndsClosed EndsClosed condition := by
  refine (confined_identifier .invalidField).bind fun column => ?_
  refine confined_comparison.bind fun operator => ?_
  exact confined_conditionValues.bind fun values => confined_pure _

/-! ## The clauses behind the conditions -/

theorem confined_duringClause :
    Confined EndsClosed EndsClosed duringClause := by
  have hentry : Confined EndsClosed EndsClosed duringEntry := by
    refine confined_nextToken_bind (fun _ => ⟨⟨_, rfl⟩, ⟨_, rfl⟩⟩)
      fun token => ?_
    split
    · exact confined_pure _
    · exact confined_fail _
  refine (confined_separated (by decide) (fun _ => hentry) []).bind
    fun entries => ?_
  split
  · exact confined_pure _
  · exact confined_fail _

theorem confined_groupByClause (items : List SelectItem) :
    Confined EndsClosed EndsClosed (groupByClause items) :=
  (confined_expect (by decide) .invalidGroupBy).bind fun _ =>
    confined_separated (by decide)
      (fun _ => confined_reference items .invalidGroupBy) []

theorem confined_isDescending :
    Confined EndsClosed EndsClosed isDescending := by
  refine (confined_accept (by decide)).bind fun taken => ?_
  split
  · exact confined_pure _
  · exact (confined_accept (by decide)).bind fun _ => confined_pure _

theorem confined_orderByClause (items : List SelectItem) :
    Confined EndsClosed EndsClosed (orderByClause items) := by
  have hentry : Confined EndsClosed EndsClosed (orderEntry items) :=
    (confined_reference items .invalidOrderBy).bind fun _ =>
      confined_isDescending.bind fun _ => confined_pure _
  exact (confined_expect (by decide) .invalidOrderBy).bind fun _ =>
    confined_separated (by decide) (fun _ => hentry) []

theorem confined_rowNumber : Confined EndsClosed EndsClosed rowNumber := by
  refine confined_nextToken_bind (fun _ => ⟨⟨_, rfl⟩, ⟨_, rfl⟩⟩) fun token => ?_
  split
  · exact confined_pure _
  · exact confined_fail _

theorem confined_limitClause : Confined EndsClosed EndsClosed limitClause := by
  refine confined_rowNumber.bind fun first => ?_
  refine (confined_accept (by decide)).bind fun taken => ?_
  split
  · exact confined_rowNumber.bind fun count => confined_pure _
  · exact confined_pure _

/-- The end of a statement is the one parser that takes a word which ends it. -/
theorem confined_statementEnd :
    Confined EndsClosed NoneOrClosed statementEnd := by
  refine confined_nextToken.bind fun token => ?_
  split
  · exact confined_pure _
  · exact confined_pure _
  · exact confined_pure _
  · exact confined_fail _

/-! ## Statements -/

theorem confined_selectBody : Confined EndsClosed NoneOrClosed selectBody := by
  refine (confined_separated (by decide) confined_selectItem []).bind
    fun items => ?_
  refine (confined_expect (by decide) .missingSource).bind fun _ => ?_
  refine (confined_identifier .invalidSource).bind fun source => ?_
  refine (confined_clause (by decide)
    (confined_separated (by decide) (fun _ => confined_condition) [])).bind
    fun conditions => ?_
  refine (confined_optional (by decide) confined_duringClause).bind
    fun during => ?_
  refine (confined_clause (by decide) (confined_groupByClause items)).bind
    fun groupBy => ?_
  refine (confined_clause (by decide) (confined_orderByClause items)).bind
    fun orderBy => ?_
  refine (confined_optional (by decide) confined_limitClause).bind
    fun limit => ?_
  exact confined_statementEnd.bind fun terminator => confined_pure _

theorem confined_describeBody :
    Confined EndsClosed NoneOrClosed describeBody := by
  refine (confined_accept (by decide)).bind fun full => ?_
  refine (confined_identifier .invalidSource).bind fun source => ?_
  refine confined_identifier?.bind fun column => ?_
  exact confined_statementEnd.bind fun terminator => confined_pure _

theorem confined_showBody : Confined EndsClosed NoneOrClosed showBody := by
  have hlike : Confined EndsClosed EndsClosed likeClause :=
    (confined_expect (by decide) .syntaxNear).bind fun _ => confined_pure _
  have hwith : Confined EndsClosed EndsClosed withClause := by
    refine confined_nextToken_bind (fun _ => ⟨⟨_, rfl⟩, ⟨_, rfl⟩⟩)
      fun token => ?_
    split
    · exact confined_pure _
    · exact confined_fail _
  refine (confined_accept (by decide)).bind fun full => ?_
  refine (confined_expect (by decide) .invalidMethod).bind fun _ => ?_
  refine (confined_optional (by decide) hlike).bind fun like => ?_
  refine (confined_optional (by decide) hwith).bind fun column => ?_
  exact confined_statementEnd.bind fun terminator => confined_pure _

theorem confined_createBody : Confined EndsClosed NoneOrClosed createBody := by
  have horReplace : Confined EndsClosed EndsClosed orReplace := by
    refine (confined_accept (by decide)).bind fun taken => ?_
    split
    · exact (confined_expect (by decide) .invalidMethod).bind fun _ =>
        confined_pure _
    · exact confined_pure _
  have hcolumns : Confined EndsClosed EndsClosed viewColumns :=
    (confined_separated (by decide) (fun _ => confined_identifier .invalidField)
      []).bind fun _ =>
      (confined_expect (by decide) .syntaxNear).bind fun _ => confined_pure _
  refine horReplace.bind fun replace => ?_
  refine (confined_expect (by decide) .invalidMethod).bind fun _ => ?_
  refine (confined_identifier .invalidSource).bind fun name => ?_
  refine (confined_clause (by decide) hcolumns).bind fun columns => ?_
  refine (confined_expect (by decide) .syntaxNear).bind fun _ => ?_
  refine (confined_expect (by decide) .invalidMethod).bind fun _ => ?_
  refine confined_selectBody.bind fun select => ?_
  split
  · exact confined_pure _
  · exact confined_fail _

/-- A statement takes at least a word, and none behind its end. -/
theorem confined_statement {word : Word} {tail : List Word}
    (hwords : EndsClosed (word :: tail)) {s : Statement} {rest : List Word}
    (hrun : statement (word :: tail) = (.ok s, rest)) :
    rest <:+ tail ∧ NoneOrClosed rest ∧
      ∀ more, statement (word :: tail ++ more) = (.ok s, rest ++ more) := by
  refine confined_tail (fun _ => ⟨⟨_, rfl⟩, ⟨_, rfl⟩⟩)
    (fun token => ?_) hwords hrun
  split
  · exact confined_describeBody.bind fun _ => confined_pure _
  · exact confined_describeBody.bind fun _ => confined_pure _
  · exact confined_createBody.bind fun _ => confined_pure _
  · exact confined_selectBody.bind fun _ => confined_pure _
  · exact confined_showBody.bind fun _ => confined_pure _
  · exact confined_fail _

/-! ## Scripts -/

/-- Only the token of the first word of a script matters. -/
theorem scriptOfWords_opensCall (token : Token) (opensCall opensCall' : Bool)
    (tail : List Word) :
    scriptOfWords (⟨token, opensCall⟩ :: tail) =
      scriptOfWords (⟨token, opensCall'⟩ :: tail) := by
  rw [scriptOfWords, scriptOfWords]
  rfl

theorem scriptOfWords_ofLexemes (spaced : Bool) (lexemes : List Lexeme) :
    scriptOfWords (Word.ofLexemes spaced lexemes) =
      scriptOfWords (Word.ofLexemes false lexemes) := by
  cases lexemes with
  | nil => rfl
  | cons lexeme rest =>
      rw [Word.ofLexemes, Word.ofLexemes]
      split
      · rfl
      · exact scriptOfWords_opensCall _ _ _ _

theorem scriptOfWords_append {words : List Word} (hwords : NoneOrClosed words)
    {xs : List Statement} (h : scriptOfWords words = .ok xs)
    (more : List Word) :
    scriptOfWords (words ++ more) =
      (scriptOfWords more).map fun ys => xs ++ ys := by
  fun_induction scriptOfWords words generalizing xs with
  | case1 =>
      obtain rfl : [] = xs := by simpa using h
      cases hmore : scriptOfWords more <;> simp [hmore]
  | case2 word tail hsemicolon ih =>
      rw [List.cons_append, scriptOfWords, if_pos hsemicolon]
      exact ih hwords.endsClosed.noneOrClosed_tail h
  | case3 => simp at h
  | case4 word tail hkind s rest hread hshorter ih =>
      obtain ⟨-, hrest, hread'⟩ := confined_statement hwords.endsClosed hread
      obtain ⟨later, hlater, rfl⟩ := Except.map_eq_ok_iff.mp h
      have hlength : (rest ++ more).length < (tail ++ more).length + 1 := by
        simp only [List.length_append]
        omega
      rw [List.cons_append, scriptOfWords, if_neg hkind, ← List.cons_append,
        hread' more]
      simp only [if_pos hlength]
      rw [ih hrest hlater, Except.map_map]
      rfl
  | case5 word tail hkind s rest hread hlonger =>
      obtain ⟨hsuffix, -⟩ := confined_statement hwords.endsClosed hread
      have hlength := hsuffix.length_le
      omega

/-! ## Texts -/

theorem noneOrClosed_ofText {text : String}
    (h : ∀ word ∈ (Word.ofText text).getLast?, word.token.kind.Closes) :
    NoneOrClosed (Word.ofText text) := by
  cases hlast : (Word.ofText text).getLast? with
  | none => exact Or.inl (List.getLast?_eq_none_iff.mp hlast)
  | some last =>
      have hkind : last.token.kind.Closes := h last hlast
      have hopen : last.token.kind ≠ .openParen := by
        intro hparen
        rw [hparen] at hkind
        exact absurd hkind (by decide)
      have hcall := Word.not_opensCall_of_mem_ofLexemes
        (List.mem_of_getLast? hlast) hopen
      exact Or.inr ⟨last, hlast, hkind, hcall⟩

/-- When the last word of a text, if it has any, is a semicolon or a mark for
vertical output, the statements of the text are followed by those of the text
behind it, or by the error of this text. -/
theorem parseScript_append {a : String} {xs : List Statement}
    (h : parseScript a = .ok xs)
    (hclosed : ∀ word ∈ (Word.ofText a).getLast?, word.token.kind.Closes)
    (b : String) :
    parseScript (a ++ b) = (parseScript b).map fun ys => xs ++ ys := by
  obtain ⟨spaced, hwords⟩ := Word.ofText_append hclosed b
  rw [parseScript, hwords, scriptOfWords_append (noneOrClosed_ofText hclosed) h,
    scriptOfWords_ofLexemes]
  rfl

/-- A script that ends in a mark for vertical output and blanks, with a
semicolon between quotes. -/
def dockScript : String :=
  "DESC ships; SELECT name FROM ships WHERE name = 'a;b' \\G \n"

def dockStatements : List Statement :=
  [.describe ⟨false, "ships", none, .semicolon⟩,
    .select {
      items := [{ column := { name := "name" } }]
      source := "ships"
      conditions :=
        [{ column := "name", operator := .equal, values := ["a;b"],
           literal := false }]
      terminator := .vertical }]

theorem parseScript_append_dockScript :
    parseScript dockScript = .ok dockStatements ∧
      (∀ word ∈ (Word.ofText dockScript).getLast?, word.token.kind.Closes) ∧
      parseScript (dockScript ++ "\t;;DESC ships name") =
        .ok (dockStatements ++
          [.describe ⟨false, "ships", some "name", .ending⟩]) ∧
      parseScript (dockScript ++ "(SELECT name FROM ships;") =
        .error (.unexpected .syntaxNear "(") := by
  have hread : parseScript dockScript = .ok dockStatements := by decide +kernel
  have hclosed : ∀ word ∈ (Word.ofText dockScript).getLast?,
      word.token.kind.Closes := by
    decide +kernel
  refine ⟨hread, hclosed, ?_, ?_⟩
  · rw [parseScript_append hread hclosed]
    decide +kernel
  · rw [parseScript_append hread hclosed]
    decide +kernel

end ReportQuery
