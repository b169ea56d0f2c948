import ReportQuery.Proofs.Statement.Gives
import ReportQuery.Statement.Grammar

/-!
# Reading step by step

All parsers of the grammar are made of steps that look at one token: a token is
taken, or it is taken when it is of a kind, and a parenthesis that opens a call
is looked for only right behind a token that was taken. When a parser fails, it
fails at a token that it has taken, or for a reason that is about no token.
-/

namespace ReportQuery

/-- An error that names the literal of a token. -/
inductive ParseError.About (token : Token) : ParseError → Prop
  | unexpected (code : SyntaxCode) :
      About token (.unexpected code token.literal)
  | unknownFunction : About token (.unknownFunction token.literal)
  | unknownDays : About token (.during (.unknownDays token.literal))

theorem ParseError.About.literal_eq {token : Token} {error : ParseError}
    (h : error.About token) : error.literal = token.literal := by
  cases h <;> rfl

/-- The faults of a whole DURING clause. -/
def DuringFault.fixed :
    List DuringFault := [.tooManyDays, .nameExpected, .dateExpected]

/-- An error about the number or the kind of the entries of a DURING clause. -/
def ParseError.IsDuringReason (error : ParseError) : Prop :=
  ∃ fault ∈ DuringFault.fixed, error = .during fault

namespace Parser

variable {α β : Type} {other : ParseError → Prop} {just : Bool}
  {seen : List Token}

/-- A parser made of steps, behind tokens that were taken. `just` tells that
nothing was put back since the last of them, and `other` are the errors that
are about no token. -/
inductive Stepwise (other : ParseError → Prop) :
    Bool → List Token → {α : Type} → Parser α → Prop
  | pure {just : Bool} {seen : List Token} {α : Type} (a : α) :
      Stepwise other just seen (pure a : Parser α)
  | failAt {just : Bool} {seen : List Token} {α : Type} {token : Token}
      {error : ParseError} (hseen : token ∈ seen) (habout : error.About token) :
      Stepwise other just seen (fail error : Parser α)
  | failOther {just : Bool} {seen : List Token} {α : Type} {error : ParseError}
      (hother : other error) : Stepwise other just seen (fail error : Parser α)
  | next {just : Bool} {seen : List Token} {α : Type}
      {second : Token → Parser α}
      (hsecond : ∀ token, Stepwise other true (token :: seen) (second token)) :
      Stepwise other just seen (nextToken >>= second)
  | acceptCall {seen : List Token} {α : Type} {second : Bool → Parser α}
      (hsecond : ∀ taken, Stepwise other false seen (second taken)) :
      Stepwise other true seen (acceptCall >>= second)
  | accept {just : Bool} {seen : List Token} {kind : TokenKind}
      (hkind : kind ≠ .ending) : Stepwise other just seen (accept kind)
  | identifier? {just : Bool} {seen : List Token} :
      Stepwise other just seen identifier?
  | bind {just : Bool} {seen : List Token} {α β : Type} {first : Parser α}
      {second : α → Parser β} (hfirst : Stepwise other just seen first)
      (hsecond : ∀ a, Stepwise other false seen (second a)) :
      Stepwise other just seen (first >>= second)
  | separated {just : Bool} {seen : List Token} {α : Type}
      {separator : TokenKind}
      {entry : List α → Parser α} {before : List α}
      (hseparator : separator ≠ .ending)
      (hentry : ∀ before, Stepwise other false seen (entry before)) :
      Stepwise other just seen (separated separator entry before)

/-! ## The parsers of the grammar -/

theorem Stepwise.unexpected (code : SyntaxCode) (token : Token) :
    Stepwise other just (token :: seen) (Parser.failAt code token : Parser α) :=
  .failAt List.mem_cons_self (.unexpected code)

theorem stepwise_expect (kind : TokenKind) (code : SyntaxCode) :
    Stepwise other just seen (expect kind code) := by
  refine .next fun token => ?_
  split
  · exact .pure _
  · exact .unexpected code token

theorem stepwise_identifier (code : SyntaxCode) :
    Stepwise other just seen (identifier code) :=
  stepwise_expect .identifier code

theorem stepwise_optional {kind : TokenKind} (hkind : kind ≠ .ending)
    {parser : Parser α} (h : Stepwise other false seen parser) :
    Stepwise other just seen (optional kind parser) := by
  refine .bind (.accept hkind) fun taken => ?_
  split
  · exact h.bind fun a => .pure _
  · exact .pure _

theorem stepwise_clause {kind : TokenKind} (hkind : kind ≠ .ending)
    {parser : Parser (List α)} (h : Stepwise other false seen parser) :
    Stepwise other just seen (clause kind parser) := by
  refine .bind (.accept hkind) fun taken => ?_
  split
  · exact h
  · exact .pure _

theorem stepwise_reference (items : List SelectItem) (code : SyntaxCode) :
    Stepwise other just seen (reference items code) := by
  refine .next fun token => ?_
  split
  · exact .pure _
  · exact .unexpected code token

theorem stepwise_distinctItem : Stepwise other just seen distinctItem :=
  (stepwise_identifier .invalidField).bind fun _ => .pure _

theorem stepwise_argument (function : AggregateFunction)
    (before : List SelectItem) :
    Stepwise other just seen (argument function before) := by
  refine .next fun token => ?_
  split
  · split
    · exact .pure _
    · exact .unexpected _ token
  · exact stepwise_distinctItem
  · split
    · exact .pure _
    · exact .unexpected _ token
  · exact .pure _
  · exact .failAt List.mem_cons_self .unknownFunction

theorem stepwise_call {token : Token} (hseen : token ∈ seen)
    (before : List SelectItem) :
    Stepwise other just seen (call token.literal before) := by
  rw [call]
  split
  · exact .failAt hseen .unknownFunction
  · next function _ =>
      refine (stepwise_argument function before).bind fun item => ?_
      exact (stepwise_expect .closeParen .syntaxNear).bind fun _ => .pure _

theorem stepwise_plainItem (before : List SelectItem) :
    Stepwise other just seen (plainItem before) := by
  refine .next fun token => ?_
  split
  · exact .pure _
  · exact stepwise_distinctItem
  · refine .acceptCall fun taken => ?_
    split
    · exact stepwise_call List.mem_cons_self before
    · exact .pure _
  · exact .unexpected _ token

theorem stepwise_aliasName? : Stepwise other just seen aliasName? := by
  refine .bind (.accept (by simp)) fun taken => ?_
  split
  · exact (stepwise_identifier .invalidField).bind fun _ => .pure _
  · exact .identifier?

theorem stepwise_selectItem (before : List SelectItem) :
    Stepwise other just seen (selectItem before) :=
  (stepwise_plainItem before).bind fun _ =>
    stepwise_aliasName?.bind fun _ => .pure _

theorem stepwise_listValue (before : List (String × Bool)) :
    Stepwise other just seen (listValue before) := by
  refine .next fun token => ?_
  split
  · exact .unexpected _ token
  · split
    · exact .pure _
    · exact .unexpected _ token

theorem stepwise_valueList : Stepwise other just seen valueList :=
  (Stepwise.separated (by simp) stepwise_listValue).bind fun _ =>
    (stepwise_expect .closeBracket .syntaxNear).bind fun _ => .pure _

theorem stepwise_conditionValues :
    Stepwise other just seen conditionValues := by
  refine .next fun token => ?_
  split
  · exact .pure _
  · split
    · exact stepwise_valueList
    · exact .unexpected _ token

theorem stepwise_comparison : Stepwise other just seen comparison := by
  refine .next fun token => ?_
  split
  · exact .pure _
  · exact .unexpected _ token

theorem stepwise_condition : Stepwise other just seen condition :=
  (stepwise_identifier .invalidField).bind fun _ =>
    stepwise_comparison.bind fun _ =>
      stepwise_conditionValues.bind fun _ => .pure _

theorem mem_fixed_of_ofEntries {entries : List DuringEntry}
    {fault : DuringFault} (h : During.ofEntries entries = .error fault) :
    fault ∈ DuringFault.fixed := by
  unfold During.ofEntries at h
  split at h
  · simp at h
  · simp at h
  all_goals
    obtain rfl := Except.error.inj h
    simp [DuringFault.fixed]

theorem stepwise_duringEntry : Stepwise other just seen duringEntry := by
  refine .next fun token => ?_
  split
  · exact .pure _
  · exact .failAt List.mem_cons_self .unknownDays

theorem stepwise_groupByClause (items : List SelectItem) :
    Stepwise other just seen (groupByClause items) :=
  (stepwise_expect (.keyword .byWord) .invalidGroupBy).bind fun _ =>
    .separated (by simp) fun _ => stepwise_reference items .invalidGroupBy

theorem stepwise_isDescending : Stepwise other just seen isDescending := by
  refine .bind (.accept (by simp)) fun taken => ?_
  split
  · exact .pure _
  · exact .bind (.accept (by simp)) fun _ => .pure _

theorem stepwise_orderEntry (items : List SelectItem) :
    Stepwise other just seen (orderEntry items) :=
  (stepwise_reference items .invalidOrderBy).bind fun _ =>
    stepwise_isDescending.bind fun _ => .pure _

theorem stepwise_orderByClause (items : List SelectItem) :
    Stepwise other just seen (orderByClause items) :=
  (stepwise_expect (.keyword .byWord) .invalidOrderBy).bind fun _ =>
    .separated (by simp) fun _ => stepwise_orderEntry items

theorem stepwise_rowNumber : Stepwise other just seen rowNumber := by
  refine .next fun token => ?_
  split
  · exact .pure _
  · exact .unexpected _ token

theorem stepwise_limitClause : Stepwise other just seen limitClause := by
  refine stepwise_rowNumber.bind fun first =>
    .bind (.accept (by simp)) fun taken => ?_
  split
  · exact stepwise_rowNumber.bind fun _ => .pure _
  · exact .pure _

theorem stepwise_statementEnd : Stepwise other just seen statementEnd := by
  refine .next fun token => ?_
  split
  · exact .pure _
  · exact .pure _
  · exact .pure _
  · exact .unexpected _ token

theorem stepwise_describeBody : Stepwise other just seen describeBody :=
  .bind (.accept (by simp)) fun _ =>
    (stepwise_identifier .invalidSource).bind fun _ =>
    .bind .identifier? fun _ => stepwise_statementEnd.bind fun _ => .pure _

theorem stepwise_withClause : Stepwise other just seen withClause := by
  refine .next fun token => ?_
  split
  · exact .pure _
  · exact .unexpected _ token

theorem stepwise_showBody : Stepwise other just seen showBody := by
  refine .bind (.accept (by simp)) fun full => ?_
  refine (stepwise_expect (.keyword .tables) .invalidMethod).bind fun _ => ?_
  have hlike : Stepwise other false seen likeClause :=
    (stepwise_expect .quoted .syntaxNear).bind fun _ => .pure _
  refine (stepwise_optional (by simp) hlike).bind fun like => ?_
  refine (stepwise_optional (by simp) stepwise_withClause).bind fun column => ?_
  exact stepwise_statementEnd.bind fun _ => .pure _

theorem stepwise_viewColumns : Stepwise other just seen viewColumns :=
  (Stepwise.separated (by simp) fun _ => stepwise_identifier .invalidField).bind
    fun _ => (stepwise_expect .closeParen .syntaxNear).bind fun _ => .pure _

theorem stepwise_orReplace : Stepwise other just seen orReplace := by
  refine .bind (.accept (by simp)) fun taken => ?_
  split
  · exact (stepwise_expect (.keyword .replace) .invalidMethod).bind fun _ =>
      .pure _
  · exact .pure _

section Reasons

variable (hreason : ∀ error : ParseError, error.IsDuringReason → other error)
include hreason

theorem stepwise_duringClause : Stepwise other just seen duringClause := by
  refine (Stepwise.separated (by simp) fun _ => stepwise_duringEntry).bind
    fun entries => ?_
  split
  · exact .pure _
  · next fault hfault =>
      exact .failOther (hreason _ ⟨fault, mem_fixed_of_ofEntries hfault, rfl⟩)

theorem stepwise_selectBody : Stepwise other just seen selectBody := by
  refine (Stepwise.separated (by simp) stepwise_selectItem).bind fun items => ?_
  refine (stepwise_expect (.keyword .fromWord) .missingSource).bind fun _ => ?_
  refine (stepwise_identifier .invalidSource).bind fun source => ?_
  refine (stepwise_clause (by simp)
    (.separated (by simp) fun _ => stepwise_condition)).bind
    fun conditions => ?_
  refine (stepwise_optional (by simp) (stepwise_duringClause hreason)).bind
    fun during => ?_
  refine (stepwise_clause (by simp) (stepwise_groupByClause items)).bind
    fun groupBy => ?_
  refine (stepwise_clause (by simp) (stepwise_orderByClause items)).bind
    fun orderBy => ?_
  refine (stepwise_optional (by simp) stepwise_limitClause).bind fun limit => ?_
  exact stepwise_statementEnd.bind fun terminator => .pure _

variable (hcount : ∀ expected found, other (.columnCount expected found))
include hcount

theorem stepwise_createBody : Stepwise other just seen createBody := by
  refine stepwise_orReplace.bind fun replace => ?_
  refine (stepwise_expect (.keyword .view) .invalidMethod).bind fun _ => ?_
  refine (stepwise_identifier .invalidSource).bind fun name => ?_
  refine (stepwise_clause (by simp) stepwise_viewColumns).bind fun columns => ?_
  refine (stepwise_expect (.keyword .asWord) .syntaxNear).bind fun _ => ?_
  refine (stepwise_expect (.keyword .select) .invalidMethod).bind fun _ => ?_
  refine (stepwise_selectBody hreason).bind fun select => ?_
  split
  · exact .pure _
  · exact .failOther (hcount _ _)

/-- A statement takes a token first, whatever it is, and goes on in steps. -/
theorem exists_statement_eq_nextToken_bind :
    ∃ second : Token → Parser Statement, statement = nextToken >>= second ∧
      ∀ token, Stepwise other true (token :: seen) (second token) := by
  refine ⟨_, rfl, fun token => ?_⟩
  split
  · exact stepwise_describeBody.bind fun _ => .pure _
  · exact stepwise_describeBody.bind fun _ => .pure _
  · exact (stepwise_createBody hreason hcount).bind fun _ => .pure _
  · exact (stepwise_selectBody hreason).bind fun _ => .pure _
  · exact stepwise_showBody.bind fun _ => .pure _
  · exact .unexpected _ token

theorem stepwise_statement : Stepwise other just seen statement := by
  obtain ⟨second, hstatement, hsecond⟩ :=
    @exists_statement_eq_nextToken_bind other seen hreason hcount
  rw [hstatement]
  exact .next hsecond

end Reasons

end Parser

end ReportQuery
