import ReportQuery.Proofs.Calendar.EightDigits
import ReportQuery.Proofs.Statement.WellFormed
import ReportQuery.Proofs.Statement.Written

/-!
# The tokens that statements are read from

A statement that is read is written as the tokens it was read from, clause by
clause, for every parser of the grammar.
-/

namespace ReportQuery

open ReportQuery.Calendar ReportQuery.Parser

/-! ## References and days -/

theorem writtenAs_of_resolveReference {items : List SelectItem} {token : Token}
    {p : ColumnPosition} (h : resolveReference items token = some p) :
    p.WrittenAs items token := by
  obtain ⟨kind, literal⟩ := token
  unfold resolveReference at h
  split at h
  · next hkind =>
      obtain ⟨position, hposition, hitem⟩ := Option.bind_eq_some_iff.mp h
      obtain ⟨item, -, rfl⟩ := Option.map_eq_some_iff.mp hitem
      obtain rfl : kind = .digits := hkind
      exact .number hposition
  · next hkind =>
      obtain ⟨i, hfind, hi⟩ := Option.bind_eq_some_iff.mp h
      obtain ⟨item, hitem, rfl⟩ := Option.map_eq_some_iff.mp hi
      obtain ⟨hlt, hanswers, hbefore⟩ :=
        List.findIdx?_eq_some_iff_getElem.mp hfind
      obtain rfl : kind = .identifier := hkind
      refine .name ⟨item, by simpa using hitem, ?_⟩ fun j hj other hother => ?_
      · rw [List.getElem?_eq_getElem hlt] at hitem
        simpa [SelectItem.answersTo, Option.some.inj hitem] using hanswers
      · have hj' : j < i := by simpa using hj
        obtain ⟨hjlt, rfl⟩ := List.getElem?_eq_some_iff.mp hother
        simpa [SelectItem.answersTo] using hbefore j hj'
  · simp at h

variable {R : Token → Prop}

theorem consumes_reference (items : List SelectItem) (code : SyntaxCode) :
    Consumes R (reference items code) fun p tokens =>
      ∃ token, tokens = [token] ∧ p.WrittenAs items token := by
  refine consumes_nextToken_bind (fun words a rest hrun => ?_) fun token _ => ?_
  · simp [resolveReference] at hrun
  · split
    · next p hp =>
        exact consumes_pure ⟨token, rfl, writtenAs_of_resolveReference hp⟩
    · exact consumes_failAt code token

theorem consumes_isDescending : Consumes R isDescending DirectionWrittenAs := by
  refine (consumes_accept _).bind fun taken tokens htaken => ?_
  obtain ⟨rfl, literal, rfl⟩ | ⟨rfl, rfl⟩ := htaken
  · exact consumes_pure (.descending literal)
  · refine (consumes_accept _).bind fun taken tokens htaken => consumes_pure ?_
    obtain ⟨-, literal, rfl⟩ | ⟨-, rfl⟩ := htaken
    · exact .ascending literal
    · exact .leftOut

theorem consumes_orderEntry (items : List SelectItem) :
    Consumes R (orderEntry items) (OrderEntry.WrittenAs items) := by
  refine (consumes_reference items .invalidOrderBy).bind
    fun target tokens htarget => ?_
  obtain ⟨token, rfl, htoken⟩ := htarget
  refine consumes_isDescending.bind fun descending direction hdirection =>
    consumes_pure ?_
  exact ⟨token, direction, by simp, htoken, hdirection⟩

/-- The entries of a clause behind BY. -/
theorem consumes_listBy {α : Type} {P : α → List Token → Prop}
    {entry : List α → Parser α} (h : ∀ before, Consumes R (entry before) P)
    (code : SyntaxCode) :
    Consumes R
      (do let _ ← expect (.keyword .byWord) code
          separated .comma entry [])
      (ListedBy P) := by
  refine (consumes_expect code (by simp)).bind fun literal tokens htokens => ?_
  refine (consumes_list h).mono fun as rest hrest => ?_
  exact ⟨literal, rest, by rw [htokens]; rfl, hrest⟩

/-- The token of a date or of a named range. -/
inductive DuringEntry.WrittenAs : DuringEntry → List Token → Prop
  | date {day : Day} (h : InFourDigits day) :
      WrittenAs (.date day) [⟨.digits, Layout.compact.writeDay day⟩]
  | name {range : NamedRange} {literal : String}
      (h : NamedRange.ofWord? literal = some range) :
      WrittenAs (.name range) [⟨.identifier, literal⟩]

theorem writtenAs_of_ofToken? {token : Token} (htoken : token.Lexed)
    {entry : DuringEntry} (h : DuringEntry.ofToken? token = some entry) :
    entry.WrittenAs [token] := by
  obtain ⟨kind, literal⟩ := token
  unfold DuringEntry.ofToken? at h
  split at h
  · next hkind =>
      obtain ⟨day, hday, rfl⟩ := Option.map_eq_some_iff.mp h
      obtain ⟨c, cs, hchars, hdigit, -, -⟩ := htoken.isNumber hkind
      obtain ⟨n, hn, -⟩ := (isNumber_digits_iff hchars hdigit).mp
        (htoken.isNumber hkind)
      have hdigits := Numeral.all_isDigit_of_natural? hn
      obtain ⟨hfour, hliteral⟩ := (compactDay?_eq_some_iff hdigits).mp hday
      obtain rfl : kind = .digits := hkind
      obtain rfl : literal = _ := hliteral
      exact .date hfour
  · next hkind =>
      obtain ⟨range, hrange, rfl⟩ := Option.map_eq_some_iff.mp h
      obtain rfl : kind = .identifier := hkind
      exact .name hrange
  · simp at h

/-- One name or two dates are what the entries of a DURING clause can be. -/
theorem During.writtenAs_of_listed {entries : List DuringEntry}
    {during : During} {tokens : List Token}
    (hlisted : Listed .comma DuringEntry.WrittenAs entries tokens)
    (h : During.ofEntries entries = .ok during) : during.WrittenAs tokens := by
  unfold During.ofEntries at h
  split at h
  · next range =>
      obtain rfl := Except.ok.inj h
      cases hlisted with
      | last hentry =>
          cases hentry with
          | name hrange => exact .named hrange
      | more _ hnone => cases hnone
  · next start stop =>
      obtain rfl := Except.ok.inj h
      cases hlisted with
      | more hfirst hrest =>
          cases hrest with
          | last hlast =>
              cases hfirst with
              | date hstart =>
                  cases hlast with
                  | date hstop => exact .days _ hstart hstop
          | more _ hnone => cases hnone
  all_goals simp at h

theorem consumes_duringClause :
    Consumes Token.Lexed duringClause During.WrittenAs := by
  have hentry : Consumes Token.Lexed duringEntry DuringEntry.WrittenAs := by
    refine consumes_nextToken_bind (fun words a rest hrun => ?_)
      fun token htoken => ?_
    · simp [DuringEntry.ofToken?] at hrun
    · split
      · next entry hentry =>
          exact consumes_pure (writtenAs_of_ofToken? htoken hentry)
      · exact consumes_fail _
  refine (consumes_list fun _ => hentry).bind fun entries tokens hlisted => ?_
  split
  · next during hduring =>
      refine consumes_pure ?_
      rw [List.append_nil]
      exact During.writtenAs_of_listed hlisted hduring
  · exact consumes_fail _

/-! ## The other clauses -/

theorem consumes_acceptCall :
    Consumes R acceptCall fun taken tokens =>
      (taken = true ∧ ∃ token, tokens = [token]) ∨
        taken = false ∧ tokens = [] := by
  have htest : Consumes R acceptCall _ :=
    consumes_of_test rfl fun word tail => by rw [acceptCall]
  refine htest.mono ?_
  rintro taken tokens (⟨word, -, rfl, rfl⟩ | hrefused)
  · exact .inl ⟨rfl, word.token, rfl⟩
  · exact .inr hrefused

theorem consumes_identifier? :
    Consumes R identifier? fun found tokens =>
      (∃ name, found = some name ∧ tokens = [⟨.identifier, name⟩]) ∨
        found = none ∧ tokens = [] := by
  have htest : Consumes R identifier? _ :=
    consumes_of_test rfl fun word tail => by rw [identifier?]
  refine htest.mono ?_
  rintro found tokens (⟨word, hkind, rfl, rfl⟩ | hrefused)
  · exact .inl ⟨word.token.literal, rfl, by rw [← hkind]⟩
  · exact .inr hrefused

theorem consumes_distinctItem :
    Consumes R distinctItem fun item tokens => ∃ name,
      tokens = [⟨.identifier, name⟩] ∧
      item = { column := { name }, distinct := true } := by
  refine (consumes_identifier .invalidField).bind fun name tokens htokens =>
    consumes_pure ?_
  exact ⟨name, by rw [htokens]; rfl, rfl⟩

theorem consumes_argument (function : AggregateFunction)
    (before : List SelectItem) :
    Consumes R (argument function before) ArgumentWrittenAs := by
  refine consumes_nextToken_bind (fun words a rest hrun => ?_) fun token _ => ?_
  · simp at hrun
  · obtain ⟨kind, literal⟩ := token
    split
    · next hkind =>
        obtain rfl : kind = .asterisk := hkind
        split
        · exact consumes_pure (.star literal)
        · exact consumes_failAt _ _
    · next hkind =>
        obtain rfl : kind = .keyword .distinct := hkind
        refine consumes_distinctItem.mono ?_
        rintro item tokens ⟨name, rfl, rfl⟩
        exact .distinct literal name
    · next hkind =>
        obtain rfl : kind = .digits := hkind
        split
        · next item _ => exact consumes_pure (.position literal item.name)
        · exact consumes_failAt _ _
    · next hkind =>
        obtain rfl : kind = .identifier := hkind
        exact consumes_pure (.name literal)
    · exact consumes_fail _

theorem consumes_plainItem (before : List SelectItem) :
    Consumes R (plainItem before) PlainWrittenAs := by
  refine consumes_nextToken_bind (fun words a rest hrun => ?_) fun token _ => ?_
  · simp at hrun
  · obtain ⟨kind, literal⟩ := token
    split
    · next hkind =>
        obtain rfl : kind = .asterisk := hkind
        exact consumes_pure (.star literal)
    · next hkind =>
        obtain rfl : kind = .keyword .distinct := hkind
        refine consumes_distinctItem.mono ?_
        rintro item tokens ⟨name, rfl, rfl⟩
        exact .distinct literal name
    · next hkind =>
        obtain rfl : kind = .identifier := hkind
        refine consumes_acceptCall.bind fun taken tokens htaken => ?_
        obtain ⟨rfl, opening, rfl⟩ | ⟨rfl, rfl⟩ := htaken
        · rw [if_pos rfl, call]
          split
          · exact consumes_fail _
          · next function hfunction =>
              refine (consumes_argument function before).bind
                fun item tokens hitem => ?_
              refine (consumes_expect .syntaxNear (by simp)).bind
                fun closing tokens' htokens' => ?_
              refine consumes_pure ?_
              simpa [htokens'] using PlainWrittenAs.call opening closing
                hfunction hitem
        · exact consumes_pure (.name literal)
    · exact consumes_failAt _ _

theorem consumes_aliasName? : Consumes R aliasName? AliasWrittenAs := by
  refine (consumes_accept _).bind fun taken tokens htaken => ?_
  obtain ⟨rfl, literal, rfl⟩ | ⟨rfl, rfl⟩ := htaken
  · refine (consumes_identifier .invalidField).bind fun name tokens htokens =>
      consumes_pure ?_
    simpa [htokens] using AliasWrittenAs.behindAs literal name
  · refine consumes_identifier?.mono ?_
    rintro found tokens (⟨name, rfl, rfl⟩ | ⟨rfl, rfl⟩)
    · exact .alone name
    · exact .leftOut

theorem consumes_selectItem (before : List SelectItem) :
    Consumes R (selectItem before) SelectItem.WrittenAs := by
  refine (consumes_plainItem before).bind fun item plain hplain => ?_
  refine consumes_aliasName?.bind fun aliasName tokens halias =>
    consumes_pure ?_
  rw [List.append_nil]
  exact .mk hplain halias

theorem consumes_listValue (before : List (String × Bool)) :
    Consumes R (listValue before) ValueWrittenAs := by
  refine consumes_nextToken_bind (fun words a rest hrun => ?_) fun token _ => ?_
  · simp [conditionValue, TokenKind.isBareValue] at hrun
  · split
    · exact consumes_failAt _ _
    · next value hvalue =>
        split
        · exact consumes_pure ⟨token, rfl, hvalue⟩
        · exact consumes_failAt _ _

theorem consumes_conditionValues :
    Consumes R conditionValues ValuesWrittenAs := by
  refine consumes_nextToken_bind (fun words a rest hrun => ?_) fun token _ => ?_
  · simp [conditionValue, TokenKind.isBareValue] at hrun
  · split
    · next value hvalue => exact consumes_pure (.one ⟨token, rfl, hvalue⟩)
    · split
      · next hkind =>
          obtain ⟨kind, literal⟩ := token
          obtain rfl : kind = .openBracket := hkind
          refine (consumes_list consumes_listValue).bind
            fun values tokens hvalues => ?_
          refine (consumes_expect .syntaxNear (by simp)).bind
            fun closing tokens' htokens' => ?_
          refine consumes_pure ?_
          simpa [htokens'] using ValuesWrittenAs.list literal closing hvalues
      · exact consumes_failAt _ _

theorem consumes_condition : Consumes R condition Condition.WrittenAs := by
  have hcomparison : Consumes R comparison fun operator tokens =>
      ∃ literal, tokens = [⟨.operator operator, literal⟩] := by
    refine consumes_nextToken_bind (fun words a rest hrun => ?_)
      fun token _ => ?_
    · simp at hrun
    · split
      · next operator hkind =>
          exact consumes_pure ⟨token.literal, by rw [← hkind]⟩
      · exact consumes_failAt _ _
  refine (consumes_identifier .invalidField).bind
    fun column tokens htokens => ?_
  refine hcomparison.bind fun operator tokens' hoperator => ?_
  obtain ⟨literal, rfl⟩ := hoperator
  refine consumes_conditionValues.bind fun values tokens'' hvalues =>
    consumes_pure ?_
  have hwritten := @Condition.WrittenAs.mk column operator _ _ literal hvalues
  simpa [htokens] using hwritten

theorem consumes_limitClause : Consumes R limitClause Limit.WrittenAs := by
  have hnumber : Consumes R rowNumber fun n tokens =>
      ∃ literal : String, Numeral.natural? literal.toList = some n ∧
        tokens = [⟨.digits, literal⟩] := by
    refine consumes_nextToken_bind (fun words a rest hrun => ?_)
      fun token _ => ?_
    · simp at hrun
    · split
      · next n hkind hn =>
          exact consumes_pure ⟨token.literal, hn, by rw [← hkind]⟩
      · exact consumes_failAt _ _
  refine hnumber.bind fun first tokens hfirst => ?_
  obtain ⟨literal, hfirst, rfl⟩ := hfirst
  refine (consumes_accept _).bind fun taken tokens htaken => ?_
  obtain ⟨rfl, comma, rfl⟩ | ⟨rfl, rfl⟩ := htaken
  · refine hnumber.bind fun count tokens hcount => consumes_pure ?_
    obtain ⟨literal', hcount, rfl⟩ := hcount
    exact .offset comma hfirst hcount
  · exact consumes_pure (.count hfirst)

theorem consumes_statementEnd :
    Consumes R statementEnd fun _ tokens => tokens.length ≤ 1 := by
  refine consumes_nextToken.bind fun token tokens htokens => ?_
  have hlength : tokens.length ≤ 1 := by
    obtain ⟨-, rfl⟩ | ⟨-, rfl⟩ := htokens <;> simp
  split
  · exact consumes_pure (by simpa using hlength)
  · exact consumes_pure (by simpa using hlength)
  · exact consumes_pure (by simpa using hlength)
  · exact consumes_failAt _ _

/-! ## Statements -/

theorem consumes_selectBody :
    Consumes Token.Lexed selectBody Select.WrittenAs := by
  refine (consumes_list consumes_selectItem).bind
    fun items itemTokens hitems => ?_
  refine (consumes_expect .missingSource (by simp)).bind
    fun fromWord tokens htokens => ?_
  refine (consumes_identifier .invalidSource).bind
    fun source tokens' htokens' => ?_
  refine (consumes_clause _ (consumes_list fun _ => consumes_condition)).bind
    fun conditions _ hconditions => ?_
  refine (consumes_optional _ consumes_duringClause).bind
    fun during _ hduring => ?_
  refine (consumes_clause _
    (consumes_listBy (fun _ => consumes_reference items .invalidGroupBy)
      _)).bind
    fun groupBy _ hgroupBy => ?_
  refine (consumes_clause _
    (consumes_listBy (fun _ => consumes_orderEntry items) _)).bind
    fun orderBy _ horderBy => ?_
  refine (consumes_optional _ consumes_limitClause).bind
    fun limit _ hlimit => ?_
  refine consumes_statementEnd.bind fun terminator _ hending => consumes_pure ?_
  have hwritten := @Select.WrittenAs.mk
    { items, source, conditions, during, groupBy, orderBy, limit, terminator }
      _ _ _ _ _ _ _
    fromWord hitems hconditions hduring hgroupBy horderBy hlimit hending
  simpa [htokens, htokens'] using hwritten

theorem consumes_full : Consumes R (accept (.keyword .full)) FullWrittenAs := by
  refine (consumes_accept _).mono ?_
  rintro full tokens (⟨rfl, literal, rfl⟩ | ⟨rfl, rfl⟩)
  · exact .present literal
  · exact .leftOut

theorem consumes_describeBody : Consumes R describeBody Describe.WrittenAs := by
  refine consumes_full.bind fun full _ hfull => ?_
  refine (consumes_identifier .invalidSource).bind
    fun source tokens htokens => ?_
  refine consumes_identifier?.bind fun column _ hcolumn => ?_
  refine consumes_statementEnd.bind fun terminator _ hending => consumes_pure ?_
  have hwritten := @Describe.WrittenAs.mk { full, source, column, terminator } _
    _ _ hfull hcolumn hending
  simpa [htokens] using hwritten

theorem consumes_showBody : Consumes R showBody ShowTables.WrittenAs := by
  have hlike : Consumes R likeClause fun pattern tokens =>
      ∃ text, tokens = [⟨.quoted, text⟩] ∧
        pattern = NamePattern.ofText text := by
    refine (consumes_expect .syntaxNear (by simp)).bind
      fun text tokens htokens => ?_
    exact consumes_pure ⟨text, by rw [htokens]; rfl, rfl⟩
  have hcolumn : Consumes R withClause fun name tokens =>
      tokens = [⟨.identifier, name⟩] ∨ tokens = [⟨.quoted, name⟩] := by
    refine consumes_nextToken_bind (fun words a rest hrun => ?_)
      fun token _ => ?_
    · simp at hrun
    · split
      · next hkind =>
          refine consumes_pure (hkind.imp (fun h => ?_) fun h => ?_)
          · rw [← h]
          · rw [← h]
      · exact consumes_failAt _ _
  refine consumes_full.bind fun full _ hfull => ?_
  refine (consumes_expect .invalidMethod (by simp)).bind
    fun tables tokens htokens => ?_
  refine (consumes_optional _ hlike).bind fun like _ hlike => ?_
  refine (consumes_optional _ hcolumn).bind fun column _ hcolumn => ?_
  refine consumes_statementEnd.bind fun terminator _ hending => consumes_pure ?_
  have hwritten := @ShowTables.WrittenAs.mk { full, like, column, terminator } _
    _ _ _ tables hfull hlike hcolumn hending
  simpa [htokens] using hwritten

theorem consumes_createBody :
    Consumes Token.Lexed createBody CreateView.WrittenAs := by
  refine consumes_orReplace.bind fun replace replaceTokens _ => ?_
  refine (consumes_expect .invalidMethod (by simp)).bind fun view _ hview => ?_
  refine (consumes_identifier .invalidSource).bind fun name _ hname => ?_
  refine (consumes_clause _ consumes_viewColumns).bind
    fun columns _ hcolumns => ?_
  refine (consumes_expect .syntaxNear (by simp)).bind fun asWord _ hasWord => ?_
  refine (consumes_expect .invalidMethod (by simp)).bind
    fun selectWord _ hselectWord => ?_
  refine consumes_selectBody.bind fun select body hselect => ?_
  split
  · refine consumes_pure ?_
    have hwritten := @CreateView.WrittenAs.mk { replace, name, columns, select }
      replaceTokens _ _ view asWord selectWord hcolumns hselect
    simpa [hview, hname, hasWord, hselectWord] using hwritten
  · exact consumes_fail _

/-- A statement is written as the tokens that it is read from. -/
theorem consumes_statement :
    Consumes Token.Lexed statement Statement.WrittenAs := by
  refine consumes_nextToken_bind (fun words a rest hrun => ?_) fun token _ => ?_
  · simp at hrun
  · obtain ⟨kind, literal⟩ := token
    split
    · next hkind =>
        obtain rfl : kind = .keyword .desc := hkind
        refine consumes_describeBody.bind fun s tokens hs => consumes_pure ?_
        simpa using Statement.WrittenAs.describe .desc literal (.inl rfl) hs
    · next hkind =>
        obtain rfl : kind = .keyword .describe := hkind
        refine consumes_describeBody.bind fun s tokens hs => consumes_pure ?_
        simpa using Statement.WrittenAs.describe .describe literal (.inr rfl) hs
    · next hkind =>
        obtain rfl : kind = .keyword .create := hkind
        refine consumes_createBody.bind fun s tokens hs => consumes_pure ?_
        simpa using Statement.WrittenAs.createView literal hs
    · next hkind =>
        obtain rfl : kind = .keyword .select := hkind
        refine consumes_selectBody.bind fun s tokens hs => consumes_pure ?_
        simpa using Statement.WrittenAs.select literal hs
    · next hkind =>
        obtain rfl : kind = .keyword .showWord := hkind
        refine consumes_showBody.bind fun s tokens hs => consumes_pure ?_
        simpa using Statement.WrittenAs.showTables literal hs
    · exact consumes_failAt _ _

end ReportQuery
