import ReportQuery.Proofs.Statement.ScriptRuns
import ReportQuery.Proofs.Statement.TakenTokens

/-!
# Attempts to read statements

A statement can be attempted again and again from the same cursor, also after
an error. Every attempt takes a word when there is one, and fails at the end of
the text when there is none; its error is about a token that it took, is one of
the reasons of a DURING clause, or tells how many columns a view lists. A
script is therefore read in no more attempts than its text has words.
-/

namespace ReportQuery

open ReportQuery.Parser

/-- The names between the first parenthesis of some tokens and the one that
closes it. -/
def ListsColumns (tokens : List Token) (names : List String) : Prop :=
  ∃ front opening list closing after,
    tokens = front ++ ⟨.openParen, opening⟩ :: (list ++
      ⟨.closeParen, closing⟩ :: after) ∧
      (∀ token ∈ front, token.kind ≠ .openParen) ∧
      Listed .comma IsNameToken names list

/-- What the literal of an error is taken from, in an attempt with a trace. -/
def ParseError.Traced (trace : List Token) (error : ParseError) : Prop :=
  (∃ token ∈ trace, error.About token ∧ error.literal = token.literal) ∨
    (∃ fault ∈ DuringFault.fixed, error = .during fault ∧
      error.literal = fault.reason) ∨
    ∃ expected names, error = .columnCount expected names.length ∧
      error.literal = Numeral.ofNat names.length ∧
      ListsColumns (Token.inText trace) names

/-- What one attempt from a cursor amounts to, whichever way it runs. -/
structure Cursor.Attempt (c : Cursor) (trace : List Token)
    (result : Except ParseError Statement) (later : Cursor) : Prop where
  runs : Runs statement c trace result later
  only : ∀ trace' result' later', Runs statement c trace' result' later' →
    result' = result ∧ Token.inText trace' = Token.inText trace ∧
    later'.tokens = later.tokens
  tokens_eq : c.tokens = Token.inText trace ++ later.tokens
  advances : c.tokens ≠ [] → Token.inText trace ≠ []
  ended : c.tokens = [] → result = .error (.unexpected .syntaxNear "")
  taken : ∀ token ∈ trace, token ∈ c.tokens ∨
    token = Token.ending ∧ later.tokens = []
  traced : ∀ error, result = .error error → error.Traced trace

/-- The cursors that attempts on a text lead to, with what these gave. -/
inductive Cursor.Reached (text : String) :
    List (Except ParseError Statement) → Cursor → Prop
  | start : Reached text [] (Cursor.ofText text)
  | next {results : List (Except ParseError Statement)} {c later : Cursor}
      {trace : List Token}
      {result : Except ParseError Statement} (h : Reached text results c)
      (hruns : Runs statement c trace result later) :
        Reached text (results ++ [result]) later

/-! ## The number of columns -/

section Columns

variable {α β : Type} {c : Cursor} {words rest : List Word}
  {expected found : Nat}

/-- The count of columns is the reason of no other parser. -/
theorem ne_columnCount_of_stepwise {parser : Parser α}
    (h : Stepwise ParseError.IsDuringReason false [] parser)
    (hwords : c.Holds words) :
    parser words ≠ (.error (.columnCount expected found), rest) := by
  intro hrun
  obtain ⟨trace, result, later, hruns, hblame⟩ := h.hasRun hwords (by simp)
  obtain ⟨front, rest', hfollows⟩ := hruns.follows hwords
  obtain ⟨rfl, -⟩ := Prod.mk.inj (hfollows.given.symm.trans hrun)
  obtain ⟨token, -, habout⟩ | ⟨fault, -, herror⟩ := hblame _ rfl
  · cases habout
  · simp at herror

/-- The first of two parsers gives a value when the second one counts
columns. -/
theorem exists_of_bind_columnCount {first : Parser α} {second : α → Parser β}
    (hfirst : Stepwise ParseError.IsDuringReason false [] first)
    (hwords : c.Holds words)
    (h : (first >>= second) words =
      (.error (.columnCount expected found), rest)) :
    ∃ a front middle, ∃ later : Cursor, words = front ++ middle ∧
      first words = (.ok a, middle) ∧
      later.Holds middle ∧ second a middle =
        (.error (.columnCount expected found), rest) := by
  obtain ⟨trace, result, later, hruns, -⟩ := hfirst.hasRun hwords (by simp)
  obtain ⟨front, middle, hfollows⟩ := hruns.follows hwords
  cases result with
  | error error =>
      rw [bind_of_error hfollows.given] at h
      obtain ⟨herror, -⟩ := Prod.mk.inj h
      rw [Except.error.inj herror] at hfollows
      exact absurd hfollows.given (ne_columnCount_of_stepwise hfirst hwords)
  | ok a =>
      rw [bind_of_ok hfollows.given] at h
      exact ⟨a, front, middle, later, hfollows.words_eq, hfollows.given,
        hfollows.left, h⟩

theorem listsColumns_of_opened {front tokens : List Token} {names : List String}
    (hfront : ∀ token ∈ front, token.kind ≠ .openParen)
    (h : Opened .openParen ClosesColumns names tokens) (hnames : names ≠ [])
    (after : List Token) : ListsColumns (front ++ (tokens ++ after)) names := by
  cases h with
  | absent => exact absurd rfl hnames
  | present opening h =>
      obtain ⟨list, closing, rfl, hlist⟩ := h
      exact ⟨front, opening, list, closing, after, by simp, hfront, hlist⟩

/-- When the parser counts columns, behind some tokens, then those that it
takes list them. -/
def CountsListed (seen : List Token) (parser : Parser α) : Prop :=
  ∀ (c : Cursor) (words rest : List Word) (expected found : Nat),
    c.Holds words →
    parser words = (.error (.columnCount expected found), rest) →
      ∃ names taken, found = names.length ∧ words = taken ++ rest ∧
        ListsColumns (seen ++ taken.map (·.token)) names

theorem countsListed_of_stepwise {seen : List Token} {parser : Parser α}
    (h : Stepwise ParseError.IsDuringReason false [] parser) :
    CountsListed seen parser :=
  fun _ _ _ _ _ hwords hrun => absurd hrun (ne_columnCount_of_stepwise h hwords)

theorem CountsListed.bind_pure {seen : List Token} {parser : Parser α}
    (h : CountsListed seen parser) (f : α → β) :
    CountsListed seen (parser >>= fun a => pure (f a)) := by
  intro c words rest expected found hwords hrun
  cases hfirst : parser words with
  | mk result left =>
      cases result with
      | ok a => simp [bind_of_ok hfirst] at hrun
      | error error =>
          rw [bind_of_error hfirst] at hrun
          obtain ⟨herror, rfl⟩ := Prod.mk.inj hrun
          rw [Except.error.inj herror] at hfirst
          exact h c words left expected found hwords hfirst

theorem countsListed_createBody {seen : List Token}
    (hseen : ∀ token ∈ seen, token.kind ≠ .openParen) :
    CountsListed seen createBody := by
  intro c words rest expected found hwords h
  obtain ⟨replace, -, words₁, c₁, -, horReplace, hc₁, h⟩ :=
    exists_of_bind_columnCount stepwise_orReplace hwords h
  obtain ⟨view, -, words₂, c₂, -, hview, hc₂, h⟩ :=
    exists_of_bind_columnCount (stepwise_expect _ _) hc₁ h
  obtain ⟨name, -, words₃, c₃, -, hname, hc₃, h⟩ :=
    exists_of_bind_columnCount (stepwise_identifier _) hc₂ h
  obtain ⟨names, -, words₄, c₄, -, hnames, hc₄, h⟩ :=
    exists_of_bind_columnCount (stepwise_clause (by simp) stepwise_viewColumns)
      hc₃ h
  obtain ⟨-, asWord, words₅, c₅, hasWord, -, hc₅, h⟩ :=
    exists_of_bind_columnCount (stepwise_expect _ _) hc₄ h
  obtain ⟨-, selectWord, words₆, c₆, hselectWord, -, hc₆, h⟩ :=
    exists_of_bind_columnCount (stepwise_expect _ _) hc₅ h
  obtain ⟨select, body, words₇, -, hbody, -, -, h⟩ :=
    exists_of_bind_columnCount (stepwise_selectBody fun _ => id) hc₆ h
  split at h
  · simp at h
  · next hcount =>
      obtain ⟨⟨-, rfl⟩, rfl⟩ :
          (select.items.length = expected ∧ names.length = found) ∧
          words₇ = rest := by simpa using h
      obtain ⟨front₁, rfl, hparens⟩ := consumes_orReplace.taken horReplace
      obtain ⟨front₂, rfl, hviewToken⟩ :=
        (consumes_expect _ (by simp)).taken hview
      obtain ⟨front₃, rfl, hnameToken⟩ := (consumes_identifier _).taken hname
      obtain ⟨front₄, rfl, hopened⟩ :=
        (consumes_clause _ consumes_viewColumns).taken hnames
      have hnonempty : names ≠ [] := by
        rintro rfl
        simp at hcount
      have hfront :
          ∀ token ∈ seen ++ (front₁ ++ (front₂ ++ front₃)).map (·.token),
          token.kind ≠ .openParen := by
        simp only [List.map_append, hviewToken, hnameToken,
          List.forall_mem_append]
        exact ⟨hseen, hparens, by simp, by simp⟩
      refine ⟨names, front₁ ++ (front₂ ++ front₃) ++
        (front₄ ++ (asWord ++ (selectWord ++ body))), rfl, ?_, ?_⟩
      · rw [hasWord, hselectWord, hbody]
        simp only [List.append_assoc]
      · have hlists := listsColumns_of_opened hfront hopened hnonempty
          ((asWord ++ (selectWord ++ body)).map (·.token))
        rwa [← List.map_append, List.append_assoc, ← List.map_append] at hlists

theorem countsListed_statement : CountsListed [] statement := by
  intro c words rest expected found hwords h
  cases words with
  | nil => simp [statement_nil] at h
  | cons word tail =>
      have hbody : ∀ token : Token, ∃ second : Token → Parser Statement,
          statement = nextToken >>= second ∧
          CountsListed [token] (second token) := by
        refine fun token => ⟨_, rfl, ?_⟩
        split
        · exact countsListed_of_stepwise
            (stepwise_describeBody.bind fun _ => .pure _)
        · exact countsListed_of_stepwise
            (stepwise_describeBody.bind fun _ => .pure _)
        · next hkind =>
            have hseen : ∀ other ∈ [token], other.kind ≠ .openParen := by
              simp [hkind]
            exact (countsListed_createBody hseen).bind_pure _
        · exact countsListed_of_stepwise
            ((stepwise_selectBody fun _ => id).bind fun _ => .pure _)
        · exact countsListed_of_stepwise
            (stepwise_showBody.bind fun _ => .pure _)
        · exact fun _ _ _ _ _ _ hrun => by simp at hrun
      obtain ⟨second, hstatement, hsecond⟩ := hbody word.token
      rw [hstatement, bind_of_ok (nextToken_cons word tail)] at h
      obtain ⟨names, taken, hfound, rfl, hlists⟩ :=
        hsecond _ _ _ _ _ hwords.takes_scanWord.left h
      exact ⟨names, word :: taken, hfound, rfl, hlists⟩

end Columns

/-! ## Every attempt -/

section Attempts

variable {text : String} {results : List (Except ParseError Statement)}
  {c later : Cursor}
  {words front rest : List Word} {trace : List Token}
  {result : Except ParseError Statement}

theorem traced_of_blames {error : ParseError} (hwords : c.Holds words)
    (hfollows : Follows statement words front rest trace (.error error) later)
    (hblame : Blames ParseError.IsAboutWhole trace error) :
    error.Traced trace := by
  obtain ⟨token, htoken, habout⟩ | ⟨fault, hfault, rfl⟩ | ⟨expected,
      found, rfl⟩ := hblame
  · exact .inl ⟨token, htoken, habout, habout.literal_eq⟩
  · exact .inr (.inl ⟨fault, hfault, rfl, rfl⟩)
  · obtain ⟨names, taken, rfl, htaken, hlists⟩ :=
      countsListed_statement _ _ _ _ _ hwords hfollows.given
    obtain rfl : front = taken :=
      List.append_cancel_right (hfollows.words_eq.symm.trans htaken)
    exact .inr (.inr ⟨expected, names, rfl, rfl, by rwa [hfollows.inText_eq]⟩)

/-- From a cursor that holds words a statement can be attempted. -/
theorem exists_attempt (hwords : c.Holds words) :
    ∃ trace result later, c.Attempt trace result later := by
  obtain ⟨trace, result, later, hruns, hblame⟩ := hasRun_statement hwords
  obtain ⟨front, rest, hfollows⟩ := hruns.follows hwords
  have htokens : c.tokens = Token.inText trace ++ later.tokens := by
    rw [hwords.tokens_eq, hfollows.left.tokens_eq, hfollows.inText_eq,
      ← List.map_append, ← hfollows.words_eq]
  refine ⟨trace, result, later, hruns, ?only, htokens, ?advances, ?ended,
    ?taken, ?traced⟩
  case only =>
    intro trace' result' later' hruns'
    obtain ⟨front', rest', hfollows'⟩ := hruns'.follows hwords
    obtain ⟨hresult, rfl⟩ :=
      Prod.mk.inj (hfollows'.given.symm.trans hfollows.given)
    obtain rfl : front' = front :=
      List.append_cancel_right (hfollows'.words_eq.symm.trans hfollows.words_eq)
    refine ⟨hresult, by rw [hfollows'.inText_eq, hfollows.inText_eq], ?_⟩
    rw [hfollows'.left.tokens_eq, hfollows.left.tokens_eq]
  case advances =>
    intro hne
    rw [hwords.tokens_eq, Ne, List.map_eq_nil_iff] at hne
    obtain ⟨word, tail, rfl⟩ := List.exists_cons_of_ne_nil hne
    rw [hfollows.inText_eq, Ne, List.map_eq_nil_iff]
    rintro rfl
    have hlength := length_lt_of_statement hwords hfollows.given
    rw [← List.nil_append rest, ← hfollows.words_eq,
      List.length_cons] at hlength
    omega
  case ended =>
    intro hnil
    rw [hwords.tokens_eq, List.map_eq_nil_iff] at hnil
    rw [hnil] at hfollows
    exact (Prod.mk.inj (hfollows.given.symm.trans statement_nil)).1
  case taken =>
    intro token htoken
    by_cases hkind : token.kind = .ending
    · obtain ⟨rfl, rfl⟩ := hfollows.ended token htoken hkind
      exact .inr ⟨rfl, hfollows.left.tokens_eq⟩
    · rw [htokens]
      exact .inl (List.mem_append_left _
        (List.mem_filter.mpr ⟨htoken, by simpa using hkind⟩))
  case traced =>
    rintro error rfl
    exact traced_of_blames hwords hfollows (hblame error rfl)

/-- Behind some attempts a cursor holds the words that the next attempts are
made on. -/
theorem Cursor.Reached.exists_holds (h : Cursor.Reached text results c) :
    ∃ words, c.Holds words ∧
      ∀ n, attempts (results.length + n) (Word.ofText text) =
        results ++ attempts n words := by
  induction h with
  | start =>
      exact ⟨Word.ofText text, Cursor.holds_ofText text, fun n => by simp⟩
  | next _ hruns ih =>
      obtain ⟨words, hwords, hattempts⟩ := ih
      obtain ⟨front, rest, hfollows⟩ := hruns.follows hwords
      refine ⟨rest, hfollows.left, fun n => ?_⟩
      rw [List.length_append, List.length_singleton, Nat.add_assoc,
        Nat.add_comm 1 n, hattempts, attempts, hfollows.given,
        List.append_assoc]
      rfl

theorem Cursor.Reached.attempts_eq (h : Cursor.Reached text results c) :
    attempts results.length (Word.ofText text) = results := by
  obtain ⟨words, -, hattempts⟩ := h.exists_holds
  simpa [attempts] using hattempts 0

/-- Behind any number of attempts on a text, another one takes a token of the
text or fails at its end, and its error is about what it took; the script is
read in no more attempts than there are tokens. -/
theorem attempt_of_reached (h : Cursor.Reached text results c) :
    (∃ trace result later, c.Attempt trace result later ∧
      attempts (results.length + 1) (Word.ofText text) = results ++ [result]) ∧
      (∃ n, (Cursor.ofText text).ReadsScript n (parseScript text)) ∧
      ∀ n script, (Cursor.ofText text).ReadsScript n script →
        script = parseScript text ∧ n ≤ (Cursor.ofText text).tokens.length := by
  obtain ⟨words, hwords, -⟩ := h.exists_holds
  obtain ⟨trace, result, later, hattempt⟩ := exists_attempt hwords
  refine ⟨⟨trace, result, later, hattempt, ?_⟩,
    Cursor.readsScript_ofText_iff.mpr rfl, fun n script hreads => ?_⟩
  · simpa using (h.next hattempt.runs).attempts_eq
  · have htext := Cursor.holds_ofText text
    obtain ⟨hscript, hlength⟩ := hreads.spec htext
    exact ⟨hscript, by rwa [htext.tokens_eq, List.length_map]⟩

end Attempts

/-- A SELECT without the name of its source, and a statement that begins where
it fails. -/
def unnamedSource : String :=
  "SELECT a FROM 1 DESC sales"

/-- After the first attempt, which blames the number, the second one reads the
other statement. -/
theorem attempt_of_unnamedSource :
    ∃ c, Cursor.Reached unnamedSource [.error (.unexpected .invalidSource "1")]
      c ∧
      ∃ trace later,
        c.Attempt trace (.ok (.describe ⟨false, "sales", none, .ending⟩))
          later := by
  have hstart : Cursor.Reached unnamedSource [] (Cursor.ofText unnamedSource) :=
    .start
  obtain ⟨⟨trace, result, later, hfirst, -⟩, -⟩ := attempt_of_reached hstart
  have hreached := hstart.next hfirst.runs
  obtain ⟨⟨trace', result', later', hsecond, htwo⟩, -⟩ :=
    attempt_of_reached hreached
  have hattempts : attempts 2 (Word.ofText unnamedSource) =
      [.error (.unexpected .invalidSource "1"),
        .ok (.describe ⟨false, "sales", none, .ending⟩)] := by
    decide +kernel
  obtain ⟨rfl, rfl⟩ : .error (.unexpected .invalidSource "1") = result ∧
      .ok (.describe ⟨false, "sales", none, .ending⟩) = result' := by
    simpa using hattempts.symm.trans htwo
  exact ⟨later, hreached, trace', later', hsecond⟩

end ReportQuery
