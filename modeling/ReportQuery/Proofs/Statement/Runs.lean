import ReportQuery.Proofs.Statement.ReadsAs
import ReportQuery.Proofs.Statement.Stepwise
import ReportQuery.Proofs.Token.Cursor

/-!
# Runs over a text

A run of a parser takes tokens from a cursor and puts back the one that it
refuses. Its trace are the tokens that it took and kept, the end as well when
it took that. A run gives what the parser gives on the words that the cursor
holds, wherever a token was put back, and leaves a cursor that holds the words
left. A parser that is made of steps has a run from every cursor, and the error
of this run is about a token of the trace.
-/

namespace ReportQuery

/-- The tokens of a trace that stand in the text. -/
def Token.inText (trace : List Token) : List Token :=
  trace.filter fun token => token.kind ≠ .ending

@[simp] theorem Token.inText_append (trace later : List Token) :
    inText (trace ++ later) = inText trace ++ inText later :=
  List.filter_append ..

namespace Parser

variable {α β : Type}

/-- A run of a parser from a cursor, with its trace, what it gives and the
cursor that it leaves. -/
inductive Runs : {α : Type} → Parser α → Cursor → List Token →
    Except ParseError α → Cursor → Prop
  | pure {α : Type} (a : α) (c : Cursor) :
      Runs (pure a : Parser α) c [] (.ok a) c
  | fail {α : Type} (error : ParseError) (c : Cursor) :
      Runs (fail error : Parser α) c [] (.error error) c
  | nextToken (c : Cursor) :
      Runs nextToken c [c.scanWord.1] (.ok c.scanWord.1) c.scanWord.2
  | accept_true {kind : TokenKind} {c : Cursor} (hkind : kind ≠ .ending)
      (h : c.scanWord.1.kind = kind) :
      Runs (accept kind) c [c.scanWord.1] (.ok true) c.scanWord.2
  | accept_false {kind : TokenKind} {c : Cursor}
      (h : c.scanWord.1.kind ≠ kind) :
      Runs (accept kind) c [] (.ok false) c.scanWord.2.putBack
  | acceptCall_true {c : Cursor} (htaken : c.isPutBack = false)
      (h : c.scan.1.kind = .openParen) :
        Runs acceptCall c [c.scan.1] (.ok true) c.scan.2
  | acceptCall_false {c : Cursor} (htaken : c.isPutBack = false)
      (h : c.scan.1.kind ≠ .openParen) :
        Runs acceptCall c [] (.ok false) c.scan.2.putBack
  | identifier?_some {c : Cursor} (h : c.scanWord.1.kind = .identifier) :
      Runs identifier? c [c.scanWord.1] (.ok (some c.scanWord.1.literal))
        c.scanWord.2
  | identifier?_none {c : Cursor} (h : c.scanWord.1.kind ≠ .identifier) :
      Runs identifier? c [] (.ok none) c.scanWord.2.putBack
  | bind_ok {α β : Type} {first : Parser α} {second : α → Parser β}
      {c middle later : Cursor}
      {trace trace' : List Token} {a : α} {result : Except ParseError β}
      (hfirst : Runs first c trace (.ok a) middle)
      (hsecond : Runs (second a) middle trace' result later) :
      Runs (first >>= second) c (trace ++ trace') result later
  | bind_error {α β : Type} {first : Parser α} {second : α → Parser β}
      {c later : Cursor}
      {trace : List Token} {error : ParseError}
      (hfirst : Runs first c trace (.error error) later) :
      Runs (first >>= second) c trace (.error error) later
  | separated_error {α : Type} {separator : TokenKind}
      {entry : List α → Parser α}
      {before : List α} {c later : Cursor} {trace : List Token}
      {error : ParseError}
      (hentry : Runs (entry before) c trace (.error error) later) :
      Runs (separated separator entry before) c trace (.error error) later
  | separated_last {α : Type} {separator : TokenKind}
      {entry : List α → Parser α}
      {before : List α} {c middle later : Cursor} {trace trace' : List Token}
      {a : α}
      (hentry : Runs (entry before) c trace (.ok a) middle)
      (hlast : Runs (accept separator) middle trace' (.ok false) later) :
      Runs (separated separator entry before) c (trace ++ trace')
        (.ok (before ++ [a])) later
  | separated_more {α : Type} {separator : TokenKind}
      {entry : List α → Parser α}
      {before : List α} {c middle next later : Cursor}
      {trace trace' trace'' : List Token} {a : α}
      {result : Except ParseError (List α)}
      (hentry : Runs (entry before) c trace (.ok a) middle)
      (hmore : Runs (accept separator) middle trace' (.ok true) next)
      (hrest : Runs (separated separator entry (before ++ [a])) next trace''
        result later) :
      Runs (separated separator entry before) c (trace ++ trace' ++ trace'')
        result later

/-! ## What a run gives -/

/-- On some words a parser takes those in front and leaves the others, as a
trace and a cursor tell. -/
structure Follows (parser : Parser α) (words front rest : List Word)
    (trace : List Token) (result : Except ParseError α) (later : Cursor) :
    Prop where
  words_eq : words = front ++ rest
  given : parser words = (result, rest)
  left : later.Holds rest
  inText_eq : Token.inText trace = front.map (·.token)
  ended : ∀ token ∈ trace, token.kind = .ending →
    token = Token.ending ∧ rest = []

variable {parser : Parser α} {c later : Cursor} {words : List Word}
  {trace : List Token}
  {result : Except ParseError α} {step : Token × Cursor}

/-- The token of a step is kept. -/
theorem follows_of_takes (h : Cursor.Takes step words)
    (hgiven : parser words = (result, words.tail)) :
    Follows parser words (words.take 1) words.tail [step.1] result step.2 := by
  cases words with
  | nil =>
      have htoken : step.1 = Token.ending := h.token
      exact ⟨rfl, hgiven, h.left, by rw [htoken]; rfl, by simp [htoken]⟩
  | cons word rest =>
      have htoken : step.1 = word.token := h.token
      have hword : step.1.kind ≠ .ending := by
        rw [htoken]
        exact (h.back.sound word List.mem_cons_self).ending
      refine ⟨rfl, hgiven, h.left, ?_, by simp [hword]⟩
      rw [Token.inText, List.filter_cons_of_pos (by simpa using hword), htoken]
      rfl

/-- The token of a step is put back. -/
theorem follows_of_holds (h : later.Holds words)
    (hgiven : parser words = (result, words)) :
    Follows parser words [] words [] result later :=
  ⟨rfl, hgiven, h, rfl, by simp⟩

theorem nextKind_of_takes (h : Cursor.Takes step words) :
    nextKind words = step.1.kind := by
  rw [h.token]
  cases words <;> rfl

theorem nextToken_of_takes (h : Cursor.Takes step words) :
    nextToken words = (.ok step.1, words.tail) := by
  rw [h.token]
  cases words <;> rfl

/-- A word of the kind that comes next, when this is not the end. -/
theorem exists_cons_of_takes (h : Cursor.Takes step words)
    (hkind : step.1.kind ≠ .ending) :
    ∃ word rest, words = word :: rest ∧ word.token = step.1 := by
  cases words with
  | nil =>
      rw [h.token] at hkind
      exact absurd rfl hkind
  | cons word rest => exact ⟨word, rest, rfl, h.token.symm⟩

theorem acceptCall_eq_true {word : Word} (h : word.opensCall = true)
    (rest : List Word) : acceptCall (word :: rest) = (.ok true, rest) := by
  rw [acceptCall, if_pos h]

theorem acceptCall_eq_false
    (h : ¬ ∃ word ∈ words.head?, word.opensCall = true) :
    acceptCall words = (.ok false, words) := by
  cases words with
  | nil => rfl
  | cons word rest => exact if_neg fun hcall => h ⟨word, rfl, hcall⟩

theorem identifier?_cons {word : Word} (h : word.token.kind = .identifier)
    (rest : List Word) :
    identifier? (word :: rest) = (.ok (some word.token.literal), rest) := by
  rw [identifier?, if_pos h]

/-- One parser follows another. -/
theorem Follows.bind {first : Parser α} {second : α → Parser β}
    {front middle front' rest : List Word} {trace' : List Token} {a : α}
    {result : Except ParseError β} {next : Cursor}
    (hfirst : Follows first words front middle trace (.ok a) next)
    (hsecond : Follows (second a) middle front' rest trace' result later) :
    Follows (first >>= second) words (front ++ front') rest (trace ++ trace')
      result later where
  words_eq := by rw [List.append_assoc, ← hsecond.words_eq, hfirst.words_eq]
  given := by rw [bind_of_ok hfirst.given, hsecond.given]
  left := hsecond.left
  inText_eq := by
    rw [Token.inText_append, hfirst.inText_eq, hsecond.inText_eq,
      List.map_append]
  ended := by
    intro token htoken hkind
    rcases List.mem_append.mp htoken with hmem | hmem
    · obtain ⟨hending, hmiddle⟩ := hfirst.ended token hmem hkind
      have happend := hmiddle.symm.trans hsecond.words_eq
      exact ⟨hending, (List.append_eq_nil_iff.mp happend.symm).2⟩
    · exact hsecond.ended token hmem hkind

theorem accept_eq_true {kind : TokenKind} {rest : List Word}
    (h : accept kind words = (.ok true, rest)) :
    ∃ word, words = word :: rest ∧ word.token.kind = kind := by
  cases words with
  | nil => simp [accept] at h
  | cons word tail =>
      rw [accept] at h
      split at h
      · next hkind =>
          obtain rfl : tail = rest := by simpa using h
          exact ⟨word, rfl, hkind⟩
      · simp at h

/-- The list ends where the separator is missing. -/
theorem Follows.separated_last {separator : TokenKind}
    {entry : List α → Parser α} {before : List α}
    {front middle front' rest : List Word} {trace' : List Token} {a : α}
    {next : Cursor}
    (hentry : Follows (entry before) words front middle trace (.ok a) next)
    (hlast : Follows (accept separator) middle front' rest trace'
      (.ok false) later) :
    Follows (separated separator entry before) words (front ++ front') rest
      (trace ++ trace')
      (.ok (before ++ [a])) later := by
  have h : Follows (entry before >>= fun _ => accept separator) _ _ _ _ _ _ :=
    hentry.bind hlast
  refine ⟨h.words_eq, ?_, h.left, h.inText_eq, h.ended⟩
  rw [separated, hentry.given]
  simp only [hlast.given]

/-- The list goes on behind a separator. -/
theorem Follows.separated_more {separator : TokenKind}
    {entry : List α → Parser α} {before : List α}
    {front middle front' rest' front'' rest : List Word}
    {trace' trace'' : List Token} {a : α} {next next' : Cursor}
    {result : Except ParseError (List α)}
    (hentry : Follows (entry before) words front middle trace (.ok a) next)
    (hmore : Follows (accept separator) middle front' rest' trace'
      (.ok true) next')
    (hrest : Follows (separated separator entry (before ++ [a])) rest' front''
      rest trace'' result later) :
    Follows (separated separator entry before) words
      (front ++ front' ++ front'') rest
      (trace ++ trace' ++ trace'') result later := by
  have hround : Follows (entry before >>= fun _ => accept separator) _
      _ _ _ _ _ :=
    hentry.bind hmore
  have h : Follows ((entry before >>= fun _ => accept separator) >>= fun _ =>
      separated separator entry (before ++ [a])) _ _ _ _ _ _ :=
        hround.bind hrest
  refine ⟨h.words_eq, ?_, h.left, h.inText_eq, h.ended⟩
  obtain ⟨word, rfl, hkind⟩ := accept_eq_true hmore.given
  rw [separated_cons hentry.given hkind, hrest.given]
  rw [hentry.words_eq, List.length_append, List.length_cons]
  omega

/-- A run gives what the parser gives on the words that the cursor holds. -/
theorem Runs.follows (h : Runs parser c trace result later)
    (hwords : c.Holds words) :
    ∃ front rest, Follows parser words front rest trace result later := by
  induction h generalizing words with
  | pure a c => exact ⟨[], words, follows_of_holds hwords rfl⟩
  | fail error c => exact ⟨[], words, follows_of_holds hwords rfl⟩
  | nextToken c =>
      have htakes := hwords.takes_scanWord
      exact ⟨_, _, follows_of_takes htakes (nextToken_of_takes htakes)⟩
  | accept_true hkind h =>
      have htakes := hwords.takes_scanWord
      obtain ⟨word, rest, rfl, hword⟩ := exists_cons_of_takes htakes (h ▸ hkind)
      exact ⟨_, _, follows_of_takes htakes
        (accept_cons (by rw [hword, h]) rest)⟩
  | accept_false h =>
      have htakes := hwords.takes_scanWord
      rw [← nextKind_of_takes htakes] at h
      exact ⟨_, _, follows_of_holds htakes.back (accept_of_ne h)⟩
  | acceptCall_true htaken h =>
      have hlooks := hwords.looksForCall_scan htaken
      obtain ⟨word, hhead, hcall⟩ := hlooks.kind.mp h
      obtain ⟨rest, rfl⟩ : ∃ rest, words = word :: rest :=
        List.head?_eq_some_iff.mp hhead
      exact ⟨_, _, follows_of_takes (hlooks.taken h)
        (acceptCall_eq_true hcall rest)⟩
  | acceptCall_false htaken h =>
      have hlooks := hwords.looksForCall_scan htaken
      rw [Ne, hlooks.kind] at h
      exact ⟨_, _, follows_of_holds (hlooks.back (mt hlooks.kind.mp h))
        (acceptCall_eq_false h)⟩
  | identifier?_some h =>
      have htakes := hwords.takes_scanWord
      obtain ⟨word, rest, rfl, hword⟩ :=
        exists_cons_of_takes htakes (by simp [h])
      rw [← hword] at h
      have hgiven := identifier?_cons h rest
      rw [hword] at hgiven
      exact ⟨_, _, follows_of_takes htakes hgiven⟩
  | identifier?_none h =>
      have htakes := hwords.takes_scanWord
      rw [← nextKind_of_takes htakes] at h
      exact ⟨_, _, follows_of_holds htakes.back (identifier?_of_ne h)⟩
  | bind_ok _ _ ihFirst ihSecond =>
      obtain ⟨front, middle, hfirst⟩ := ihFirst hwords
      obtain ⟨front', rest, hsecond⟩ := ihSecond hfirst.left
      exact ⟨_, _, hfirst.bind hsecond⟩
  | bind_error _ ihFirst =>
      obtain ⟨front, rest, hfirst⟩ := ihFirst hwords
      exact ⟨front, rest, { hfirst with given := bind_of_error hfirst.given }⟩
  | separated_error _ ihEntry =>
      obtain ⟨front, rest, hentry⟩ := ihEntry hwords
      refine ⟨front, rest, { hentry with given := ?_ }⟩
      rw [separated, hentry.given]
  | separated_last _ _ ihEntry ihLast =>
      obtain ⟨front, middle, hentry⟩ := ihEntry hwords
      obtain ⟨front', rest, hlast⟩ := ihLast hentry.left
      exact ⟨_, _, hentry.separated_last hlast⟩
  | separated_more _ _ _ ihEntry ihMore ihRest =>
      obtain ⟨front, middle, hentry⟩ := ihEntry hwords
      obtain ⟨front', rest', hmore⟩ := ihMore hentry.left
      obtain ⟨front'', rest, hrest⟩ := ihRest hmore.left
      exact ⟨_, _, hentry.separated_more hmore hrest⟩

/-! ## Every parser made of steps has runs -/

/-- An error is about one of some tokens, or about none. -/
def Blames (other : ParseError → Prop) (tokens : List Token)
    (error : ParseError) : Prop :=
  (∃ token ∈ tokens, error.About token) ∨ other error

/-- A run from a cursor whose error, if it gives one, is about a token seen or
of its trace. -/
def HasRun (other : ParseError → Prop) (seen : List Token) (parser : Parser α)
    (c : Cursor) : Prop :=
  ∃ trace result later, Runs parser c trace result later ∧
    ∀ error, result = .error error → Blames other (seen ++ trace) error

section Existence

variable {other : ParseError → Prop} {just : Bool} {seen : List Token}

theorem HasRun.of_ok {a : α} (h : Runs parser c trace (.ok a) later) :
    HasRun other seen parser c :=
  ⟨trace, .ok a, later, h, by simp⟩

theorem HasRun.of_error {error : ParseError}
    (h : Runs parser c trace (.error error) later)
    (hblame : Blames other (seen ++ trace) error) :
    HasRun other seen parser c := by
  refine ⟨trace, .error error, later, h, ?_⟩
  rintro _ ⟨⟩
  exact hblame

theorem hasRun_accept {kind : TokenKind} (hkind : kind ≠ .ending) (c : Cursor) :
    ∃ trace taken later, Runs (accept kind) c trace (.ok taken) later := by
  by_cases h : c.scanWord.1.kind = kind
  · exact ⟨_, _, _, .accept_true hkind h⟩
  · exact ⟨_, _, _, .accept_false h⟩

/-- An error of the second parser is about a token that was seen before it. -/
theorem HasRun.bind {first : Parser α} {second : α → Parser β}
    {next : Cursor} {a : α} (hfirst : Runs first c trace (.ok a) next)
    (hsecond : HasRun other (seen ++ trace) (second a) next) :
    HasRun other seen (first >>= second) c := by
  obtain ⟨trace', result, later, hruns, hblame⟩ := hsecond
  refine ⟨_, _, _, .bind_ok hfirst hruns, ?_⟩
  rwa [List.append_assoc] at hblame

theorem HasRun.mono {seen' : List Token} (h : HasRun other seen parser c)
    (hseen : seen ⊆ seen') : HasRun other seen' parser c := by
  obtain ⟨trace, result, later, hruns, hblame⟩ := h
  refine ⟨trace, result, later, hruns, fun error herror => ?_⟩
  obtain ⟨token, htoken, habout⟩ | hother := hblame error herror
  · rcases List.mem_append.mp htoken with hmem | hmem
    · exact .inl ⟨token, List.mem_append_left _ (hseen hmem), habout⟩
    · exact .inl ⟨token, List.mem_append_right _ hmem, habout⟩
  · exact .inr hother

/-- A list of entries has a run when every entry has one: each round takes a
separator, so that fewer words are left for the next one. -/
theorem hasRun_separated {separator : TokenKind}
    (hseparator : separator ≠ .ending) {entry : List α → Parser α}
    (hentry : ∀ before {c : Cursor} {words : List Word}, c.Holds words →
      HasRun other seen (entry before) c)
    (before : List α) (hwords : c.Holds words) :
    HasRun other seen (separated separator entry before) c := by
  induction hlength :
    words.length using Nat.strong_induction_on generalizing before c words with
  | _ length ih =>
      obtain ⟨trace, result, middle, hruns, hblame⟩ := hentry before hwords
      cases result with
      | error error =>
          exact .of_error (.separated_error hruns) (hblame error rfl)
      | ok a =>
          obtain ⟨front, left, hfirst⟩ := hruns.follows hwords
          obtain ⟨trace', taken, next, hnext⟩ := hasRun_accept hseparator middle
          obtain ⟨front', left', hsecond⟩ := hnext.follows hfirst.left
          cases taken with
          | false => exact .of_ok (.separated_last hruns hnext)
          | true =>
              obtain ⟨word, rfl, -⟩ := accept_eq_true hsecond.given
              have hshorter : left'.length < length := by
                rw [← hlength, hfirst.words_eq, List.length_append,
                  List.length_cons]
                omega
              obtain ⟨trace'', result, later, hrest, hblame'⟩ :=
                (ih _ hshorter (before ++ [a]) hsecond.left rfl).mono
                  (List.subset_append_left seen (trace ++ trace'))
              refine ⟨_, _, _, .separated_more hruns hnext hrest, ?_⟩
              rwa [List.append_assoc] at hblame'

/-- A parser made of steps has a run from every cursor that holds words. -/
theorem Stepwise.hasRun (h : Stepwise other just seen parser)
    (hwords : c.Holds words) (hjust : just = true → c.isPutBack = false) :
    HasRun other seen parser c := by
  induction h generalizing c words with
  | pure a => exact .of_ok (.pure a c)
  | failAt hseen habout =>
      exact .of_error (.fail _ c)
        (.inl ⟨_, List.mem_append_left _ hseen, habout⟩)
  | failOther hother => exact .of_error (.fail _ c) (.inr hother)
  | next hsecond ih =>
      have htakes := hwords.takes_scanWord
      refine .bind (.nextToken c) ?_
      exact (ih _ htakes.left fun _ => htakes.taken).mono (by simp)
  | acceptCall hsecond ih =>
      have hlooks := hwords.looksForCall_scan (hjust rfl)
      by_cases hcall : c.scan.1.kind = .openParen
      · refine .bind (.acceptCall_true (hjust rfl) hcall) ?_
        exact (ih true (hlooks.taken hcall).left (by simp)).mono (by simp)
      · refine .bind (.acceptCall_false (hjust rfl) hcall) ?_
        exact (ih false (hlooks.back hcall) (by simp)).mono (by simp)
  | accept hkind =>
      obtain ⟨trace, taken, later, hruns⟩ := hasRun_accept hkind c
      exact .of_ok hruns
  | identifier? =>
      by_cases hkind : c.scanWord.1.kind = .identifier
      · exact .of_ok (.identifier?_some hkind)
      · exact .of_ok (.identifier?_none hkind)
  | bind hfirst hsecond ihFirst ihSecond =>
      obtain ⟨trace, result, middle, hruns, hblame⟩ := ihFirst hwords hjust
      cases result with
      | error error => exact .of_error (.bind_error hruns) (hblame error rfl)
      | ok a =>
          obtain ⟨front, rest, hfollows⟩ := hruns.follows hwords
          refine .bind hruns ?_
          exact (ihSecond a hfollows.left (by simp)).mono
            (List.subset_append_left _ trace)
  | separated hseparator hentry ih =>
      exact hasRun_separated hseparator
        (fun before _ _ h => ih before h (by simp)) _ hwords

end Existence

end Parser

end ReportQuery
