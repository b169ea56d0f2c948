import ReportQuery.Proofs.Results
import ReportQuery.Proofs.Statement.Runs

/-!
# Scripts read token by token

Statements are read from a cursor until the text ends; before each of them one
token is taken and put back, to see whether the text ends there or the
statement is empty. A run of the statement parser takes a token when there is
one. Thus such a reading ends, begins no more statements than there are tokens,
and gives what the words of the text give.
-/

namespace ReportQuery

open ReportQuery.Parser

/-- An error about the whole of a clause or of a statement, rather than about
one token. -/
def ParseError.IsAboutWhole (error : ParseError) : Prop :=
  error.IsDuringReason ∨ ∃ expected found, error = .columnCount expected found

namespace Cursor

/-- Statements read until the text ends or one of them fails, with how many
were begun and what they give together. -/
inductive ReadsScript : Cursor → Nat → Except ParseError (List Statement) → Prop
  | ending {c : Cursor} (h : c.scanWord.1.kind = .ending) :
      ReadsScript c 0 (.ok [])
  | empty {c : Cursor} {n : Nat} {result : Except ParseError (List Statement)}
      (h : c.scanWord.1.kind = .semicolon)
      (hrest : ReadsScript c.scanWord.2 n result) :
      ReadsScript c n result
  | failed {c later : Cursor} {trace : List Token} {error : ParseError}
      (hending : c.scanWord.1.kind ≠ .ending)
      (hsemicolon : c.scanWord.1.kind ≠ .semicolon)
      (hruns : Runs statement c.scanWord.2.putBack trace (.error error) later) :
      ReadsScript c 1 (.error error)
  | read {c later : Cursor} {trace : List Token} {s : Statement} {n : Nat}
      {result : Except ParseError (List Statement)}
      (hending : c.scanWord.1.kind ≠ .ending)
      (hsemicolon : c.scanWord.1.kind ≠ .semicolon)
      (hruns : Runs statement c.scanWord.2.putBack trace (.ok s) later)
      (hrest : ReadsScript later n result) :
      ReadsScript c (n + 1) (result.map (s :: ·))

/-- The first statement, where there is any token. -/
inductive ReadsStatement (c : Cursor) : Except ParseError Statement → Prop
  | ending (h : c.scanWord.1.kind = .ending) :
      ReadsStatement c (.error (.unexpected .unknownStatement ""))
  | read {later : Cursor} {trace : List Token}
      {result : Except ParseError Statement}
      (hending : c.scanWord.1.kind ≠ .ending)
      (hruns : Runs statement c.scanWord.2.putBack trace result later) :
        ReadsStatement c result

end Cursor

/-! ## Runs of the statement parser -/

namespace Parser

variable {c later : Cursor} {words : List Word} {trace : List Token}
  {result : Except ParseError Statement}

theorem hasRun_statement (hwords : c.Holds words) :
    HasRun ParseError.IsAboutWhole [] statement c := by
  have hsteps : Stepwise ParseError.IsAboutWhole false [] statement :=
    stepwise_statement (fun _ => .inl) fun expected found =>
      .inr ⟨expected, found, rfl⟩
  exact hsteps.hasRun hwords (by simp)

theorem statement_nil :
    statement [] = (.error (.unexpected .syntaxNear ""), []) := rfl

/-- Of the words that are left, a statement takes one at least, whatever it
gives. -/
theorem length_lt_of_statement {word : Word} {tail left : List Word}
    (hwords : c.Holds (word :: tail))
    (h : statement (word :: tail) = (result, left)) :
    left.length < tail.length + 1 := by
  obtain ⟨second, hstatement, hsecond⟩ :=
    @exists_statement_eq_nextToken_bind ParseError.IsAboutWhole []
      (fun _ => .inl) fun expected found => .inr ⟨expected, found, rfl⟩
  have htakes := hwords.takes_scanWord
  obtain ⟨trace, result', later, hruns, -⟩ :=
    (hsecond word.token).hasRun htakes.left fun _ => htakes.taken
  obtain ⟨front, rest, hfollows⟩ := hruns.follows htakes.left
  have htail : tail = front ++ rest := hfollows.words_eq
  have hgiven : second word.token tail = (result', rest) := hfollows.given
  rw [hstatement, bind_of_ok (nextToken_cons word tail), hgiven] at h
  obtain ⟨-, rfl⟩ := Prod.mk.inj h
  rw [htail, List.length_append]
  omega

theorem parseStatement_of_cons {text : String} {word : Word} {rest : List Word}
    (h : Word.ofText text = word :: rest) :
    parseStatement text = (statement (word :: rest)).1 := by
  rw [parseStatement, h]

end Parser

namespace Cursor

variable {c : Cursor} {words : List Word} {n : Nat}

/-- The token that comes next tells whether there is a word. -/
theorem Takes.kind_eq_ending_iff {step : Token × Cursor}
    (h : Takes step words) : step.1.kind = .ending ↔ words = [] := by
  rw [h.token]
  cases words with
  | nil => exact iff_of_true rfl rfl
  | cons word rest => simpa using (h.back.sound word List.mem_cons_self).ending

theorem ReadsScript.spec {result : Except ParseError (List Statement)}
    (h : c.ReadsScript n result) (hwords : c.Holds words) :
    result = scriptOfWords words ∧ n ≤ words.length := by
  induction h generalizing words with
  | ending h =>
      obtain rfl := hwords.takes_scanWord.kind_eq_ending_iff.mp h
      exact ⟨by rw [scriptOfWords], Nat.le_refl 0⟩
  | empty h _ ih =>
      have htakes := hwords.takes_scanWord
      obtain ⟨word, rest, rfl, hword⟩ :=
        exists_cons_of_takes htakes (by simp [h])
      obtain ⟨hresult, hlength⟩ := ih htakes.left
      refine ⟨?_, hlength.trans (Nat.le_succ _)⟩
      rw [scriptOfWords, if_pos (by rw [hword, h]), hresult]
      rfl
  | failed hending hsemicolon hruns =>
      have htakes := hwords.takes_scanWord
      obtain ⟨word, rest, rfl, hword⟩ := exists_cons_of_takes htakes hending
      obtain ⟨front, left, hfollows⟩ := hruns.follows htakes.back
      refine ⟨?_, by simp⟩
      rw [scriptOfWords, if_neg (by rwa [hword]), hfollows.given]
  | read hending hsemicolon hruns _ ih =>
      have htakes := hwords.takes_scanWord
      obtain ⟨word, rest, rfl, hword⟩ := exists_cons_of_takes htakes hending
      obtain ⟨front, left, hfollows⟩ := hruns.follows htakes.back
      obtain ⟨hresult, hlength⟩ := ih hfollows.left
      have hshorter := length_lt_of_statement hwords hfollows.given
      refine ⟨?_, by rw [List.length_cons]; omega⟩
      rw [scriptOfWords, if_neg (by rwa [hword]), hfollows.given, hresult]
      exact (if_pos hshorter).symm

/-- Every text can be read to its end or to an error. -/
theorem exists_readsScript (hwords : c.Holds words) :
    ∃ n result, c.ReadsScript n result := by
  induction hlength : words.length using Nat.strong_induction_on generalizing c
    words with
  | _ length ih =>
      have htakes := hwords.takes_scanWord
      by_cases hending : c.scanWord.1.kind = .ending
      · exact ⟨_, _, .ending hending⟩
      obtain ⟨word, rest, rfl, hword⟩ := exists_cons_of_takes htakes hending
      by_cases hsemicolon : c.scanWord.1.kind = .semicolon
      · obtain ⟨n, result, hrest⟩ :=
          ih rest.length (by simp [← hlength]) htakes.left rfl
        exact ⟨n, result, .empty hsemicolon hrest⟩
      · obtain ⟨trace, result, later, hruns, -⟩ := hasRun_statement htakes.back
        cases result with
        | error error => exact ⟨_, _, .failed hending hsemicolon hruns⟩
        | ok s =>
            obtain ⟨front, left, hfollows⟩ := hruns.follows htakes.back
            have hshorter := length_lt_of_statement hwords hfollows.given
            rw [List.length_cons] at hlength
            rw [hlength] at hshorter
            obtain ⟨n, result, hrest⟩ :=
              ih left.length hshorter hfollows.left rfl
            exact ⟨_, _, .read hending hsemicolon hruns hrest⟩

/-- What a text gives when it is read token by token is what its words give. -/
theorem readsScript_ofText_iff {text : String}
    {result : Except ParseError (List Statement)} :
    (∃ n, (ofText text).ReadsScript n result) ↔ result = parseScript text := by
  constructor
  · rintro ⟨n, h⟩
    exact (h.spec (holds_ofText text)).1
  · rintro rfl
    obtain ⟨n, result, h⟩ := exists_readsScript (holds_ofText text)
    obtain ⟨rfl, -⟩ := h.spec (holds_ofText text)
    exact ⟨n, h⟩

theorem readsStatement_ofText_iff {text : String}
    {result : Except ParseError Statement} :
    (ofText text).ReadsStatement result ↔ result = parseStatement text := by
  have htakes := (holds_ofText text).takes_scanWord
  constructor
  · rintro (hending | ⟨hending, hruns⟩)
    · rw [parseStatement, htakes.kind_eq_ending_iff.mp hending]
    · obtain ⟨word, rest, hwords, -⟩ := exists_cons_of_takes htakes hending
      obtain ⟨front, left, hfollows⟩ := hruns.follows htakes.back
      rw [hwords] at hfollows
      rw [parseStatement_of_cons hwords, hfollows.given]
  · rintro rfl
    by_cases hending : (ofText text).scanWord.1.kind = .ending
    · rw [parseStatement, htakes.kind_eq_ending_iff.mp hending]
      exact .ending hending
    · obtain ⟨word, rest, hwords, -⟩ := exists_cons_of_takes htakes hending
      obtain ⟨trace, result, later, hruns, -⟩ := hasRun_statement htakes.back
      obtain ⟨front, left, hfollows⟩ := hruns.follows htakes.back
      rw [hwords] at hfollows
      rw [parseStatement_of_cons hwords, hfollows.given]
      exact .read hending hruns

end Cursor

end ReportQuery
