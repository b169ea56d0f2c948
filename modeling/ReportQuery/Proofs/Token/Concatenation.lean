import Mathlib.Data.List.Basic
import ReportQuery.Proofs.Token.Spelling

/-!
# Splitting one text after another

A step takes the longest token from the front of a text, and this token could
go on into a text that is put behind. It does not once a character is left
behind it, and a semicolon or a mark for vertical output does not even at the
end of its text. Blanks at the end of a text do go on, but they are no words;
all they can change is whether the first word behind them opens a call.

So the words of a text that ends in a semicolon or such a mark are followed by
those of the other text.
-/

namespace ReportQuery

/-- A token that ends a statement wherever it stands. -/
def TokenKind.Closes (kind : TokenKind) : Prop :=
  kind = .semicolon ∨ kind = .vertical

instance (kind : TokenKind) : Decidable kind.Closes :=
  inferInstanceAs (Decidable (_ ∨ _))

namespace Lexeme

variable {c quote : Char} {cs : List Char}

/-! ## Quoted texts and runs -/

theorem closed_of_rest_ne_nil (h : (quotedPart quote cs).rest ≠ []) :
    (quotedPart quote cs).closed = true := by
  fun_induction quotedPart quote cs with
  | case1 => exact absurd rfl h
  | case2 c cs ih => exact ih h
  | case3 => rfl
  | case4 cs hnot hquote =>
      cases cs with
      | nil => exact absurd rfl h
      | cons d tail => exact absurd rfl (hnot d tail rfl)
  | case5 c cs _ _ _ ih => exact ih h

theorem quotedPart_append (hquote : quote ≠ '\\')
    (h : (quotedPart quote cs).closed = true) (more : List Char) :
    quotedPart quote (cs ++ more) =
      { quotedPart quote cs with rest := (quotedPart quote cs).rest ++
        more } := by
  fun_induction quotedPart quote cs with
  | case1 => exact absurd h Bool.false_ne_true
  | case2 c cs ih =>
      rw [List.cons_append, List.cons_append, quotedPart, ih h]
      rfl
  | case3 cs =>
      rw [List.cons_append, quotedPart, if_pos rfl]
      intro d tail hbackslash
      exact absurd hbackslash hquote
  | case4 => exact absurd h Bool.false_ne_true
  | case5 c cs _ hother hplain ih =>
      rw [List.cons_append, quotedPart, if_neg hother, if_neg hplain, ih h]
      · rfl
      · intro d tail hbackslash
        exact absurd hbackslash hplain

theorem run_append_of_ne_nil (kind : List Char → TokenKind)
    {p : Char → Bool} (c : Char) (h : cs.dropWhile p ≠ []) (more : List Char) :
    run kind p c (cs ++ more) =
      ((run kind p c cs).1, (run kind p c cs).2 ++ more) := by
  have hdrop : (cs ++ more).dropWhile p = cs.dropWhile p ++ more := by
    rw [List.dropWhile_append, if_neg (by simpa using h)]
  have htake : (cs ++ more).takeWhile p = cs.takeWhile p := by
    have hall := List.takeWhile_append_dropWhile (p := p) (l := cs ++ more)
    rw [hdrop, ← List.append_assoc] at hall
    have hcs := List.takeWhile_append_dropWhile (p := p) (l := cs)
    exact List.append_cancel_right
      ((List.append_cancel_right hall).trans hcs.symm)
  simp only [run, htake, hdrop]

/-! ## Symbols -/

/-- No symbol has more than two characters. -/
theorem symbol?_cons_cons (c d : Char) (tail : List Char) :
    symbol? (c :: d :: tail) = symbol? [c, d] := by
  by_cases hd : d = '='
  · subst hd
    unfold symbol?
    split <;> simp_all
    all_goals
      rename_i hnot hcs
      exact hnot tail hcs.2.symm
  · unfold symbol?
    split <;> simp_all

theorem eq_semicolon_of_symbol? {kind : TokenKind} {n : Nat}
    (h : symbol? [c] = some (kind, n)) (hkind : kind.Closes) : c = ';' := by
  unfold symbol? at h
  split at h <;> simp_all [TokenKind.Closes]
  all_goals
    obtain ⟨rfl, -⟩ := h
    simp at hkind

theorem symbol?_append
    (h : cs ≠ [] ∨ ∃ found ∈ symbol? (c :: cs), found.1.Closes)
    (more : List Char) :
    symbol? (c :: (cs ++ more)) = symbol? (c :: cs) := by
  cases cs with
  | cons d tail =>
      rw [List.cons_append, symbol?_cons_cons, symbol?_cons_cons c d tail]
  | nil =>
      obtain ⟨⟨kind, n⟩, hfound, hkind⟩ := h.resolve_left (not_not_intro rfl)
      obtain rfl := eq_semicolon_of_symbol? hfound hkind
      rfl

theorem symbol_append
    (h : (symbol (c :: cs)).2 ≠ [] ∨ (symbol (c :: cs)).1.token.kind.Closes)
    (more : List Char) :
    symbol (c :: (cs ++ more)) =
      ((symbol (c :: cs)).1, (symbol (c :: cs)).2 ++ more) := by
  have hsame : symbol? (c :: (cs ++ more)) = symbol? (c :: cs) := by
    apply symbol?_append
    refine h.imp ?_ ?_
    · rintro hrest rfl
      obtain ⟨hsource, happend⟩ := takes_symbol c []
      rcases List.append_eq_singleton_iff.mp happend with ⟨hnil, -⟩ | ⟨-, hnil⟩
      · exact hsource hnil
      · exact hrest hnil
    · intro hkind
      unfold symbol at hkind
      split at hkind
      · next kind n hsymbol => exact ⟨(kind, n), hsymbol, hkind⟩
      · exact absurd hkind (by simp [plain, TokenKind.Closes])
  unfold symbol
  rw [hsame]
  cases hsymbol : symbol? (c :: cs) with
  | none => rfl
  | some found =>
      obtain ⟨kind, n⟩ := found
      obtain ⟨-, hn⟩ := symbol?_bounds hsymbol
      simp only [← List.cons_append, List.take_append_of_le_length hn,
        List.drop_append_of_le_length hn]

/-! ## One step -/

theorem not_closes_wordKind (word : List Char) : ¬ (wordKind word).Closes :=
  not_or.mpr ⟨wordKind_ne (by decide) word, wordKind_ne (by decide) word⟩

theorem not_closes_numberKind (number : List Char) :
    ¬ (numberKind number).Closes :=
  not_or.mpr ⟨numberKind_ne (by decide) number,
    numberKind_ne (by decide) number⟩

theorem not_closes_blank : ¬ TokenKind.blank.Closes := by decide

theorem not_closes_quoted : ¬ (quoted quote cs).1.token.kind.Closes :=
  not_or.mpr ⟨kind_quoted_ne (by decide) quote cs,
    kind_quoted_ne (by decide) quote cs⟩

/-- A step that leaves something, or that takes a token that closes, is not
changed by what is put behind the text. -/
theorem nextFrom_append
    (h : (nextFrom c cs).2 ≠ [] ∨ (nextFrom c cs).1.token.kind.Closes)
    (more : List Char) :
    nextFrom c (cs ++ more) =
      ((nextFrom c cs).1, (nextFrom c cs).2 ++ more) := by
  rcases nextFrom_cases c with
    ⟨hquote, hnext⟩ | ⟨-, hnext⟩ | ⟨-, hnext⟩ | ⟨-, hnext⟩ | hnext <;>
    simp only [hnext] at h ⊢
  · have hclosed := closed_of_rest_ne_nil (h.resolve_right not_closes_quoted)
    have hne : c ≠ '\\' := by
      rintro rfl
      exact absurd hquote (by decide)
    simp only [quoted, quotedPart_append hne hclosed more]
  · exact run_append_of_ne_nil _ c (h.resolve_right not_closes_blank) more
  · exact run_append_of_ne_nil _ c (h.resolve_right (not_closes_wordKind _))
      more
  · exact run_append_of_ne_nil _ c (h.resolve_right (not_closes_numberKind _))
      more
  · exact symbol_append h more

theorem nextFrom_of_isSpace (h : Token.isSpace c = true) (cs : List Char) :
    nextFrom c cs = run (fun _ => .blank) Token.isSpace c cs := by
  have hquote : ¬ Token.isQuote c = true := by
    intro hquote
    simp only [Token.isQuote, Bool.or_eq_true, beq_iff_eq] at hquote
    rcases hquote with rfl | rfl <;> exact absurd h (by decide)
  rw [nextFrom, if_neg hquote, if_pos h]

/-- Only blanks are read as a blank. -/
theorem isSpace_of_blank (h : (nextFrom c cs).1.token.kind = .blank) :
    Token.isSpace c = true := by
  rcases nextFrom_cases c with
    ⟨-, hnext⟩ | ⟨hspace, -⟩ | ⟨-, hnext⟩ | ⟨-, hnext⟩ | hnext
  · rw [hnext] at h
    exact absurd h (kind_quoted_ne (by decide) c cs)
  · exact hspace
  · rw [hnext] at h
    exact absurd h (wordKind_ne (by decide) _)
  · rw [hnext] at h
    exact absurd h (numberKind_ne (by decide) _)
  · rw [hnext] at h
    exact absurd (by simp [h]) (kind_symbol_not_mem (c :: cs))

end Lexeme

namespace Word

/-! ## A whole text -/

/-- Blanks at the front of a text are no words. -/
theorem ofLexemes_split_of_isSpace {c : Char} (hspace : Token.isSpace c = true)
    (spaced : Bool) (cs : List Char) :
    ofLexemes spaced (Lexeme.split (c :: cs)) =
      ofLexemes true (Lexeme.split (cs.dropWhile Token.isSpace)) := by
  rw [Lexeme.split_cons, Lexeme.nextFrom_of_isSpace hspace]
  rfl

theorem ofLexemes_split_dropWhile (cs : List Char) :
    ofLexemes true (Lexeme.split (cs.dropWhile Token.isSpace)) =
      ofLexemes true (Lexeme.split cs) := by
  cases cs with
  | nil => rfl
  | cons c tail =>
      by_cases hspace : Token.isSpace c = true
      · rw [ofLexemes_split_of_isSpace hspace,
          List.dropWhile_cons_of_pos hspace]
      · rw [List.dropWhile_cons_of_neg hspace]

theorem ofLexemes_split_append {spaced : Bool} {cs : List Char}
    (h : ∀ word ∈ (ofLexemes spaced (Lexeme.split cs)).getLast?,
      word.token.kind.Closes) (more : List Char) :
    ∃ spaced', ofLexemes spaced (Lexeme.split (cs ++ more)) =
      ofLexemes spaced (Lexeme.split cs) ++
        ofLexemes spaced' (Lexeme.split more) := by
  fun_induction Lexeme.split cs generalizing spaced with
  | case1 => exact ⟨spaced, rfl⟩
  | case2 c cs ih =>
      by_cases hends : (Lexeme.nextFrom c cs).2 ≠ [] ∨
        (Lexeme.nextFrom c cs).1.token.kind.Closes
      · rw [List.cons_append, Lexeme.split_cons, Lexeme.nextFrom_append hends]
        by_cases hblank : (Lexeme.nextFrom c cs).1.token.kind = .blank
        · simp only [ofLexemes, if_pos hblank] at h ⊢
          exact ih h
        · simp only [ofLexemes, if_neg hblank] at h ⊢
          obtain ⟨spaced', hsame⟩ :=
            ih fun word hword => h word (List.mem_getLast?_cons hword)
          exact ⟨spaced', by rw [hsame, List.cons_append]⟩
      · obtain ⟨hrest, hopen⟩ := not_or.mp hends
        rw [not_not] at hrest
        have hspace : Token.isSpace c = true := by
          by_contra hspace
          have hblank : (Lexeme.nextFrom c cs).1.token.kind ≠ .blank :=
            fun hblank => hspace (Lexeme.isSpace_of_blank hblank)
          simp only [ofLexemes, if_neg hblank, hrest] at h
          rw [Lexeme.split, ofLexemes] at h
          exact hopen (h _ rfl)
        have hdrop : cs.dropWhile Token.isSpace = [] := by
          rw [Lexeme.nextFrom_of_isSpace hspace] at hrest
          exact hrest
        refine ⟨true, ?_⟩
        rw [← Lexeme.split_cons, List.cons_append,
          ofLexemes_split_of_isSpace hspace, ofLexemes_split_of_isSpace hspace,
          List.dropWhile_append, if_pos (by simp [hdrop]), hdrop,
          ofLexemes_split_dropWhile]
        simp [Lexeme.split, ofLexemes]

/-- The words of two texts, one after the other: of the second text, only
whether its first word opens a call can change. -/
theorem ofText_append {a : String}
    (h : ∀ word ∈ (ofText a).getLast?, word.token.kind.Closes) (b : String) :
    ∃ spaced, ofText (a ++ b) =
      ofText a ++ ofLexemes spaced (Lexeme.split b.toList) := by
  obtain ⟨spaced, hsame⟩ := ofLexemes_split_append h b.toList
  exact ⟨spaced, by rw [ofText, String.toList_append, hsame, ofText]⟩

/-- Only parentheses open calls. -/
theorem not_opensCall_of_mem_ofLexemes {spaced : Bool} {lexemes : List Lexeme}
    {word : Word} (hmem : word ∈ ofLexemes spaced lexemes)
    (hkind : word.token.kind ≠ .openParen) : word.opensCall = false := by
  induction lexemes generalizing spaced with
  | nil => simp [ofLexemes] at hmem
  | cons lexeme rest ih =>
      rw [ofLexemes] at hmem
      split at hmem
      · exact ih hmem
      · rcases List.mem_cons.mp hmem with rfl | hrest
        · simpa using fun _ => hkind
        · exact ih hrest

end Word

end ReportQuery
