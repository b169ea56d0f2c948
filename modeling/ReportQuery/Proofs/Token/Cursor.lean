import ReportQuery.Proofs.Token.Concatenation

/-!
# One token at a time

A cursor takes the tokens of a text one after the other and can put the last
one back. Taking a word passes over a blank in front of it, so that a blank is
put back only by someone who asked for the very next token. What a cursor has
still to give is a list of words: it begins with the token that was put back,
and goes on with the words of the text behind it.
-/

namespace ReportQuery

/-- The tokens of a text before its end, with the blanks. -/
def Token.ofText (s : String) : List Token :=
  (Lexeme.split s.toList).map (·.token)

/-- A place in a text, with the token taken last and whether that one was put
back. -/
structure Cursor where
  rest : List Char
  last : Token
  isPutBack : Bool
deriving DecidableEq, Repr

namespace Cursor

/-- The cursor at the front of a text. -/
def ofText (s : String) : Cursor := ⟨s.toList, Token.ending, false⟩

/-- Take the next token, a blank as well; the one that was put back comes
again. -/
def scan (c : Cursor) : Token × Cursor :=
  if c.isPutBack then (c.last, { c with isPutBack := false })
  else
    let (lexeme, rest) := Lexeme.next c.rest
    (lexeme.token, ⟨rest, lexeme.token, false⟩)

/-- Take the next token that is not a blank. -/
def scanWord (c : Cursor) : Token × Cursor :=
  let (token, later) := c.scan
  if token.kind = .blank then later.scan else (token, later)

/-- Put the last token back. -/
def putBack (c : Cursor) : Cursor := { c with isPutBack := true }

/-- The tokens still to be taken before the end, without the blanks. -/
def tokens (c : Cursor) : List Token :=
  ((if c.isPutBack then [c.last] else []) ++
    (Lexeme.split c.rest).map (·.token)).filter
    fun token => token.kind ≠ .blank ∧ token.kind ≠ .ending

end Cursor

/-- A word of a text: no blank and not the end, and only parentheses open
calls. -/
structure Word.Sound (word : Word) : Prop where
  blank : word.token.kind ≠ .blank
  ending : word.token.kind ≠ .ending
  opensCall : word.opensCall = true → word.token.kind = .openParen

/-- The words that a cursor has still to give. Behind a token that was just
taken no blank is known of; behind a blank that was put back there is no other
blank. -/
inductive Cursor.Holds : Cursor → List Word → Prop
  | taken (rest : List Char) (last : Token) :
      Holds ⟨rest, last, false⟩ (Word.ofLexemes false (Lexeme.split rest))
  | blank {rest : List Char} {last : Token} (hlast : last.kind = .blank)
      (hrest : ∀ c ∈ rest.head?, Token.isSpace c = false) :
      Holds ⟨rest, last, true⟩ (Word.ofLexemes true (Lexeme.split rest))
  | word {rest : List Char} {word : Word} (hword : word.Sound) :
      Holds ⟨rest, word.token, true⟩
        (word :: Word.ofLexemes false (Lexeme.split rest))
  | ending : Holds ⟨[], Token.ending, true⟩ []

namespace Lexeme

/-- A blank is what is read when a blank comes first. -/
theorem kind_eq_blank_iff {c : Char} {cs : List Char} :
    (nextFrom c cs).1.token.kind = .blank ↔ Token.isSpace c = true := by
  refine ⟨isSpace_of_blank, fun hspace => ?_⟩
  rw [nextFrom_of_isSpace hspace]
  rfl

/-- Behind a blank there is no other blank. -/
theorem not_isSpace_of_blank {c : Char} {cs : List Char}
    (h : (nextFrom c cs).1.token.kind = .blank) :
    ∀ d ∈ (nextFrom c cs).2.head?, Token.isSpace d = false := by
  rw [nextFrom_of_isSpace (isSpace_of_blank h)]
  intro d hd
  have hdrop : (cs.dropWhile Token.isSpace).head? = some d := hd
  simpa [hdrop] using List.head?_dropWhile_not Token.isSpace cs

/-- No characters are read as the end. -/
theorem kind_nextFrom_ne_ending (c : Char) (cs : List Char) :
    (nextFrom c cs).1.token.kind ≠ .ending := by
  rcases nextFrom_cases c with
    ⟨-, hnext⟩ | ⟨-, hnext⟩ | ⟨-, hnext⟩ | ⟨-, hnext⟩ | hnext <;> rw [hnext]
  · exact kind_quoted_ne (by decide) c cs
  · simp [run, plain]
  · exact wordKind_ne (by decide) _
  · exact numberKind_ne (by decide) _
  · exact fun hkind => kind_symbol_not_mem (c :: cs) (by simp [hkind])

theorem kind_ne_ending_of_mem_split {cs : List Char} {lexeme : Lexeme}
    (h : lexeme ∈ split cs) : lexeme.token.kind ≠ .ending := by
  obtain ⟨c, tail, rfl⟩ := exists_nextFrom_of_mem_split h
  exact kind_nextFrom_ne_ending c tail

end Lexeme

namespace Word

/-- The words of lexemes carry their tokens without the blanks. -/
theorem map_token_ofLexemes (spaced : Bool) (lexemes : List Lexeme) :
    (ofLexemes spaced lexemes).map (·.token) =
      (lexemes.map (·.token)).filter fun token => token.kind ≠ .blank := by
  induction lexemes generalizing spaced with
  | nil => rfl
  | cons lexeme rest ih =>
      by_cases hblank : lexeme.token.kind = .blank
      · simp [ofLexemes, hblank, ih]
      · simp [ofLexemes, hblank, ih]

theorem sound_of_mem_ofLexemes_split {spaced : Bool} {cs : List Char}
    {word : Word} (h : word ∈ ofLexemes spaced (Lexeme.split cs)) :
    word.Sound := by
  have htoken : word.token ∈ (ofLexemes spaced (Lexeme.split cs)).map
      (·.token) :=
    List.mem_map_of_mem h
  rw [map_token_ofLexemes, List.mem_filter] at htoken
  obtain ⟨hmem, hblank⟩ := htoken
  obtain ⟨lexeme, hlexeme, hsame⟩ := List.mem_map.mp hmem
  refine ⟨by simpa using hblank, ?_, ?_⟩
  · rw [← hsame]
    exact Lexeme.kind_ne_ending_of_mem_split hlexeme
  · intro hcall
    by_contra hkind
    rw [not_opensCall_of_mem_ofLexemes h hkind] at hcall
    exact absurd hcall Bool.false_ne_true

end Word

namespace Cursor

variable {c : Cursor} {words : List Word}

theorem holds_ofText (s : String) : (ofText s).Holds (Word.ofText s) :=
  .taken s.toList Token.ending

/-- The words that a cursor holds carry the tokens that it has still to give. -/
theorem Holds.tokens_eq (h : c.Holds words) :
    c.tokens = words.map (·.token) := by
  have hrest : ∀ (spaced : Bool) (rest : List Char),
      (((Lexeme.split rest).map (·.token)).filter fun token =>
        token.kind ≠ .blank ∧ token.kind ≠ .ending) =
      (Word.ofLexemes spaced (Lexeme.split rest)).map (·.token) := by
    intro spaced rest
    rw [Word.map_token_ofLexemes]
    refine List.filter_congr fun token htoken => ?_
    obtain ⟨lexeme, hlexeme, rfl⟩ := List.mem_map.mp htoken
    simp [Lexeme.kind_ne_ending_of_mem_split hlexeme]
  cases h with
  | taken rest last => exact hrest false rest
  | blank hlast _ =>
      rw [tokens, if_pos rfl, List.singleton_append,
        List.filter_cons_of_neg (by simp [hlast])]
      exact hrest true _
  | word hword =>
      rw [tokens, if_pos rfl, List.singleton_append,
        List.filter_cons_of_pos (by simp [hword.blank, hword.ending]),
        hrest false, List.map_cons]
  | ending => simp [tokens, Lexeme.split]

theorem Holds.sound (h : c.Holds words) : ∀ word ∈ words, word.Sound := by
  cases h with
  | taken rest last => exact fun _ => Word.sound_of_mem_ofLexemes_split
  | blank hlast _ => exact fun _ => Word.sound_of_mem_ofLexemes_split
  | word hword =>
      rintro other (_ | ⟨_, hother⟩)
      · exact hword
      · exact Word.sound_of_mem_ofLexemes_split hother
  | ending => simp

/-! ## Taking a word -/

/-- A step takes the first of some words, or the end when there is none, and
can put it back. -/
structure Takes (step : Token × Cursor) (words : List Word) : Prop where
  token : step.1 = (words.head?.map (·.token)).getD Token.ending
  taken : step.2.isPutBack = false
  left : step.2.Holds words.tail
  back : step.2.putBack.Holds words

theorem Takes.kind_ne_blank {step : Token × Cursor} (h : Takes step words) :
    step.1.kind ≠ .blank := by
  rw [h.token]
  cases words with
  | nil => exact TokenKind.noConfusion
  | cons word rest => exact (h.back.sound word List.mem_cons_self).blank

theorem takes_ending (last : Token) : Takes (scan ⟨[], last, false⟩) [] where
  token := rfl
  taken := rfl
  left := by
    have h := Holds.taken [] Token.ending
    rwa [Lexeme.split] at h
  back := Holds.ending

/-- The very next token is a word when no blank comes first. -/
theorem takes_scan {rest : List Char}
    (hrest : ∀ d ∈ rest.head?, Token.isSpace d = false) (last : Token)
    (spaced : Bool) :
    Takes (scan ⟨rest, last, false⟩)
      (Word.ofLexemes spaced (Lexeme.split rest)) := by
  cases rest with
  | nil =>
      rw [Lexeme.split]
      exact takes_ending last
  | cons d cs =>
      have hblank : (Lexeme.nextFrom d cs).1.token.kind ≠ .blank := by
        rw [Ne, Lexeme.kind_eq_blank_iff, hrest d rfl]
        exact Bool.false_ne_true
      have hsound : ∀ word ∈ Word.ofLexemes spaced (Lexeme.split (d :: cs)),
          word.Sound :=
        fun _ => Word.sound_of_mem_ofLexemes_split
      rw [Lexeme.split_cons] at hsound ⊢
      rw [Word.ofLexemes, if_neg hblank] at hsound ⊢
      exact ⟨rfl, rfl, .taken _ _, .word (hsound _ List.mem_cons_self)⟩

theorem scan_putBack (rest : List Char) (last : Token) :
    scan ⟨rest, last, true⟩ = (last, ⟨rest, last, false⟩) := rfl

theorem scan_cons (d : Char) (cs : List Char) (last : Token) :
    scan ⟨d :: cs, last, false⟩ = ((Lexeme.nextFrom d cs).1.token,
      ⟨(Lexeme.nextFrom d cs).2, (Lexeme.nextFrom d cs).1.token, false⟩) := rfl

theorem scanWord_of_blank (h : c.scan.1.kind = .blank) :
    c.scanWord = c.scan.2.scan :=
  if_pos h

theorem scanWord_of_ne_blank (h : c.scan.1.kind ≠ .blank) :
    c.scanWord = c.scan :=
  if_neg h

/-- Taking a word passes over a blank in front of it. -/
theorem Holds.takes_scanWord (h : c.Holds words) : Takes c.scanWord words := by
  cases h with
  | taken rest last =>
      by_cases hrest : ∀ d ∈ rest.head?, Token.isSpace d = false
      · have htakes := takes_scan hrest last false
        rwa [scanWord_of_ne_blank htakes.kind_ne_blank]
      · obtain ⟨d, cs, rfl, hspace⟩ : ∃ d cs, rest = d :: cs ∧
            Token.isSpace d = true := by
          cases rest with
          | nil => simp at hrest
          | cons d cs => exact ⟨d, cs, rfl, by simpa using hrest⟩
        have hblank : (Lexeme.nextFrom d cs).1.token.kind = .blank :=
          Lexeme.kind_eq_blank_iff.mpr hspace
        rw [scanWord_of_blank (by rw [scan_cons]; exact hblank),
          Lexeme.split_cons, Word.ofLexemes, if_pos hblank]
        exact takes_scan (Lexeme.not_isSpace_of_blank hblank) _ true
  | blank hlast hrest =>
      rw [scanWord_of_blank (by rw [scan_putBack]; exact hlast)]
      exact takes_scan hrest _ true
  | word hword =>
      rw [scanWord_of_ne_blank (by rw [scan_putBack]; exact hword.blank)]
      exact ⟨rfl, rfl, .taken _ _, .word hword⟩
  | ending =>
      rw [scanWord_of_ne_blank (by simp [scan_putBack])]
      exact takes_ending Token.ending

/-! ## Taking the very next token -/

/-- Behind a blank no word opens a call. -/
theorem not_opensCall_of_spaced {rest : List Char}
    (hrest : ∀ d ∈ rest.head?, Token.isSpace d = false) :
    ¬ ∃ word ∈ (Word.ofLexemes true (Lexeme.split rest)).head?,
      word.opensCall = true := by
  cases rest with
  | nil => simp [Lexeme.split, Word.ofLexemes]
  | cons d cs =>
      have hblank : (Lexeme.nextFrom d cs).1.token.kind ≠ .blank := by
        rw [Ne, Lexeme.kind_eq_blank_iff, hrest d rfl]
        exact Bool.false_ne_true
      rw [Lexeme.split_cons, Word.ofLexemes, if_neg hblank]
      simp

/-- Right behind a token that was taken, the very next token is a parenthesis
exactly when the next word opens a call. Whatever else it is, a blank as well,
it can be put back. -/
structure LooksForCall (step : Token × Cursor) (words : List Word) : Prop where
  kind : step.1.kind = .openParen ↔ ∃ word ∈ words.head?, word.opensCall = true
  taken : step.1.kind = .openParen → Takes step words
  back : step.1.kind ≠ .openParen → step.2.putBack.Holds words

theorem Holds.looksForCall_scan (h : c.Holds words)
    (htaken : c.isPutBack = false) : LooksForCall c.scan words := by
  cases h with
  | taken rest last =>
      cases rest with
      | nil =>
          have htakes := takes_ending last
          rw [Lexeme.split]
          refine ⟨?_, fun _ => htakes, fun _ => htakes.back⟩
          simp [htakes.token, Word.ofLexemes]
      | cons d cs =>
          by_cases hblank : (Lexeme.nextFrom d cs).1.token.kind = .blank
          · have hrest := Lexeme.not_isSpace_of_blank hblank
            rw [Lexeme.split_cons, Word.ofLexemes, if_pos hblank, scan_cons]
            refine ⟨?_, by simp [hblank], fun _ => .blank hblank hrest⟩
            exact iff_of_false (by simp [hblank])
              (not_opensCall_of_spaced hrest)
          · have hrest : ∀ e ∈ (d :: cs).head?, Token.isSpace e = false := by
              rintro e ⟨⟩
              rwa [Lexeme.kind_eq_blank_iff, Bool.not_eq_true] at hblank
            have htakes := takes_scan hrest last false
            refine ⟨?_, fun _ => htakes, fun _ => htakes.back⟩
            rw [Lexeme.split_cons, Word.ofLexemes, if_neg hblank, scan_cons]
            simp
  | blank hlast hrest => exact absurd htaken (by simp)
  | word hword => exact absurd htaken (by simp)
  | ending => exact absurd htaken (by simp)

end Cursor

end ReportQuery
