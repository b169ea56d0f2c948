import Mathlib.Data.String.Basic
import Mathlib.Order.Bounds.Basic
import ReportQuery.Proofs.Token.Cursor

/-!
# Tokens by bytes

Tokens are taken from a text at a number of bytes, which has to lie between two
characters. Each token moves on by the bytes of the characters that it was read
from. These are the same as its literal when the token is not quoted; a quoted
one goes to the first quote that no backslash protects, or to the end. So one
token after the other covers the text, and then the end comes again and again.
-/

namespace ReportQuery

open String (utf8Len)

namespace Text

/-- The characters behind a number of bytes; there are none when it ends inside
a character or goes beyond the text. -/
def behind? : List Char → Nat → Option (List Char)
  | cs, 0 => some cs
  | [], _ + 1 => none
  | c :: cs, n + 1 =>
    if c.utf8Size ≤ n + 1 then behind? cs (n + 1 - c.utf8Size) else none

/-- The character at a place is protected: it follows a backslash that is not
protected itself. -/
def Protected (cs : List Char) : Nat → Prop
  | 0 => False
  | i + 1 => cs[i]? = some '\\' ∧ ¬ Protected cs i

/-- A quote at a place that is not protected. -/
def ClosesAt (quote : Char) (cs : List Char) (i : Nat) : Prop :=
  cs[i]? = some quote ∧ ¬ Protected cs i

end Text

namespace Token

/-- The token at a number of bytes, and the number of bytes behind it. -/
def scanAt? (s : String) (offset : Nat) : Option (Token × Nat) :=
  (Text.behind? s.toList offset).map fun rest =>
    let lexeme := (Lexeme.next rest).1
    (lexeme.token, offset + utf8Len lexeme.source)

/-- What a number of scans, counted from zero, comes to; each goes on where the
one before ended. -/
def scan? (s : String) : Nat → Option (Token × Nat)
  | 0 => scanAt? s 0
  | n + 1 => (scan? s n).bind fun last => scanAt? s last.2

end Token

namespace Lexeme

/-- What a text behind an opening quote is read as: it ends with the first
quote that closes it, or it is illegal and there is nothing behind it. -/
structure ReadsQuoted (quote : Char) (kind : TokenKind)
    (source rest : List Char) : Prop where
  closed : ∀ i, IsLeast {i | Text.ClosesAt quote (source ++ rest) i} i →
    kind = .quoted ∧ source.length = i + 1
  opened : (∀ i, ¬ Text.ClosesAt quote (source ++ rest) i) →
    kind = .illegal ∧ rest = []

/-- A lexeme stands for the characters that it was read from, in front of
others. -/
structure StandsFor (lexeme : Lexeme) (rest : List Char) : Prop where
  kind : lexeme.token.kind ≠ .ending
  nonempty : lexeme.source ≠ []
  literal : ∀ c ∈ lexeme.source.head?, Token.isQuote c = false →
    lexeme.token.literal.toList = lexeme.source
  quoted : ∀ c ∈ lexeme.source.head?, Token.isQuote c = true →
    ReadsQuoted c lexeme.token.kind lexeme.source.tail rest

end Lexeme

/-! ## Bytes -/

namespace Text

/-- Characters are found behind the bytes of those in front of them, and
nowhere else. -/
theorem behind?_eq_some_iff {cs rest : List Char} {n : Nat} :
    behind? cs n = some rest ↔
      ∃ front, cs = front ++ rest ∧ utf8Len front = n := by
  fun_induction behind? cs n with
  | case1 cs => simp
  | case2 n => simp
  | case3 c cs n hfits ih =>
      rw [ih]
      clear ih
      constructor
      · rintro ⟨front, rfl, hfront⟩
        refine ⟨c :: front, rfl, ?_⟩
        rw [String.utf8Len_cons]
        omega
      · rintro ⟨front, happend, hfront⟩
        cases front with
        | nil => simp at hfront
        | cons d front =>
            obtain ⟨rfl, rfl⟩ := List.cons.inj happend
            rw [String.utf8Len_cons] at hfront
            exact ⟨front, rfl, by omega⟩
  | case4 c cs n hfits =>
      refine iff_of_false (by simp) ?_
      rintro ⟨front, happend, hfront⟩
      cases front with
      | nil => simp at hfront
      | cons d front =>
          obtain ⟨rfl, -⟩ := List.cons.inj happend
          rw [String.utf8Len_cons] at hfront
          omega

theorem isValid_utf8Len {s : String} {front rest : List Char}
    (h : s.toList = front ++ rest) :
    String.Pos.Raw.IsValid s ⟨utf8Len front⟩ := by
  rw [String.Pos.Raw.isValid_iff_exists_append]
  refine ⟨String.ofList front, String.ofList rest, ?_, by simp⟩
  rw [← String.ofList_append, ← h, String.ofList_toList]

/-! ## Quoted texts -/

variable {quote : Char} {front tail : List Char}

theorem protected_append_iff (h : ¬ Protected (front ++ tail) front.length)
    (i : Nat) :
    Protected (front ++ tail) (front.length + i) ↔ Protected tail i := by
  induction i with
  | zero => exact iff_of_false h id
  | succ i ih =>
      rw [← Nat.add_assoc, Protected, Protected, ih,
        List.getElem?_append_right (by omega), Nat.add_sub_cancel_left]

/-- Where nothing closes a text in front, the rest is closed as if it stood
alone. -/
theorem closesAt_append_iff
    (hprotected : ¬ Protected (front ++ tail) front.length)
    (hfront : ∀ i < front.length, ¬ ClosesAt quote (front ++ tail) i)
    (i : Nat) :
    ClosesAt quote (front ++ tail) i ↔
      ∃ j, ClosesAt quote tail j ∧ front.length + j = i := by
  have hshift : ∀ j, ClosesAt quote (front ++ tail) (front.length + j) ↔
      ClosesAt quote tail j := by
    intro j
    rw [ClosesAt, ClosesAt, protected_append_iff hprotected,
      List.getElem?_append_right (by omega), Nat.add_sub_cancel_left]
  constructor
  · intro h
    have hle : front.length ≤ i := Nat.not_lt.mp fun hlt => hfront i hlt h
    exact ⟨i - front.length, (hshift _).mp (by rwa [Nat.add_sub_cancel' hle]),
      Nat.add_sub_cancel' hle⟩
  · rintro ⟨j, h, rfl⟩
    exact (hshift j).mpr h

end Text

namespace Lexeme

open Text

variable {quote c : Char} {cs front tail : List Char}

/-- What is read behind an opening quote ends with the first quote that closes
the text, or with the text. -/
structure QuotedPart.Ends (quote : Char) (cs : List Char) (part : QuotedPart) :
    Prop where
  closed : part.closed = true →
    ∃ i, IsLeast {i | ClosesAt quote cs i} i ∧ part.source.length = i + 1
  opened : part.closed = false → (∀ i, ¬ ClosesAt quote cs i) ∧ part.rest = []

theorem QuotedPart.Ends.push {part : QuotedPart} (h : part.Ends quote tail)
    (front : List Char) (hprotected : ¬ Protected (front ++ tail) front.length)
    (hfront : ∀ i < front.length, ¬ ClosesAt quote (front ++ tail) i)
    (c : Char) : (part.push c front).Ends quote (front ++ tail) := by
  have hiff := closesAt_append_iff hprotected hfront
  constructor
  · intro hclosed
    obtain ⟨i, ⟨hi, hleast⟩, hlength⟩ := h.closed hclosed
    refine ⟨front.length + i, ⟨(hiff _).mpr ⟨i, hi, rfl⟩, fun k hk => ?_⟩, ?_⟩
    · obtain ⟨j, hj, rfl⟩ := (hiff k).mp hk
      exact Nat.add_le_add_left (hleast hj) _
    · rw [QuotedPart.push, List.length_append, hlength, Nat.add_assoc]
  · intro hopened
    obtain ⟨hnone, hrest⟩ := h.opened hopened
    refine ⟨fun k hk => ?_, hrest⟩
    obtain ⟨j, hj, -⟩ := (hiff k).mp hk
    exact hnone j hj

theorem ends_quotedPart (hquote : quote ≠ '\\') (cs : List Char) :
    (quotedPart quote cs).Ends quote cs := by
  fun_induction quotedPart quote cs with
  | case1 => exact ⟨by simp, fun _ => ⟨fun i => by simp [ClosesAt], rfl⟩⟩
  | case2 c cs ih =>
      refine ih.push ['\\', c] (by simp [Protected]) ?_ c
      intro i hi hcloses
      obtain rfl | rfl : i = 0 ∨ i = 1 := by
        rw [List.length_cons, List.length_singleton] at hi
        omega
      · exact hquote (Option.some.inj hcloses.1).symm
      · exact hcloses.2 ⟨rfl, id⟩
  | case3 cs =>
      refine ⟨fun _ => ⟨0, ⟨⟨rfl, id⟩, fun i _ => Nat.zero_le i⟩, rfl⟩, by simp⟩
  | case4 cs hlast _ =>
      obtain rfl : cs = [] := by
        cases cs with
        | nil => rfl
        | cons d tail => exact absurd rfl (hlast d tail rfl)
      refine ⟨by simp, fun _ => ⟨fun i hcloses => ?_, rfl⟩⟩
      obtain ⟨hchar, -⟩ := hcloses
      cases i with
      | zero => exact hquote (Option.some.inj hchar).symm
      | succ i => simp at hchar
  | case5 c cs _ hother hplain ih =>
      refine ih.push [c] (by simp [Protected, hplain]) ?_ c
      intro i hi hcloses
      obtain rfl : i = 0 := by simpa using hi
      exact hother (Option.some.inj hcloses.1)

theorem readsQuoted_quoted (hquote : quote ≠ '\\') (cs : List Char) :
    ReadsQuoted quote (quoted quote cs).1.token.kind
      (quotedPart quote cs).source
      (quotedPart quote cs).rest := by
  have hends := ends_quotedPart hquote cs
  have happend := quotedPart_source_append_rest quote cs
  have hkind : (quoted quote cs).1.token.kind =
      if (quotedPart quote cs).closed then .quoted else .illegal := rfl
  rw [hkind]
  cases hclosed : (quotedPart quote cs).closed with
  | true =>
      obtain ⟨i, hi, hlength⟩ := hends.closed hclosed
      constructor
      · intro k hk
        rw [happend] at hk
        rw [hi.unique hk] at hlength
        exact ⟨rfl, hlength⟩
      · intro hnone
        rw [happend] at hnone
        exact absurd hi.1 (hnone i)
  | false =>
      obtain ⟨hnone, hrest⟩ := hends.opened hclosed
      constructor
      · intro k hk
        rw [happend] at hk
        exact absurd hk.1 (hnone k)
      · exact fun _ => ⟨rfl, hrest⟩

/-! ## One token -/

theorem head?_source_nextFrom (c : Char) (cs : List Char) :
    (nextFrom c cs).1.source.head? = some c := by
  obtain ⟨hne, happend⟩ := takes_nextFrom c cs
  obtain ⟨d, tail, hsource⟩ := List.exists_cons_of_ne_nil hne
  rw [hsource] at happend ⊢
  exact congrArg some (List.cons.inj happend).1

/-- What is not quoted has its characters as the literal. -/
theorem literal_nextFrom (hquote : Token.isQuote c = false) (cs : List Char) :
    (nextFrom c cs).1.token.literal.toList = (nextFrom c cs).1.source := by
  have hplain : ∀ kind source, (plain kind source).token.literal.toList =
      source := by
    intro kind source
    exact String.toList_ofList
  rcases nextFrom_cases c with
    ⟨hquoted, -⟩ | ⟨-, hnext⟩ | ⟨-, hnext⟩ | ⟨-, hnext⟩ | hnext
  · exact absurd hquoted (by simp [hquote])
  · rw [hnext]
    exact hplain _ _
  · rw [hnext]
    exact hplain _ _
  · rw [hnext]
    exact hplain _ _
  · rw [hnext, symbol]
    split
    · exact hplain _ _
    · exact hplain _ _

theorem standsFor_nextFrom (c : Char) (cs : List Char) :
    (nextFrom c cs).1.StandsFor (nextFrom c cs).2 := by
  refine ⟨kind_nextFrom_ne_ending c cs, (takes_nextFrom c cs).1, ?_, ?_⟩
  · rw [head?_source_nextFrom]
    rintro _ ⟨⟩ hquote
    exact literal_nextFrom hquote cs
  · rw [head?_source_nextFrom]
    rintro _ ⟨⟩ hquote
    have hne : c ≠ '\\' := by
      rintro rfl
      exact absurd hquote (by decide)
    rw [nextFrom, if_pos hquote]
    exact readsQuoted_quoted hne cs

/-! ## All tokens of a text -/

theorem eq_flatMap_take_append_drop (cs : List Char) (n : Nat) :
    cs = ((split cs).take n).flatMap (·.source) ++
      ((split cs).drop n).flatMap (·.source) := by
  rw [← List.flatMap_append, List.take_append_drop, flatMap_source_split]

/-- Behind some lexemes of a text the others are read. -/
theorem split_flatMap_drop (cs : List Char) (n : Nat) :
    split (((split cs).drop n).flatMap (·.source)) = (split cs).drop n := by
  fun_induction split cs generalizing n with
  | case1 => simp [split]
  | case2 c cs ih =>
      cases n with
      | zero => rw [List.drop_zero, ← split_cons, flatMap_source_split]
      | succ n => exact ih n

theorem next_fst (cs : List Char) :
    (next cs).1 = (split cs).head?.getD ⟨Token.ending, []⟩ := by
  cases cs with
  | nil => rw [split]; rfl
  | cons c cs => rw [split_cons]; rfl

theorem standsFor_getElem? {n : Nat} {lexeme : Lexeme}
    (h : (split cs)[n]? = some lexeme) :
    lexeme.StandsFor (((split cs).drop (n + 1)).flatMap (·.source)) := by
  fun_induction split cs generalizing n with
  | case1 => simp at h
  | case2 c cs ih =>
      cases n with
      | zero =>
          obtain rfl := Option.some.inj h
          rw [List.drop_succ_cons, List.drop_zero, flatMap_source_split]
          exact standsFor_nextFrom c cs
      | succ n => exact ih h

/-- No blank comes right behind another one. -/
theorem not_blank_of_blank {n : Nat} {first second : Lexeme}
    (hfirst : (split cs)[n]? = some first)
    (hsecond : (split cs)[n + 1]? = some second)
    (hblank : first.token.kind = .blank) : second.token.kind ≠ .blank := by
  fun_induction split cs generalizing n with
  | case1 => simp at hfirst
  | case2 c cs ih =>
      cases n with
      | zero =>
          obtain rfl := Option.some.inj hfirst
          have hrest := not_isSpace_of_blank hblank
          cases hbehind : (nextFrom c cs).2 with
          | nil => simp [hbehind, split] at hsecond
          | cons d tail =>
              rw [hbehind] at hrest
              rw [List.getElem?_cons_succ, hbehind, split_cons] at hsecond
              obtain rfl := Option.some.inj hsecond
              rw [Ne, kind_eq_blank_iff, hrest d rfl]
              exact Bool.false_ne_true
      | succ n => exact ih hfirst hsecond

end Lexeme

namespace Token

/-- A scan at the end of some lexemes takes the next one. -/
theorem scanAt?_eq (s : String) (n : Nat) :
    scanAt? s (utf8Len (((Lexeme.split s.toList).take n).flatMap (·.source))) =
      some
      (((Lexeme.split s.toList)[n]?.getD ⟨Token.ending, []⟩).token,
        utf8Len
          (((Lexeme.split s.toList).take (n + 1)).flatMap (·.source))) := by
  let lexemes := Lexeme.split s.toList
  have happend := Lexeme.eq_flatMap_take_append_drop s.toList n
  have hbehind := Text.behind?_eq_some_iff.mpr ⟨_, happend, rfl⟩
  have hnext : (Lexeme.next ((lexemes.drop n).flatMap (·.source))).1 =
      lexemes[n]?.getD ⟨Token.ending, []⟩ := by
    rw [Lexeme.next_fst, Lexeme.split_flatMap_drop, List.head?_drop]
  have hoffset : utf8Len ((lexemes.take n).flatMap (·.source)) +
      utf8Len (lexemes[n]?.getD ⟨Token.ending, []⟩).source =
      utf8Len ((lexemes.take (n + 1)).flatMap (·.source)) := by
    rw [List.take_add_one, List.flatMap_append, String.utf8Len_append]
    cases lexemes[n]? <;> simp
  rw [scanAt?, hbehind, Option.map_some, hnext]
  exact congrArg (fun offset => some (_, offset)) hoffset

/-- The lexemes of a text up to a scan end where the scan ends. -/
theorem scan?_eq (s : String) (n : Nat) :
    scan? s n = some
      (((Lexeme.split s.toList)[n]?.getD ⟨Token.ending, []⟩).token,
        utf8Len
          (((Lexeme.split s.toList).take (n + 1)).flatMap (·.source))) := by
  induction n with
  | zero => exact scanAt?_eq s 0
  | succ n ih =>
      rw [scan?, ih]
      exact scanAt?_eq s (n + 1)

/-- The scans of a text take its lexemes one after the other, at most as many
as there are characters, and then the end again and again. The lexemes make up
the text: each stands for some characters in front of the later ones, so that
every scan moves on to the start of another character, and no blank comes right
behind another one. -/
theorem scans_cover (s : String) :
    (Lexeme.split s.toList).flatMap (·.source) = s.toList ∧
    (Lexeme.split s.toList).length ≤ s.length ∧
    (∀ (n : Nat) (lexeme : Lexeme), (Lexeme.split s.toList)[n]? = some lexeme →
      scan? s n = some (lexeme.token,
        utf8Len (((Lexeme.split s.toList).take n).flatMap (·.source) ++
          lexeme.source)) ∧
      lexeme.StandsFor (((Lexeme.split s.toList).drop (n + 1)).flatMap
        (·.source))) ∧
    (∀ n, (Lexeme.split s.toList).length ≤ n →
      scan? s n = some (Token.ending, s.utf8ByteSize)) ∧
    (∀ n token offset, scan? s n = some (token, offset) →
      String.Pos.Raw.IsValid s ⟨offset⟩) ∧
    ∀ n first second, scan? s n = some first → scan? s (n + 1) = some second →
      first.1.kind = .blank → second.1.kind ≠ .blank := by
  refine ⟨Lexeme.flatMap_source_split _, Lexeme.length_split_le _,
    fun n lexeme hlexeme => ⟨?_, Lexeme.standsFor_getElem? hlexeme⟩,
    fun n hn => ?_, fun n token offset hscan => ?_,
    fun n first second hfirst hsecond hblank => ?_⟩
  · rw [scan?_eq, List.take_add_one, hlexeme, List.flatMap_append]
    simp
  · rw [scan?_eq, List.getElem?_eq_none hn, List.take_of_length_le (by omega),
      Lexeme.flatMap_source_split, String.utf8Len_toList]
    rfl
  · rw [scan?_eq] at hscan
    obtain ⟨-, rfl⟩ := Prod.mk.inj (Option.some.inj hscan)
    exact Text.isValid_utf8Len
      (Lexeme.eq_flatMap_take_append_drop s.toList (n + 1))
  · rw [scan?_eq] at hfirst hsecond
    obtain rfl := Option.some.inj hfirst
    obtain rfl := Option.some.inj hsecond
    cases hlast : (Lexeme.split s.toList)[n]? with
    | none => simp [hlast, ending] at hblank
    | some lexeme =>
        cases hnext : (Lexeme.split s.toList)[n + 1]? with
        | none => exact TokenKind.noConfusion
        | some other =>
            simp only [hlast, Option.getD_some] at hblank
            exact Lexeme.not_blank_of_blank hlast hnext hblank

open Lexeme in
theorem split_openQuote : split "ü 'a".toList =
    [plain .illegal ['ü'], plain .blank [' '],
      ⟨⟨.illegal, "a"⟩, ['\'', 'a']⟩] := by
  have hchars : "ü 'a".toList = ['ü', ' ', '\'', 'a'] := by decide
  rw [hchars, split_cons]
  change plain .illegal ['ü'] :: split [' ', '\'', 'a'] = _
  rw [split_cons]
  change plain .illegal ['ü'] :: plain .blank [' '] :: split ['\'', 'a'] = _
  rw [split_cons]
  change _ :: _ :: _ :: split [] = _
  rw [split]
  rfl

/-- A letter of two bytes that begins no token, a blank, and a quote that
nothing closes. -/
theorem scans_cover_openQuote :
    (Lexeme.split "ü 'a".toList)[2]? = some ⟨⟨.illegal, "a"⟩, ['\'', 'a']⟩ ∧
    (Lexeme.split "ü 'a".toList).length = 3 ∧
    scan? "ü 'a" 2 = some (⟨.illegal, "a"⟩, 5) ∧
      scan? "ü 'a" 3 = some (ending, 5) ∧
    String.Pos.Raw.IsValid "ü 'a" ⟨5⟩ := by
  have hlexeme : (Lexeme.split "ü 'a".toList)[2]? =
      some ⟨⟨.illegal, "a"⟩, ['\'', 'a']⟩ := by
    rw [split_openQuote]
    rfl
  have hlength : (Lexeme.split "ü 'a".toList).length = 3 := by
    rw [split_openQuote]
    rfl
  obtain ⟨-, -, htaken, hended, hvalid, -⟩ := scans_cover "ü 'a"
  have hscan : scan? "ü 'a" 2 = some (⟨.illegal, "a"⟩, 5) := by
    rw [(htaken 2 _ hlexeme).1, split_openQuote]
    rfl
  exact ⟨hlexeme, hlength, hscan, hended 3 hlength.le, hvalid 2 _ 5 hscan⟩

end Token

end ReportQuery
