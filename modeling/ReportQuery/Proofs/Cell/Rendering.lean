import ReportQuery.Cell.Cast
import ReportQuery.Proofs.Calendar.ReadBack

/-!
# The text of a cell is a raw value of it

A cell that was read is read again from its text, with its value and its marks.
The texts of whole numbers, days and moments look like none of the words that
mark a raw value, since they end with a digit. A text behind the mark of a
bidding strategy has lost the blanks at its ends and loses no more, and a text
without marks is kept as it was.
-/

namespace ReportQuery

/-! ## Blanks at the ends -/

namespace Text

/-- No blank stands at either end. -/
structure Bare (cs : List Char) : Prop where
  first : ∀ c, cs.head? = some c → isBlank c = false
  last : ∀ c, cs.getLast? = some c → isBlank c = false

variable {cs : List Char}

theorem trimStart_eq_self (h : ∀ c, cs.head? = some c → isBlank c = false) :
    trimStart cs = cs := by
  cases cs with
  | nil => rfl
  | cons c tail => exact trimStart_of_not_blank (h c rfl)

theorem not_isBlank_of_head?_trimStart {c : Char}
    (h : (trimStart cs).head? = some c) : isBlank c = false := by
  have hhead := List.head?_dropWhile_not isBlank cs
  rw [trimStart] at h
  rw [h] at hhead
  exact hhead

theorem trimEnd_eq (cs : List Char) :
    trimEnd cs = (trimStart cs.reverse).reverse := rfl

theorem trimEnd_prefix (cs : List Char) : trimEnd cs <+: cs := by
  rw [trimEnd_eq, ← List.reverse_suffix, List.reverse_reverse]
  exact List.dropWhile_suffix isBlank

theorem Bare.trim_eq (h : Bare cs) : trim cs = cs := by
  rw [trim, trimStart_eq_self h.first, trimEnd_eq, trimStart_eq_self,
    List.reverse_reverse]
  intro c hc
  rw [List.head?_reverse] at hc
  exact h.last c hc

theorem bare_trim (cs : List Char) : Bare (trim cs) := by
  constructor
  · intro c hc
    obtain ⟨tail, htail⟩ := trimEnd_prefix (trimStart cs)
    have hfirst : (trimStart cs).head? = some c := by
      rw [← htail, List.head?_append, ← trim, hc]
      rfl
    exact not_isBlank_of_head?_trimStart hfirst
  · intro c hc
    rw [trim, trimEnd_eq, List.getLast?_reverse] at hc
    exact not_isBlank_of_head?_trimStart hc

end Text

namespace Cell

open Calendar Text

/-! ## Marks -/

/-- The payload is the whole text where there is no mark, and has no blanks at
its ends behind one. -/
def Raw.PayloadOf (raw : String) : Raw → Prop
  | .plain payload => payload = raw
  | .auto payload => payload ≠ "" ∧ Bare payload.toList
  | _ => True

theorem payloadOf_ofText (raw : String) : (Raw.ofText raw).PayloadOf raw := by
  unfold Raw.ofText
  split
  · trivial
  · dsimp only
    split
    · trivial
    · split
      · trivial
      · split
        · next rest _ =>
            split
            · trivial
            · next hempty =>
                refine ⟨by simpa using hempty, ?_⟩
                rw [String.toList_ofList]
                exact bare_trim rest
        · rfl

theorem trimmed_eq {s : String} (h : Bare s.toList) : Text.trimmed s = s := by
  rw [Text.trimmed, h.trim_eq, String.ofList_toList]

theorem ofText_auto {payload : String} (hne : payload ≠ "")
    (hbare : Bare payload.toList) :
    Raw.ofText ("auto: " ++ payload) = .auto payload := by
  have hchars : ("auto: " ++ payload).toList =
      "auto: ".toList ++ payload.toList :=
    String.toList_append
  have hpayload : payload.toList ≠ [] := mt String.toList_eq_nil_iff.mp hne
  have hwhole : Bare ("auto: " ++ payload).toList := by
    rw [hchars]
    constructor
    · intro c hc
      obtain rfl : 'a' = c := by simpa using hc
      rfl
    · intro c hc
      rw [List.getLast?_append_of_ne_nil _ hpayload] at hc
      exact hbare.last c hc
  have hword : ∀ word : String, word.toList.take 6 ≠ "auto: ".toList →
      "auto: " ++ payload ≠ word := by
    rintro word hword rfl
    exact hword (by rw [hchars]; rfl)
  have hdrop : dropLeading? "auto: ".toList ("auto: " ++ payload).toList =
      some payload.toList :=
    dropLeading?_eq_some_iff.mpr hchars
  have hunset : meansUnset ("auto: " ++ payload) = false := by
    simp only [meansUnset, trimmed_eq hwhole, Bool.or_eq_false_iff,
      beq_eq_false_iff_ne]
    exact ⟨hword _ (by decide), hword _ (by decide)⟩
  simp only [Raw.ofText, hunset, Bool.false_eq_true, if_false,
    trimmed_eq hwhole, if_neg (hword "Excluded" (by decide)),
    if_neg (hword "auto" (by decide)), hdrop, hbare.trim_eq,
    String.ofList_toList]
  rw [if_neg (by simpa using hne)]

/-! ## Figures -/

/-- A text that begins with a digit or a sign and ends with a digit. -/
structure IsFigure (cs : List Char) : Prop where
  first : ∃ c rest, cs = c :: rest ∧ (c.isDigit = true ∨ c = '-' ∨ c = '+')
  last : ∃ c, cs.getLast? = some c ∧ c.isDigit = true

theorem IsFigure.bare {cs : List Char} (h : IsFigure cs) : Bare cs := by
  obtain ⟨⟨first, rest, rfl, hfirst⟩, last, hlast, hdigit⟩ := h
  constructor
  · intro c hc
    obtain rfl := Option.some.inj hc
    rcases hfirst with hdigit | rfl | rfl
    · exact not_isBlank_of_isDigit hdigit
    · rfl
    · rfl
  · intro c hc
    obtain rfl := Option.some.inj (hlast.symm.trans hc)
    exact not_isBlank_of_isDigit hdigit

/-- No mark ends with a digit, and the one that stands before a value begins
with a letter. -/
theorem ofText_figure {s : String} (h : IsFigure s.toList) :
    Raw.ofText s = .plain s := by
  obtain ⟨⟨first, rest, hchars, hfirst⟩, last, hlast, hdigit⟩ := id h
  have hword : ∀ word : String,
      (∀ c, word.toList.getLast? = some c → c.isDigit = false) → s ≠ word := by
    rintro word hword rfl
    simp [hword last hlast] at hdigit
  have hunset : meansUnset s = false := by
    simp only [meansUnset, trimmed_eq h.bare, Bool.or_eq_false_iff,
      beq_eq_false_iff_ne]
    exact ⟨hword _ (by simp [CellValue.unsetText]), hword _ (by simp)⟩
  have hdrop : dropLeading? "auto: ".toList s.toList = none := by
    rw [hchars]
    have ha : 'a' ≠ first := by
      rintro rfl
      simp at hfirst
    simp [dropLeading?, ha]
  simp only [Raw.ofText, hunset, Bool.false_eq_true, if_false,
    trimmed_eq h.bare, if_neg (hword "Excluded" (by simp)),
    if_neg (hword "auto" (by simp)), hdrop]

theorem isFigure_digits {cs : List Char} (hne : cs ≠ [])
    (h : ∀ c ∈ cs, c.isDigit = true) : IsFigure cs := by
  obtain ⟨c, rest, rfl⟩ := List.exists_cons_of_ne_nil hne
  exact ⟨⟨c, rest, rfl, .inl (h c List.mem_cons_self)⟩, _,
    List.getLast?_eq_some_getLast hne, h _ (List.getLast_mem hne)⟩

/-- What stands in front of digits ends with them. -/
theorem IsFigure.append {before digits : List Char} {c : Char}
    {rest : List Char} (hbefore : before = c :: rest)
    (hc : c.isDigit = true ∨ c = '-' ∨ c = '+') (h : IsFigure digits) :
    IsFigure (before ++ digits) := by
  obtain ⟨⟨d, tail, rfl, -⟩, last, hlast, hdigit⟩ := h
  refine ⟨⟨c, rest ++ d :: tail, by rw [hbefore, List.cons_append], hc⟩,
    last, ?_, hdigit⟩
  rw [List.getLast?_append_of_ne_nil _ (List.cons_ne_nil d tail), hlast]

theorem isFigure_ofInt (n : Int) : IsFigure (Numeral.ofInt n).toList := by
  have hdigits : ∀ m : Nat, IsFigure (Nat.toDigits 10 m) := fun m =>
    isFigure_digits Nat.toDigits_ne_nil (Numeral.all_isDigit_toDigits m)
  cases n with
  | ofNat m =>
      rw [Numeral.toList_ofInt_ofNat]
      exact hdigits m
  | negSucc m =>
      rw [Numeral.toList_ofInt_negSucc]
      change IsFigure (['-'] ++ Nat.toDigits 10 (m + 1))
      exact (hdigits (m + 1)).append rfl (.inr (.inl rfl))

theorem isFigure_padded (n : Nat) : IsFigure (Numeral.padded 2 n) := by
  obtain ⟨c, cs, hdigits, -⟩ := exists_padded 2 n
  exact isFigure_digits (by simp [hdigits]) (Numeral.all_isDigit_padded 2 n)

/-- A layout from the year to a number of two digits. -/
theorem isFigure_flatMap_write {m : Moment} {n : Nat} (last : LayoutPart)
    (hlast : last.write m = Numeral.padded 2 n) (middle : Calendar.Layout) :
    IsFigure ((LayoutPart.year :: middle ++ [last]).flatMap
      fun part : LayoutPart => part.write m) := by
  obtain ⟨c, rest, hyear, hc⟩ :
      ∃ c rest, yearText m.day.civil.year = c :: rest ∧
      (c.isDigit = true ∨ c = '-' ∨ c = '+') := by
    unfold yearText
    split
    · obtain ⟨c, cs, hdigits, hdigit⟩ := exists_padded 4 m.day.civil.year.toNat
      exact ⟨c, cs, hdigits, .inl hdigit⟩
    · split
      · exact ⟨_, _, rfl, .inr (.inl rfl)⟩
      · exact ⟨_, _, rfl, .inr (.inr rfl)⟩
  rw [List.flatMap_append, List.flatMap_cons, List.flatMap_singleton, hlast]
  have hbefore : LayoutPart.year.write m ++ middle.flatMap
      (fun part => part.write m) =
      c :: (rest ++ middle.flatMap fun part => part.write m) := by
    rw [LayoutPart.write, hyear, List.cons_append]
  exact (isFigure_padded n).append hbefore hc

theorem isFigure_write (style : DateStyle) (m : Moment) :
    IsFigure (style.layout.write m).toList := by
  rw [Calendar.Layout.write, String.toList_ofList]
  cases style with
  | day => exact isFigure_flatMap_write .day rfl [.mark '-', .month, .mark '-']
  | moment =>
      exact isFigure_flatMap_write .second rfl
        [.mark '/', .month, .mark '/', .day, .space, .hour, .mark ':',
          .minute, .mark ':']

/-! ## Values -/

theorem separated_layout (style : DateStyle) : style.layout.Separated := by
  cases style <;> decide

/-- A value of a kind is set, and it is read from its text as itself. -/
structure ReadsBack (kind : Kind) (value : CellValue) : Prop where
  set : value.isUnset = false
  figure : IsFigure value.render.toList
  read : readValue? value.render kind = some value

theorem readsBack_of_readInt? {payload : String} {value : CellValue}
    (h : readInt? payload = some value) : ReadsBack .int value := by
  obtain ⟨n, hn, rfl⟩ := Option.map_eq_some_iff.mp h
  have hfigure := isFigure_ofInt n
  refine ⟨rfl, hfigure, ?_⟩
  rw [Numeral.signedWord?, Option.filter_eq_some_iff] at hn
  change readInt? (Numeral.ofInt n) = _
  rw [readInt?, hfigure.bare.trim_eq, Numeral.signedWord?,
    Numeral.integer?_ofInt, Option.filter_some, if_pos hn.2]
  rfl

theorem readsBack_of_readDate? {payload : String} {style : DateStyle}
    {value : CellValue} {kind : Kind}
    (hkind : ∀ payload, readValue? payload kind = readDate? payload style)
    (h : readDate? payload style = some value) : ReadsBack kind value := by
  obtain ⟨m, hm, rfl⟩ := Option.map_eq_some_iff.mp h
  have hfigure := isFigure_write style m
  refine ⟨rfl, hfigure, ?_⟩
  rw [hkind]
  change readDate? (style.layout.write m) style = _
  rw [readDate?, trimmed_eq hfigure.bare,
    Calendar.Layout.readMoment?_write (separated_layout style) hm]
  rfl

theorem readsBack_of_readValue? {payload : String} {kind : Kind}
    {value : CellValue} (hdouble : kind ≠ .double) (htext : kind ≠ .text)
    (h : readValue? payload kind = some value) : ReadsBack kind value := by
  cases kind with
  | int => exact readsBack_of_readInt? h
  | double => exact absurd rfl hdouble
  | date => exact readsBack_of_readDate? (fun _ => rfl) h
  | dateTime => exact readsBack_of_readDate? (fun _ => rfl) h
  | text => exact absurd rfl htext

/-! ## Cells -/

variable {raw tag : String} {kind : Kind} {value : CellValue} {cell : Cell}

/-- A value without marks is read from its text as such. -/
theorem cast?_render_plain (hkind : kind ≠ .double)
    (hmark : Raw.ofText raw = .plain raw)
    (h : readValue? raw kind = some value) :
    cast? (Cell.render { value }) kind = some { value } := by
  have hcast : Raw.ofText value.render = .plain value.render ∧
      readValue? value.render kind = some value := by
    by_cases htext : kind = .text
    · subst htext
      obtain rfl := Option.some.inj h
      exact ⟨hmark, h⟩
    · have hvalue := readsBack_of_readValue? hkind htext h
      exact ⟨ofText_figure hvalue.figure, hvalue.read⟩
  change cast? value.render kind = _
  rw [cast?, hcast.1]
  simp only
  rw [hcast.2]
  rfl

/-- A value that a bidding strategy set is read from its text as such. -/
theorem cast?_render_auto {payload : String} (hkind : kind ≠ .double)
    (hne : payload ≠ "") (hbare : Bare payload.toList)
    (h : readValue? payload kind = some value) :
    cast? (Cell.render { value, auto := true }) kind =
      some { value, auto := true } := by
  have hcast : value.isUnset = false ∧
      Raw.ofText ("auto: " ++ value.render) = .auto value.render ∧
      readValue? value.render kind = some value := by
    by_cases htext : kind = .text
    · subst htext
      obtain rfl := Option.some.inj h
      exact ⟨rfl, ofText_auto hne hbare, h⟩
    · have hvalue := readsBack_of_readValue? hkind htext h
      refine ⟨hvalue.set, ofText_auto ?_ hvalue.figure.bare, hvalue.read⟩
      intro hempty
      obtain ⟨c, rest, hchars, -⟩ := hvalue.figure.first
      simp [hempty] at hchars
  obtain ⟨hset, hmark, hread⟩ := hcast
  have hrender : Cell.render { value, auto := true } =
    "auto: " ++ value.render := by
    simp [Cell.render, Cell.isUnset, hset]
  rw [hrender, cast?, hmark]
  simp only
  rw [hread]
  rfl

theorem cast?_render (hkind : kind ≠ .double) (h : cast? raw kind = some cell) :
    cast? cell.render kind = some cell := by
  have hpayload := payloadOf_ofText raw
  unfold cast? at h
  cases hmark : Raw.ofText raw with
  | unset =>
      rw [hmark] at h
      obtain rfl := Option.some.inj h
      cases kind <;> rfl
  | excluded =>
      rw [hmark] at h
      obtain rfl := Option.some.inj h
      cases kind <;> rfl
  | autoAlone =>
      rw [hmark] at h
      obtain rfl := Option.some.inj h
      cases kind <;> rfl
  | plain payload =>
      rw [hmark] at h hpayload
      obtain rfl : payload = raw := hpayload
      obtain ⟨value, hvalue, rfl⟩ := Option.map_eq_some_iff.mp h
      exact cast?_render_plain hkind hmark hvalue
  | auto payload =>
      rw [hmark] at h hpayload
      obtain ⟨hne, hbare⟩ := hpayload
      obtain ⟨value, hvalue, rfl⟩ := Option.map_eq_some_iff.mp h
      exact cast?_render_auto hkind hne hbare hvalue

/-- Under every type but DOUBLE a cell that was cast is cast again from its
text. -/
theorem cast_render (htag : Kind.ofTag tag ≠ .double)
    (h : cast raw tag = .ok cell) : cast cell.render tag = .ok cell := by
  unfold cast at h
  split at h
  · next found hfound =>
      obtain rfl := Except.ok.inj h
      rw [cast, cast?_render htag hfound]
  · simp at h

/-- A leap second, with blanks and the mark of a bidding strategy. -/
theorem cast_render_leapSecond :
    Kind.ofTag "DateTime" ≠ .double ∧
      ∃ cell, cast "auto:  2016/12/31   23:59:60 " "DateTime" = .ok cell ∧
        cell.render = "auto: 2016/12/31 23:59:60" ∧ cell.auto = true ∧
        cast "auto: 2016/12/31 23:59:60" "DateTime" = .ok cell := by
  have htag : Kind.ofTag "DateTime" ≠ .double := by decide +kernel
  have hrender : (cast "auto:  2016/12/31   23:59:60 " "DateTime").toOption.map
      (fun cell => (cell.render, cell.auto)) =
      some ("auto: 2016/12/31 23:59:60", true) := by
    decide +kernel
  cases hcell : cast "auto:  2016/12/31   23:59:60 " "DateTime" with
  | error error => simp [hcell, Except.toOption] at hrender
  | ok cell =>
      rw [hcell] at hrender
      obtain ⟨htext, hauto⟩ := Prod.mk.inj (Option.some.inj hrender)
      have hagain := cast_render htag hcell
      rw [htext] at hagain
      exact ⟨htag, cell, rfl, htext, hauto, hagain⟩

end Cell

end ReportQuery
