import ReportQuery.Catalog.Document
import ReportQuery.Proofs.Json.RoundTrip
import ReportQuery.Settings.Document

/-!
# Catalog documents and settings documents

No text is both. A catalog is written as an object or as an array that goes on
after the text of its version, and a settings document starts a line neither
with a brace nor with a bracket, a quoted name and a comma. What one reader
takes for the end of a quoted text is the end for the other one. A file that
holds a catalog can therefore lie where settings are looked for without giving
any.
-/

namespace ReportQuery

/-! ## How a catalog document begins -/

namespace JsonValue

theorem number?_eq_some {negative : Bool} {cs rest : List Char}
    {value : JsonValue} (h : number? negative cs = some (value, rest)) :
    (∃ n, value = integer n) ∨ value = fraction ∨ value = unreadable := by
  simp only [number?, Option.bind_eq_bind, Option.bind_eq_some_iff] at h
  obtain ⟨⟨whole, more⟩, -, ⟨places, more'⟩, -, ⟨exponent, last⟩, -, hvalue⟩ :=
    h
  split at hvalue
  · obtain ⟨rfl, -⟩ := Prod.mk.inj (Option.some.inj hvalue)
    exact .inl ⟨_, rfl⟩
  · obtain ⟨rfl, -⟩ := Prod.mk.inj (Option.some.inj hvalue)
    simp only [scaledNumber]
    split
    · exact .inr (.inr rfl)
    · exact .inr (.inl rfl)

/-- How a text, an array and an object begin. -/
def BeginsAs (cs rest : List Char) : JsonValue → Prop
  | text _ => ∃ fuel body content, skipSpaces cs = '"' :: body ∧
      stringBody? fuel body = some (content, rest)
  | array items => ∃ fuel inner, skipSpaces cs = '[' :: inner ∧
      (items = [] ∨ items? fuel inner = some (items, rest))
  | object _ => ∃ inner, skipSpaces cs = '\x7b' :: inner
  | _ => True

theorem beginsAs_of_value? {fuel : Nat} {cs rest : List Char}
    {value : JsonValue} (h : value? fuel cs = some (value, rest)) :
    value.BeginsAs cs rest := by
  have hnumber : ∀ {negative : Bool} {ds : List Char},
      number? negative ds = some (value, rest) → value.BeginsAs cs rest := by
    intro negative ds hvalue
    rcases number?_eq_some hvalue with ⟨n, rfl⟩ | rfl | rfl <;> exact trivial
  cases fuel with
  | zero => simp [value?] at h
  | succ fuel =>
      rw [value?] at h
      split at h
      case h_1 | h_2 | h_3 =>
        obtain ⟨more, -, hvalue⟩ := Option.map_eq_some_iff.mp h
        obtain ⟨rfl, -⟩ := Prod.mk.inj hvalue
        exact trivial
      · next body hquote =>
          obtain ⟨⟨found, last⟩, hstring, hvalue⟩ := Option.map_eq_some_iff.mp h
          obtain ⟨⟨content, left⟩, hbody, hfound⟩ :=
            Option.map_eq_some_iff.mp hstring
          obtain ⟨rfl, rfl⟩ := Prod.mk.inj hfound
          obtain ⟨rfl, rfl⟩ := Prod.mk.inj hvalue
          cases content with
          | none => exact trivial
          | some content => exact ⟨fuel, body, some content, hquote, hbody⟩
      · next inner hbracket =>
          split at h
          · obtain ⟨rfl, -⟩ := Prod.mk.inj (Option.some.inj h)
            exact ⟨fuel, inner, hbracket, .inl rfl⟩
          · obtain ⟨⟨items, last⟩, hitems, hvalue⟩ :=
              Option.map_eq_some_iff.mp h
            obtain ⟨rfl, rfl⟩ := Prod.mk.inj hvalue
            rw [items?_skipSpaces] at hitems
            exact ⟨fuel, inner, hbracket, .inr hitems⟩
      · next inner hbrace =>
          split at h
          · obtain ⟨rfl, -⟩ := Prod.mk.inj (Option.some.inj h)
            exact ⟨inner, hbrace⟩
          · obtain ⟨⟨members, last⟩, -, hvalue⟩ := Option.map_eq_some_iff.mp h
            obtain ⟨rfl, -⟩ := Prod.mk.inj hvalue
            rw [ofMembers]
            split
            · exact ⟨inner, hbrace⟩
            · exact trivial
      · exact hnumber h
      · exact hnumber h

end JsonValue

open JsonValue

/-- A catalog is an object, or an array of the text of its version and its
tables. -/
theorem Catalog.form_of_ofJson? {value : JsonValue} {catalog : Catalog}
    (h : ofJson? value = some catalog) :
    (∃ members, value = object members) ∨
      ∃ s tables, value = array [text s, tables] := by
  cases value with
  | object members => exact .inl ⟨members, rfl⟩
  | array items =>
      right
      match items with
      | [] => simp [ofJson?, record?, required] at h
      | [version] => simp [ofJson?, record?, required] at h
      | [version, tables] =>
          cases version with
          | text s => exact ⟨s, tables, rfl⟩
          | _ => simp [ofJson?, record?, required, readText?] at h
      | version :: tables :: other :: more => simp [ofJson?, record?] at h
  | _ => simp [ofJson?, record?] at h

/-- A document that starts with a brace, or with a bracket, a text and a
comma. -/
inductive OpensCatalog (cs : List Char) : Prop where
  | brace (inner : List Char) (opening : skipSpaces cs = '\x7b' :: inner)
  | bracket (inner body after more : List Char) (fuel : Nat)
      (content : Option (List Char))
      (opening : skipSpaces cs = '[' :: inner) (quote : skipSpaces inner =
        '"' :: body)
      (version : stringBody? fuel body = some (content, after))
      (comma : skipSpaces after = ',' :: more)

theorem opensCatalog_of_ofDocument? {document : String} {catalog : Catalog}
    (h : Catalog.ofDocument? document = some catalog) :
    OpensCatalog document.toList := by
  obtain ⟨value, hvalue, hcatalog⟩ := Option.bind_eq_some_iff.mp h
  obtain ⟨rest, hread⟩ : ∃ rest,
      value? (2 * document.length + 2) document.toList =
      some (value, rest) := by
    rw [ofText?] at hvalue
    split at hvalue
    · next found rest hread =>
        split at hvalue
        · obtain rfl := Option.some.inj hvalue
          exact ⟨rest, hread⟩
        · simp at hvalue
    · simp at hvalue
  have hbegins := beginsAs_of_value? hread
  rcases Catalog.form_of_ofJson? hcatalog with ⟨members, rfl⟩ | ⟨s, tables, rfl⟩
  · obtain ⟨inner, hbrace⟩ := hbegins
    exact .brace inner hbrace
  · obtain ⟨fuel, inner, hbracket, hitems⟩ := hbegins
    have hitems := hitems.resolve_left (by simp)
    cases fuel with
    | zero => simp [items?] at hitems
    | succ fuel =>
        simp only [items?, Option.bind_eq_bind,
          Option.bind_eq_some_iff] at hitems
        obtain ⟨⟨first, after⟩, hfirst, hitems⟩ := hitems
        split at hitems
        · next more hcomma =>
            obtain ⟨⟨others, last⟩, -, hpair⟩ :=
              Option.bind_eq_some_iff.mp hitems
            obtain ⟨hcons, -⟩ := Prod.mk.inj (Option.some.inj hpair)
            obtain ⟨rfl, -⟩ := List.cons.inj hcons
            obtain ⟨fuel', body, content, hquote, hversion⟩ :=
              beginsAs_of_value? hfirst
            exact .bracket inner body after more fuel' content hbracket hquote
              hversion hcomma
        · simp at hitems
        · simp at hitems

/-! ## How settings lines begin -/

namespace Toml

theorem not_isSpace_of_skipSpaces {cs rest : List Char} {c : Char}
    (h : skipSpaces cs = c :: rest) : isSpace c = false := by
  have hhead := List.head?_dropWhile_not isSpace cs
  rw [skipSpaces] at h
  simpa [h] using hhead

/-- Inside a line there are fewer kinds of blanks than in a document of the
other kind. -/
theorem json_skipSpaces_skipSpaces (cs : List Char) :
    JsonValue.skipSpaces (skipSpaces cs) = JsonValue.skipSpaces cs := by
  induction cs with
  | nil => rfl
  | cons c cs ih =>
      by_cases hc : isSpace c = true
      · have hjson : JsonValue.isSpace c = true := by
          simp only [isSpace, JsonValue.isSpace, Bool.or_eq_true] at hc ⊢
          exact .inl (hc.elim (fun h => .inl (.inl h)) .inr)
        simpa [skipSpaces, JsonValue.skipSpaces, hc, hjson] using ih
      · simp [skipSpaces, hc]

/-- Behind the blanks inside a line there is the same as behind all blanks, or
a line ends. -/
theorem skipSpaces_cases {cs inner : List Char} {c : Char}
    (h : JsonValue.skipSpaces cs = c :: inner) :
    ∃ d ds, skipSpaces cs = d :: ds ∧
      JsonValue.skipSpaces (d :: ds) = c :: inner ∧
      (d = '\n' ∨ d = '\r' ∨ d = c ∧ ds = inner) := by
  rw [← json_skipSpaces_skipSpaces] at h
  cases hskip : skipSpaces cs with
  | nil => simp [hskip, JsonValue.skipSpaces] at h
  | cons d ds =>
      rw [hskip] at h
      have hspace := not_isSpace_of_skipSpaces hskip
      refine ⟨d, ds, rfl, h, ?_⟩
      by_cases hjson : JsonValue.isSpace d = true
      · simp only [isSpace, Bool.or_eq_false_iff, beq_eq_false_iff_ne] at hspace
        simp only [JsonValue.isSpace, Bool.or_eq_true, beq_iff_eq] at hjson
        tauto
      · rw [skipSpaces_of_not_space (by simpa using hjson)] at h
        obtain ⟨rfl, rfl⟩ := List.cons.inj h
        exact .inr (.inr ⟨rfl, rfl⟩)

/-- A key starts with a quote or with a character that needs none. -/
theorem keyPart?_eq_none {c : Char} {cs : List Char} (hbare : isBare c = false)
    (hquotes : c ≠ '"' ∧ c ≠ '\'') : keyPart? (c :: cs) = none := by
  unfold keyPart?
  split
  · next heq => exact absurd (List.cons.inj heq).1 hquotes.1
  · next heq => exact absurd (List.cons.inj heq).1 hquotes.2
  · simp [hbare]

theorem line?_eq_none {c : Char} {cs : List Char} (hbare : isBare c = false)
    (hspace : isSpace c = false)
    (hother : c ≠ '"' ∧ c ≠ '\'' ∧ c ≠ '[') (bound : Nat) :
    line? bound (c :: cs) = none := by
  obtain ⟨hdouble, hsingle, hbracket⟩ := hother
  have hskip : skipSpaces (c :: cs) = c :: cs := by simp [skipSpaces, hspace]
  have hkey : key? greatestDepth (c :: cs) = none := by
    rw [greatestDepth, key?, hskip, keyPart?_eq_none hbare ⟨hdouble, hsingle⟩]
    rfl
  unfold line?
  split
  · next heq => exact absurd (List.cons.inj heq).1 hbracket
  · next heq => exact absurd (List.cons.inj heq).1 hbracket
  · rw [hkey]
    rfl

/-- The end of a line is found behind the blanks inside it, or the line says
something. -/
theorem endOfLine?_of_skipSpaces {cs : List Char} {c : Char} {rest : List Char}
    (h : skipSpaces cs = c :: rest) (hcomment : c ≠ '#') :
    endOfLine? cs = lineBreak? (c :: rest) := by
  have hskip : skipComment (c :: rest) = c :: rest := by
    unfold skipComment
    split
    · next heq => exact absurd (List.cons.inj heq).1 hcomment
    · rfl
  rw [endOfLine?, h, hskip]

theorem lines?_of_endOfLine? {bound fuel : Nat} {cs rest : List Char}
    (hne : cs ≠ []) (h : endOfLine? cs = some rest) :
    lines? bound (fuel + 1) cs = lines? bound fuel rest := by
  cases cs with
  | nil => exact absurd rfl hne
  | cons c cs =>
      rw [lines?, h]
      exact List.cons_ne_nil c cs

theorem lines?_of_line?_eq_none {bound fuel : Nat} {cs : List Char}
    (h : endOfLine? cs = none) (hline : line? bound (skipSpaces cs) = none) :
    lines? bound (fuel + 1) cs = none := by
  cases cs with
  | nil => simp [endOfLine?, skipSpaces, skipComment] at h
  | cons c cs =>
      rw [lines?, h, hline]
      · rfl
      · exact List.cons_ne_nil c cs

/-- What stands behind a line break that a carriage return opens is blank for
the other reader. -/
theorem skipSpaces_of_lineBreak? {ds rest : List Char}
    (h : lineBreak? ('\r' :: ds) = some rest) :
    JsonValue.skipSpaces rest = JsonValue.skipSpaces ds := by
  unfold lineBreak? at h
  split at h
  · next heq => exact absurd (List.cons.inj heq).1 (by decide)
  · next heq =>
      obtain rfl := Option.some.inj h
      rw [(List.cons.inj heq).2]
      rfl
  · simp at h

/-- Lines of nothing but blanks in front of what is no line do not make a
document. -/
theorem lines?_eq_none {bound : Nat} {c : Char} {inner : List Char}
    (hc : c = '\x7b' ∨ c = '[') (hline : line? bound (c :: inner) = none)
    (fuel : Nat) {cs : List Char}
    (hopens : JsonValue.skipSpaces cs = c :: inner) :
    lines? bound fuel cs = none := by
  induction fuel generalizing cs with
  | zero =>
      cases cs with
      | nil => simp [JsonValue.skipSpaces] at hopens
      | cons d ds => rfl
  | succ fuel ih =>
      have hne : cs ≠ [] := by
        rintro rfl
        simp [JsonValue.skipSpaces] at hopens
      obtain ⟨d, ds, hskip, hsame, rfl | rfl | ⟨rfl, rfl⟩⟩ :=
        skipSpaces_cases hopens
      · rw [lines?_of_endOfLine? hne
          (endOfLine?_of_skipSpaces hskip (by decide))]
        exact ih hsame
      · cases hbreak : lineBreak? ('\r' :: ds) with
        | some rest =>
            rw [lines?_of_endOfLine? hne
              ((endOfLine?_of_skipSpaces hskip (by decide)).trans hbreak)]
            exact ih ((skipSpaces_of_lineBreak? hbreak).trans hsame)
        | none =>
            refine lines?_of_line?_eq_none
              ((endOfLine?_of_skipSpaces hskip (by decide)).trans hbreak) ?_
            rw [hskip]
            exact line?_eq_none (by decide) (by decide) (by decide) bound
      · have hcomment : d ≠ '#' := by
          rintro rfl
          simp at hc
        refine lines?_of_line?_eq_none ?_ (by rwa [hskip])
        rw [endOfLine?_of_skipSpaces hskip hcomment]
        rcases hc with rfl | rfl <;> rfl

/-! ## Names between quotes -/

/-- A numeric escape takes four digits for either reader, unless it is half a
surrogate pair. -/
theorem rest_eq_of_numberedChar? {cs rest rest' : List Char} {c : Char}
    {d : Option Char} (h : numberedChar? 4 cs = some (c, rest))
    (hjson : unicodeEscape? cs = some (d, rest')) : rest' = rest := by
  simp only [numberedChar?, Option.bind_eq_bind, Option.bind_eq_some_iff] at h
  obtain ⟨n, hdigits, hchar⟩ := h
  split at hchar
  · next hvalid =>
      obtain ⟨hlength, hvalid⟩ := hvalid
      obtain ⟨-, rfl⟩ := Prod.mk.inj (Option.some.inj hchar)
      match cs, hlength with
      | a :: b :: e :: f :: more, _ =>
          have hhex : fourHex? (a :: b :: e :: f :: more) = some (n, more) := by
            rw [fourHex?]
            exact Option.map_eq_some_iff.mpr ⟨n, hdigits, rfl⟩
          have hrange : ¬ (0xD800 ≤ n ∧ n ≤ 0xDFFF) := by
            simp only [Nat.isValidChar] at hvalid
            omega
          have htrail : isTrailSurrogate n = false := by
            simp only [isTrailSurrogate, Bool.and_eq_false_iff,
              decide_eq_false_iff_not]
            omega
          have hlead : isLeadSurrogate n = false := by
            simp only [isLeadSurrogate, Bool.and_eq_false_iff,
              decide_eq_false_iff_not]
            omega
          simp only [unicodeEscape?, hhex, htrail, hlead, Option.bind_eq_bind,
            Option.bind_some, Bool.false_eq_true, if_false, Option.some.injEq,
            Prod.mk.injEq] at hjson
          exact hjson.2.symm
  · simp at hchar

theorem rest_eq_of_stringChar?_escape {c : Char} (hc : c ≠ 'u')
    {cs rest : List Char} {d : Option Char}
    (h : stringChar? ('\\' :: c :: cs) = some (d, rest)) : rest = cs := by
  have hescape : stringChar? ('\\' :: c :: cs) =
      (simpleEscape? c).map fun e => (some e, cs) := by
    rw [stringChar?]
    exact hc
  rw [hescape] at h
  obtain ⟨e, -, hpair⟩ := Option.map_eq_some_iff.mp h
  exact (Prod.mk.inj hpair).2.symm

theorem rest_eq_of_stringChar? {c : Char} (hc : c ≠ '\\') {cs rest : List Char}
    {d : Option Char} (h : stringChar? (c :: cs) = some (d, rest)) :
    rest = cs := by
  unfold stringChar? at h
  split at h
  · next heq => exact absurd (List.cons.inj heq).1 hc
  · next heq => exact absurd (List.cons.inj heq).1 hc
  · next heq =>
      obtain ⟨rfl, rfl⟩ := List.cons.inj heq
      split at h
      · simp at h
      · exact (Prod.mk.inj (Option.some.inj h)).2.symm
  · simp at h

/-- What is no closing quote is a character of the text, and the rest of the
text follows it. -/
theorem exists_of_stringBody? {c : Char} (hc : c ≠ '"') {fuel : Nat}
    {cs rest : List Char} {content : Option (List Char)}
    (h : stringBody? (fuel + 1) (c :: cs) = some (content, rest)) :
    ∃ d left content', stringChar? (c :: cs) = some (d, left) ∧
      stringBody? fuel left = some (content', rest) := by
  rw [stringBody?] at h
  · simp only [Option.bind_eq_bind, Option.bind_eq_some_iff] at h
    obtain ⟨⟨d, left⟩, hchar, ⟨content', last⟩, hbody, hpair⟩ := h
    obtain ⟨-, rfl⟩ := Prod.mk.inj (Option.some.inj hpair)
    exact ⟨d, left, content', hchar, hbody⟩
  · intro other heq
    exact hc (List.cons.inj heq).1

theorem rest_eq_of_escape? {cs rest rest' : List Char} {c : Char}
    {d : Option Char} (h : escape? cs = some (c, rest))
    (hjson : stringChar? ('\\' :: cs) = some (d, rest')) : rest' = rest := by
  unfold escape? at h
  split at h
  case h_8 => exact rest_eq_of_numberedChar? h hjson
  case h_9 => simp [stringChar?, simpleEscape?] at hjson
  case h_10 => simp at h
  all_goals
    obtain ⟨-, rfl⟩ := Prod.mk.inj (Option.some.inj h)
    exact rest_eq_of_stringChar?_escape (by decide) hjson

/-- A text between quotes ends at the same quote for either reader. -/
theorem rest_eq_of_lineBody? {fuel fuel' : Nat} {cs rest rest' name : List Char}
    {content : Option (List Char)}
    (h : lineBody? '"' fuel cs = some (name, rest))
    (hjson : stringBody? fuel' cs = some (content, rest')) : rest' = rest := by
  induction fuel generalizing cs fuel' name content with
  | zero => simp [lineBody?] at h
  | succ fuel ih =>
      cases fuel' with
      | zero => simp [stringBody?] at hjson
      | succ fuel' =>
          cases cs with
          | nil => simp [lineBody?] at h
          | cons c cs =>
              by_cases hquote : c = '"'
              · subst hquote
                simp only [lineBody?, if_true, Option.some.injEq,
                  Prod.mk.injEq] at h
                simp only [stringBody?, Option.some.injEq,
                  Prod.mk.injEq] at hjson
                exact hjson.2.symm.trans h.2
              · obtain ⟨d, left, content', hchar, hbody⟩ :=
                  exists_of_stringBody? hquote hjson
                rw [lineBody?, if_neg hquote] at h
                by_cases hescape : c = '\\'
                · subst hescape
                  simp only [and_self, if_true, Option.bind_eq_bind,
                    Option.bind_eq_some_iff] at h
                  obtain ⟨⟨e, left'⟩, hletter, ⟨name', last⟩, hname, hpair⟩ := h
                  obtain ⟨-, rfl⟩ := Prod.mk.inj (Option.some.inj hpair)
                  obtain rfl := rest_eq_of_escape? hletter hchar
                  exact ih hname hbody
                · rw [if_neg fun hboth => hescape hboth.1] at h
                  split at h
                  · obtain ⟨⟨name', last⟩, hname, hpair⟩ :=
                      Option.map_eq_some_iff.mp h
                    obtain ⟨-, rfl⟩ := Prod.mk.inj hpair
                    obtain rfl := rest_eq_of_stringChar? hescape hchar
                    exact ih hname hbody
                  · simp at h

/-- A key of a quoted name that a comma follows is no header. -/
theorem dropLeading?_of_key? {depth fuel : Nat}
    {inner body after more rest : List Char} {content : Option (List Char)}
    {key : List String} (hquote : JsonValue.skipSpaces inner = '"' :: body)
    (hversion : stringBody? fuel body = some (content, after))
    (hcomma : JsonValue.skipSpaces after = ',' :: more)
    (h : key? (depth + 1) inner = some (key, rest)) :
    Text.dropLeading? [']'] rest = none := by
  simp only [key?, Option.bind_eq_bind, Option.bind_eq_some_iff] at h
  obtain ⟨⟨name, left⟩, hpart, hrest⟩ := h
  obtain ⟨d, ds, hskip, -, hd⟩ := skipSpaces_cases hquote
  rw [hskip] at hpart
  have hleft : left = after := by
    rcases hd with rfl | rfl | ⟨rfl, rfl⟩
    · simp [keyPart?_eq_none (c := '\n') (by decide) (by decide)] at hpart
    · simp [keyPart?_eq_none (c := '\r') (by decide) (by decide)] at hpart
    · obtain ⟨⟨letters, last⟩, hbody, hpair⟩ := Option.map_eq_some_iff.mp hpart
      obtain ⟨-, rfl⟩ := Prod.mk.inj hpair
      exact (rest_eq_of_lineBody? hbody hversion).symm
  obtain ⟨e, es, hafter, -, he⟩ := skipSpaces_cases hcomma
  rw [hleft, hafter] at hrest
  have hletter : e ≠ '.' ∧ ']' ≠ e := by
    rcases he with rfl | rfl | ⟨rfl, -⟩ <;> decide
  split at hrest
  · next heq => exact absurd (List.cons.inj heq).1 hletter.1
  · obtain ⟨-, rfl⟩ := Prod.mk.inj (Option.some.inj hrest)
    rw [Text.dropLeading?, if_neg hletter.2]

theorem line?_bracket_eq_none {bound fuel : Nat}
    {inner body after more : List Char} {content : Option (List Char)}
    (hquote : JsonValue.skipSpaces inner = '"' :: body)
    (hversion : stringBody? fuel body = some (content, after))
    (hcomma : JsonValue.skipSpaces after = ',' :: more) :
    line? bound ('[' :: inner) = none := by
  unfold line?
  split
  · next heq =>
      rw [(List.cons.inj heq).2, skipSpaces_of_not_space (by decide)] at hquote
      exact absurd (List.cons.inj hquote).1 (by decide)
  · next heq =>
      obtain rfl := (List.cons.inj heq).2
      rw [header?, greatestDepth]
      cases hread : key? 79 inner with
      | none => rfl
      | some pair =>
          obtain ⟨key, rest⟩ := pair
          simp [dropLeading?_of_key? hquote hversion hcomma hread]
  · next hbracket => exact absurd rfl (hbracket inner)

end Toml

/-- A catalog document is not even a document of the kind that settings are
written in. -/
theorem Toml.ofText?_eq_none_of_ofDocument? {document : String}
    {catalog : Catalog} (h : Catalog.ofDocument? document = some catalog) :
    Toml.ofText? document = none := by
  have hlines : ∀ bound fuel, Toml.lines? bound fuel document.toList =
      none := by
    intro bound fuel
    cases opensCatalog_of_ofDocument? h with
    | brace inner hbrace =>
        refine lines?_eq_none (.inl rfl) ?_ fuel hbrace
        exact line?_eq_none (by decide) (by decide) (by decide) bound
    | bracket inner body after more fuel' content hbracket hquote
        hversion hcomma =>
        refine lines?_eq_none (.inr rfl) ?_ fuel hbracket
        exact line?_bracket_eq_none hquote hversion hcomma
  have hmark : Text.dropLeading? ['\uFEFF'] document.toList = none := by
    cases hdrop : Text.dropLeading? ['\uFEFF'] document.toList with
    | none => rfl
    | some rest =>
        have hopens := opensCatalog_of_ofDocument? h
        rw [Text.dropLeading?_eq_some_iff.mp hdrop] at hopens
        rcases hopens with ⟨inner, hbrace⟩ | ⟨inner, _, _, _, _, _, hbracket⟩
        · exact absurd (List.cons.inj hbrace).1 (by decide)
        · exact absurd (List.cons.inj hbracket).1 (by decide)
  simp [ofText?, hmark, hlines]

theorem Settings.ofDocument?_eq_none {document : String} {catalog : Catalog}
    (h : Catalog.ofDocument? document = some catalog)
    (environment : Environment) :
    Settings.ofDocument? environment document = none := by
  rw [ofDocument?, Toml.ofText?_eq_none_of_ofDocument? h, Option.bind_none]

end ReportQuery
