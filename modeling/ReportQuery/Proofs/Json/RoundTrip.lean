import ReportQuery.Json.Printer
import ReportQuery.Json.Reader
import ReportQuery.Proofs.Lists
import ReportQuery.Proofs.Numeral

/-!
# Reading written JSON

A written value is read in front of anything that does not go on with a number,
which is what a comma, a line break and the end of a text have in common. No
more steps are needed than the value has characters, so that the bound of the
reader never cuts a document short. Values that are written as `null` for want
of a better form are left out, and so are whole numbers of more than 64 bits.
-/

namespace ReportQuery.JsonValue

/-! ## Spaces -/

theorem skipSpaces_of_not_space {c : Char} (h : isSpace c = false)
    (cs : List Char) : skipSpaces (c :: cs) = c :: cs := by
  simp [skipSpaces, h]

theorem skipSpaces_append {spaces : List Char}
    (h : ∀ c ∈ spaces, isSpace c = true) (cs : List Char) :
    skipSpaces (spaces ++ cs) = skipSpaces cs := by
  induction spaces with
  | nil => rfl
  | cons c spaces ih =>
      have hc : isSpace c = true := h c List.mem_cons_self
      have hspaces := ih fun d hd => h d (List.mem_cons_of_mem c hd)
      simpa [skipSpaces, hc] using hspaces

theorem skipSpaces_skipSpaces (cs : List Char) :
    skipSpaces (skipSpaces cs) = skipSpaces cs := by
  induction cs with
  | nil => rfl
  | cons c cs ih =>
      by_cases hc : isSpace c = true
      · simpa [skipSpaces, hc] using ih
      · simp [skipSpaces, hc]

theorem toList_indent (level : Nat) :
    (indent level).toList = '\n' :: List.replicate (2 * level) ' ' := by
  simp [indent, Text.replicate]

theorem isSpace_of_mem_indent {level : Nat} {c : Char}
    (h : c ∈ (indent level).toList) : isSpace c = true := by
  rw [toList_indent, List.mem_cons, List.mem_replicate] at h
  rcases h with rfl | ⟨-, rfl⟩
  · rfl
  · rfl

theorem skipSpaces_indent (level : Nat) (cs : List Char) :
    skipSpaces ((indent level).toList ++ cs) = skipSpaces cs :=
  skipSpaces_append (fun _ h => isSpace_of_mem_indent h) cs

/-- Spaces in front of a value do not matter. -/
theorem value?_skipSpaces (fuel : Nat) (cs : List Char) :
    value? fuel (skipSpaces cs) = value? fuel cs := by
  cases fuel with
  | zero => rfl
  | succ fuel => rw [value?, value?, skipSpaces_skipSpaces]

theorem value?_of_skipSpaces_eq {cs ds : List Char}
    (h : skipSpaces cs = skipSpaces ds) (fuel : Nat) :
    value? fuel cs = value? fuel ds := by
  rw [← value?_skipSpaces, h, value?_skipSpaces]

theorem items?_skipSpaces (fuel : Nat) (cs : List Char) :
    items? fuel (skipSpaces cs) = items? fuel cs := by
  cases fuel with
  | zero => rfl
  | succ fuel => rw [items?, items?, value?_skipSpaces]

theorem members?_skipSpaces (fuel : Nat) (cs : List Char) :
    members? fuel (skipSpaces cs) = members? fuel cs := by
  cases fuel with
  | zero => rfl
  | succ fuel => rw [members?, members?, skipSpaces_skipSpaces]

/-! ## Numbers -/

/-- Whether a text does not go on with a number that stands in front of it. -/
def EndsNumber (rest : List Char) : Prop :=
  ∀ c, rest.head? = some c → c.isDigit = false ∧ c ≠ '.' ∧ c ≠ 'e' ∧ c ≠ 'E'

theorem EndsNumber.endsDigits {rest : List Char} (h : EndsNumber rest) :
    Numeral.EndsDigits rest := fun c hc => (h c hc).1

theorem endsNumber_nil : EndsNumber [] := by
  rintro c h
  simp at h

theorem endsNumber_comma (cs : List Char) : EndsNumber (',' :: cs) := by
  rintro c h
  obtain rfl := Option.some.inj h
  decide

theorem endsNumber_indent (level : Nat) (cs : List Char) :
    EndsNumber ((indent level).toList ++ cs) := by
  rintro c h
  rw [toList_indent] at h
  obtain rfl := Option.some.inj h
  decide

/-- Only zero is written with a zero in front. -/
theorem tail_eq_nil_of_toDigits {n : Nat} {cs : List Char}
    (h : Nat.toDigits 10 n = '0' :: cs) : cs = [] := by
  by_contra hne
  have hdigits : ∀ c ∈ cs, c.isDigit = true := fun c hc =>
    Numeral.all_isDigit_toDigits n c (h ▸ List.mem_cons_of_mem '0' hc)
  have hvalue : Nat.ofDigitChars 10 cs 0 = n := by
    have hall := Nat.ofDigitChars_toDigits (b := 10) (n := n)
      (by decide) (by decide)
    rw [h, Nat.ofDigitChars_cons] at hall
    exact hall
  have hlt : n < 10 ^ cs.length := by
    have hbound := Numeral.ofDigitChars_lt hdigits 0
    rw [hvalue] at hbound
    simpa using hbound
  have hlength :=
    (Nat.length_toDigits_le_iff (by decide) (List.length_pos_iff.mpr hne)).mpr
      hlt
  rw [h, List.length_cons] at hlength
  omega

theorem wholeDigits?_toDigits (n : Nat) {rest : List Char}
    (hrest : EndsNumber rest) :
    wholeDigits? (Nat.toDigits 10 n ++ rest) =
      some (Nat.toDigits 10 n, rest) := by
  obtain ⟨htake, hdrop⟩ :=
    Numeral.takeWhile_isDigit_append (Numeral.all_isDigit_toDigits n)
      hrest.endsDigits
  rw [wholeDigits?.eq_def]
  split
  · next c tail heq =>
      obtain ⟨d, digits, hdigits⟩ :=
        List.exists_cons_of_ne_nil (Nat.toDigits_ne_nil (b := 10) (n := n))
      rw [hdigits, List.cons_append] at heq
      obtain ⟨rfl, htail⟩ := List.cons.inj heq
      obtain rfl := tail_eq_nil_of_toDigits hdigits
      obtain rfl : rest = c :: tail := htail
      simp [hdigits, (hrest c rfl).1]
  · simp [htake, hdrop, Nat.toDigits_ne_nil]

theorem number?_toDigits {negative : Bool} {n : Nat}
    (h : isWord negative n = true) {rest : List Char}
    (hrest : EndsNumber rest) :
    number? negative (Nat.toDigits 10 n ++ rest) =
      some (integer (if negative then -n else n), rest) := by
  have hfraction : fractionDigits? rest = some ([], rest) := by
    rw [fractionDigits?.eq_def]
    split
    · next heq => exact absurd rfl (hrest '.' rfl).2.1
    · rfl
  have hexponent : exponentPart? rest = some (none, rest) := by
    rw [exponentPart?.eq_def]
    split
    · exact absurd rfl (hrest 'e' rfl).2.2.1
    · exact absurd rfl (hrest 'E' rfl).2.2.2
    · rfl
  have hvalue := Nat.ofDigitChars_toDigits (b := 10) (n := n)
    (by decide) (by decide)
  simp [number?, wholeDigits?_toDigits n hrest, hfraction, hexponent, hvalue, h]

/-! ## Strings -/

theorem stringChar?_controlDigits {n : Nat} (h : n < 0x20) (rest : List Char) :
    stringChar? ('\\' :: 'u' :: (controlDigits n ++ rest)) =
      some (some (Char.ofNat n), rest) := by
  have hall : ∀ n < 0x20, (controlDigits n).length = 4 ∧
      Numeral.digits? Numeral.hexDigit? 16 (controlDigits n) = some n := by
    decide +kernel
  obtain ⟨hlength, hdigits⟩ := hall n h
  obtain ⟨a, b, c, d, hfour⟩ := List.length_eq_four.mp hlength
  have htrail : isTrailSurrogate n = false := by
    simp [isTrailSurrogate]
    omega
  have hlead : isLeadSurrogate n = false := by
    simp [isLeadSurrogate]
    omega
  rw [hfour] at hdigits ⊢
  simp [stringChar?, unicodeEscape?, fourHex?, hdigits, htrail, hlead]

theorem stringChar?_escapeChar (c : Char) (rest : List Char) :
    stringChar? (escapeChar c ++ rest) = some (some c, rest) := by
  unfold escapeChar
  split
  case h_8 hbackslash _ _ _ _ _ =>
    split
    · next hcontrol =>
        rw [List.cons_append, List.cons_append,
          stringChar?_controlDigits hcontrol, Char.ofNat_toNat]
    · next hcontrol =>
        have hplain : ¬(c.toNat < 0x20 ∨ c = '\\') :=
          not_or.mpr ⟨hcontrol, hbackslash⟩
        rw [List.singleton_append, stringChar?, if_neg hplain]
        · exact fun _ h _ => hbackslash h
        · exact fun _ _ h _ => hbackslash h
  all_goals rfl

theorem exists_escapeChar (c : Char) :
    ∃ d cs, escapeChar c = d :: cs ∧ d ≠ '"' := by
  unfold escapeChar
  split
  case h_8 hquote _ _ _ _ _ _ =>
    split
    · exact ⟨_, _, rfl, by decide⟩
    · exact ⟨_, _, rfl, hquote⟩
  all_goals exact ⟨_, _, rfl, by decide⟩

/-- The characters of a string in front of its closing quote. -/
theorem stringBody?_escaped (cs rest : List Char) {fuel : Nat}
    (h : cs.length < fuel) :
    stringBody? fuel (cs.flatMap escapeChar ++ '"' :: rest) =
      some (some cs, rest) := by
  induction cs generalizing fuel with
  | nil =>
      obtain ⟨fuel, rfl⟩ := Nat.exists_eq_succ_of_ne_zero (Nat.ne_of_gt h)
      rfl
  | cons c cs ih =>
      obtain ⟨fuel, rfl⟩ :=
        Nat.exists_eq_succ_of_ne_zero (Nat.ne_of_gt (Nat.zero_lt_of_lt h))
      obtain ⟨d, ds, hc, hd⟩ := exists_escapeChar c
      have hchar :=
        stringChar?_escapeChar c (cs.flatMap escapeChar ++ '"' :: rest)
      have hrest := ih (Nat.lt_of_succ_lt_succ h)
      rw [List.flatMap_cons, List.append_assoc, stringBody?]
      · simp [hchar, hrest]
      · rintro more heq
        rw [hc] at heq
        exact hd (List.cons.inj heq).1

theorem toList_stringText (s : String) :
    (stringText s).toList = '"' :: (s.toList.flatMap escapeChar ++ ['"']) := by
  simp [stringText]

theorem length_le_flatMap_escapeChar (cs : List Char) :
    cs.length ≤ (cs.flatMap escapeChar).length := by
  induction cs with
  | nil => simp
  | cons c cs ih =>
      obtain ⟨d, ds, hc, -⟩ := exists_escapeChar c
      simp only [List.flatMap_cons, List.length_append, List.length_cons, hc]
      omega

/-- A written string after its opening quote. -/
theorem string?_escaped (s : String) (rest : List Char) {fuel : Nat}
    (h : (stringText s).toList.length ≤ fuel) :
    string? fuel (s.toList.flatMap escapeChar ++ '"' :: rest) =
      some (some s, rest) := by
  have hlength := length_le_flatMap_escapeChar s.toList
  have hfuel : s.toList.length < fuel := by
    simp only [toList_stringText, List.length_cons, List.length_append] at h
    omega
  rw [string?, stringBody?_escaped s.toList rest hfuel]
  simp

/-! ## Values -/

/-- Whether a written value is read in front of anything that does not go on
with a number, in more steps than it has characters. -/
def ReadsBack (value : JsonValue) : Prop :=
  ∀ level rest fuel, EndsNumber rest →
    (write level value).toList.length ≤ fuel →
    value? (fuel + 1) ((write level value).toList ++ rest) = some (value, rest)

theorem readsBack_null : ReadsBack null := by
  rintro level rest fuel - -
  simp [write, value?, skipSpaces, isSpace, Text.dropLeading?]

theorem readsBack_bool (b : Bool) : ReadsBack (bool b) := by
  rintro level rest fuel - -
  cases b
  · simp [write, value?, skipSpaces, isSpace, Text.dropLeading?]
  · simp [write, value?, skipSpaces, isSpace, Text.dropLeading?]

theorem readsBack_text (s : String) : ReadsBack (text s) := by
  rintro level rest fuel - hfuel
  rw [write] at hfuel ⊢
  have hstring := string?_escaped s rest hfuel
  rw [toList_stringText]
  simp [value?, skipSpaces, isSpace, hstring]

theorem value?_minus (fuel : Nat) (cs : List Char) :
    value? (fuel + 1) ('-' :: cs) = number? true cs := by
  simp [value?, skipSpaces, isSpace]

theorem value?_of_isDigit {c : Char} (h : c.isDigit = true) (fuel : Nat)
    (cs : List Char) :
    value? (fuel + 1) (c :: cs) = number? false (c :: cs) := by
  have hspace : isSpace c = false := by
    by_contra hspace
    simp only [isSpace, Bool.not_eq_false, Bool.or_eq_true,
      beq_iff_eq] at hspace
    rcases hspace with ((rfl | rfl) | rfl) | rfl <;> exact absurd h (by decide)
  have hne (d : Char) (hd : d.isDigit = false) : c ≠ d := by
    rintro rfl
    simp [h] at hd
  rw [value?, skipSpaces_of_not_space hspace]
  simp [hne]

theorem value?_toDigits {n : Nat} (h : isWord false n = true) (fuel : Nat)
    {rest : List Char} (hrest : EndsNumber rest) :
    value? (fuel + 1) (Nat.toDigits 10 n ++ rest) = some (integer n, rest) := by
  have hnumber := number?_toDigits h hrest
  obtain ⟨c, cs, hdigits⟩ :=
    List.exists_cons_of_ne_nil (Nat.toDigits_ne_nil (b := 10) (n := n))
  have hc : c.isDigit = true :=
    Numeral.all_isDigit_toDigits n c (hdigits ▸ List.mem_cons_self)
  rw [hdigits, List.cons_append] at hnumber ⊢
  rw [value?_of_isDigit hc, hnumber]
  rfl

theorem readsBack_integer {n : Int}
    (h : isWord (decide (n < 0)) n.natAbs = true) : ReadsBack (integer n) := by
  rintro level rest fuel hrest -
  cases n with
  | ofNat m =>
      have htext : (write level (integer (Int.ofNat m))).toList =
          Nat.toDigits 10 m := by
        rw [write, Numeral.toList_ofInt_ofNat]
      have hword : isWord false m = true := by
        simpa [decide_eq_false (Int.not_lt.mpr (Int.natCast_nonneg m))] using h
      rw [htext]
      exact value?_toDigits hword fuel hrest
  | negSucc m =>
      have htext : (write level (integer (Int.negSucc m))).toList =
          '-' :: Nat.toDigits 10 (m + 1) := by
        rw [write, Numeral.toList_ofInt_negSucc]
      have hword : isWord true (m + 1) = true := by
        simpa [decide_eq_true (Int.negSucc_lt_zero m)] using h
      rw [htext, List.cons_append, value?_minus, number?_toDigits hword hrest]
      rfl

/-! ### Entries in lines -/

/-- The entries between the brackets of a written value, each on its line. -/
def entryLines (level : Nat) (entries : List String) : List Char :=
  (Text.join "," (entries.map fun entry => indent (level + 1) ++ entry)).toList

theorem entryLines_singleton (level : Nat) (entry : String) :
    entryLines level [entry] = (indent (level + 1)).toList ++ entry.toList := by
  simp [entryLines, Text.join]

theorem entryLines_cons_cons (level : Nat) (entry next : String)
    (entries : List String) :
    entryLines level (entry :: next :: entries) =
      (indent (level + 1)).toList ++ entry.toList ++
        ',' :: entryLines level (next :: entries) := by
  simp [entryLines, Text.join]

theorem toList_bracketed {entries : List String} (hne : entries ≠ [])
    (opening closing : String) (level : Nat) :
    (bracketed opening closing level entries).toList =
      opening.toList ++
        (entryLines level entries ++
          ((indent level).toList ++ closing.toList)) := by
  simp [bracketed, entryLines, hne]

theorem writeItems_eq_map (level : Nat) (items : List JsonValue) :
    writeItems level items = items.map (write level) := by
  induction items with
  | nil => rfl
  | cons item items ih => rw [writeItems, ih, List.map_cons]

theorem ReadsBack.after_spaces {value : JsonValue} (h : ReadsBack value)
    {spaces : List Char} (hspaces : ∀ c ∈ spaces, isSpace c = true)
    {level : Nat} {rest : List Char} (hrest : EndsNumber rest) {fuel : Nat}
    (hfuel : (write level value).toList.length < fuel) :
    value? fuel (spaces ++ ((write level value).toList ++ rest)) =
      some (value, rest) := by
  obtain ⟨fuel, rfl⟩ :=
    Nat.exists_eq_succ_of_ne_zero (Nat.ne_of_gt (Nat.zero_lt_of_lt hfuel))
  rw [value?_of_skipSpaces_eq (skipSpaces_append hspaces _)]
  exact h level rest fuel hrest (Nat.le_of_lt_succ hfuel)

theorem skipSpaces_indent_close {close : Char} (h : isSpace close = false)
    (level : Nat) (rest : List Char) :
    skipSpaces ((indent level).toList ++ close :: rest) = close :: rest := by
  rw [skipSpaces_indent, skipSpaces_of_not_space h]

/-- Entries in lines up to a closing bracket are read in more steps than they
have characters, by a reader that goes on behind a comma and stops at the
bracket. -/
theorem read_entryLines {α β : Type}
    (read : Nat → List Char → Option (List β × List Char))
    (leads : Nat → List Char → α → List Char → Prop) {text : α → String}
    {entry : α → β} {close : Char} (hblank : isSpace close = false)
    (hclose : ∀ {fuel : Nat} {cs rest last : List Char} {a : α},
      leads fuel cs a rest → skipSpaces rest = close :: last →
      read (fuel + 1) cs = some ([entry a], last))
    (hcomma : ∀ {fuel : Nat} {cs rest more last : List Char} {a : α}
      {bs : List β}, leads fuel cs a rest → skipSpaces rest = ',' :: more →
      read fuel more = some (bs, last) →
      read (fuel + 1) cs = some (entry a :: bs, last))
    {level : Nat} {entries : List α}
    (hleads : ∀ a ∈ entries, ∀ fuel rest, EndsNumber rest →
      (indent (level + 1)).toList.length + (text a).toList.length ≤ fuel →
      leads fuel ((indent (level + 1)).toList ++ ((text a).toList ++ rest)) a
        rest)
    (hne : entries ≠ []) (rest : List Char) {fuel : Nat}
    (hfuel : (entryLines level (entries.map text)).length ≤ fuel) :
    read (fuel + 1) (entryLines level (entries.map text) ++
      ((indent level).toList ++ close :: rest)) =
        some (entries.map entry, rest) := by
  induction entries generalizing fuel with
  | nil => exact absurd rfl hne
  | cons a others ih =>
      have ha := hleads a List.mem_cons_self
      cases others with
      | nil =>
          rw [List.map_singleton, entryLines_singleton] at hfuel ⊢
          rw [List.length_append] at hfuel
          rw [List.append_assoc]
          exact hclose (ha fuel _ (endsNumber_indent level _) hfuel)
            (skipSpaces_indent_close hblank level rest)
      | cons next others =>
          rw [List.map_cons, List.map_cons, entryLines_cons_cons] at hfuel ⊢
          simp only [List.length_append, List.length_cons] at hfuel
          obtain ⟨fuel, rfl⟩ :=
            Nat.exists_eq_succ_of_ne_zero (show fuel ≠ 0 by omega)
          simp only [List.append_assoc, List.cons_append]
          apply hcomma
          · exact ha _ _ (endsNumber_comma _) (by omega)
          · exact skipSpaces_of_not_space rfl _
          · exact ih
              (fun other hother => hleads other (List.mem_cons_of_mem a hother))
              (List.cons_ne_nil next others)
                (by simp only [List.map_cons]; omega)

/-! ### Arrays -/

theorem items?_of_close {fuel : Nat} {cs rest last : List Char}
    {item : JsonValue} (hitem : value? fuel cs = some (item, rest))
    (hclose : skipSpaces rest = ']' :: last) :
    items? (fuel + 1) cs = some ([item], last) := by
  simp [items?, hitem, hclose]

theorem items?_of_comma {fuel : Nat} {cs rest more last : List Char}
    {item : JsonValue} {items : List JsonValue}
    (hitem : value? fuel cs = some (item, rest))
    (hcomma : skipSpaces rest = ',' :: more)
    (hmore : items? fuel more = some (items, last)) :
    items? (fuel + 1) cs = some (item :: items, last) := by
  simp [items?, hitem, hcomma, hmore]

/-- The items of an array up to its closing bracket, in more steps than they
have characters. -/
theorem items?_entryLines {items : List JsonValue}
    (h : ∀ item ∈ items, ReadsBack item) (hne : items ≠ []) (level : Nat)
    (rest : List Char) {fuel : Nat}
    (hfuel : (entryLines level (items.map (write (level + 1)))).length ≤ fuel) :
    items? (fuel + 1) (entryLines level (items.map (write (level + 1))) ++
      ((indent level).toList ++ ']' :: rest)) = some (items, rest) := by
  have hspaces (c : Char) (hc : c ∈ (indent (level + 1)).toList) :
      isSpace c = true :=
    isSpace_of_mem_indent hc
  have hindent : 0 < (indent (level + 1)).toList.length := by
    simp [toList_indent]
  have hread := read_entryLines items?
    (fun fuel cs item rest => value? fuel cs = some (item, rest))
      rfl items?_of_close
    items?_of_comma (fun item hitem _ _ hrest hlength =>
      (h item hitem).after_spaces hspaces hrest (by omega)) hne rest hfuel
  rwa [List.map_id'] at hread

theorem items?_closeBracket (fuel : Nat) (cs : List Char) :
    items? fuel (']' :: cs) = none := by
  cases fuel with
  | zero => rfl
  | succ fuel =>
      cases fuel with
      | zero => rfl
      | succ fuel =>
          simp [items?, value?, skipSpaces, isSpace, number?, wholeDigits?]

/-- An array is told from one without items by its first item, which is no
closing bracket. -/
theorem value?_openBracket {fuel : Nat} {cs rest : List Char}
    {items : List JsonValue} (h : items? fuel cs = some (items, rest)) :
    value? (fuel + 1) ('[' :: cs) = some (array items, rest) := by
  rw [← items?_skipSpaces] at h
  rw [value?, skipSpaces_of_not_space rfl]
  simp only
  split
  · next heq => simp [heq, items?_closeBracket] at h
  · rw [h]
    rfl

theorem readsBack_array {items : List JsonValue}
    (h : ∀ item ∈ items, ReadsBack item) : ReadsBack (array items) := by
  rintro level rest fuel - hfuel
  rw [write, writeItems_eq_map] at hfuel ⊢
  by_cases hne : items = []
  · subst hne
    simp [bracketed, value?, skipSpaces, isSpace]
  · have hentries : items.map (write (level + 1)) ≠ [] := by simpa using hne
    rw [toList_bracketed hentries] at hfuel ⊢
    have hopening : "[".toList = ['['] := rfl
    have hclosing : "]".toList = [']'] := rfl
    simp only [hopening, hclosing, List.length_cons, List.length_append,
      List.append_assoc, List.cons_append, List.nil_append] at hfuel ⊢
    obtain ⟨fuel, rfl⟩ := Nat.exists_eq_succ_of_ne_zero (show fuel ≠ 0 by omega)
    apply value?_openBracket
    exact items?_entryLines h hne level rest (by omega)

/-! ### Objects -/

/-- The text of a member: its name, a colon and its value. -/
def memberText (level : Nat) (member : String × JsonValue) : String :=
  stringText member.1 ++ ": " ++ write level member.2

theorem writeMembers_eq_map (level : Nat)
    (members : List (String × JsonValue)) :
    writeMembers level members = members.map (memberText level) := by
  induction members with
  | nil => rfl
  | cons member members ih =>
      rw [writeMembers, ih, List.map_cons]
      rfl

theorem toList_memberText (level : Nat) (member : String × JsonValue) :
    (memberText level member).toList =
      '"' :: (member.1.toList.flatMap escapeChar ++
      '"' :: ':' :: ' ' :: (write level member.2).toList) := by
  simp [memberText, toList_stringText]

/-- Whether a member is read at the front of a text, and what follows it. -/
def LeadsMember (fuel : Nat) (cs : List Char) (member : String × JsonValue)
    (rest : List Char) :
    Prop :=
  ∃ body more, skipSpaces cs = '"' :: body ∧
    string? fuel body = some (some member.1, ':' :: more) ∧
    value? fuel more = some (member.2, rest)

section Members

variable {fuel : Nat} {cs rest last : List Char} {member : String × JsonValue}

theorem LeadsMember.of_text (h : ReadsBack member.2) {level : Nat}
    (hrest : EndsNumber rest)
    (hfuel : (memberText level member).toList.length ≤ fuel) :
    LeadsMember fuel ((indent level).toList ++
      ((memberText level member).toList ++ rest)) member
      rest := by
  have hblank : ∀ c ∈ [' '], isSpace c = true := by
    rintro c hc
    obtain rfl := List.mem_singleton.mp hc
    rfl
  have hname :
      (stringText member.1).toList.length +
      (write level member.2).toList.length < fuel := by
    simp only [toList_memberText, toList_stringText, List.length_cons,
      List.length_append, List.length_nil] at hfuel ⊢
    omega
  have hvalue : (write level member.2).toList.length < fuel := by omega
  refine ⟨_, _, ?_, string?_escaped member.1 _ (by omega),
    h.after_spaces hblank hrest hvalue⟩
  rw [skipSpaces_indent, toList_memberText, List.cons_append,
    skipSpaces_of_not_space rfl]
  simp

theorem LeadsMember.members?_of_close (h : LeadsMember fuel cs member rest)
    (hclose : skipSpaces rest = '\x7d' :: last) :
    members? (fuel + 1) cs = some ([(some member.1, member.2)], last) := by
  obtain ⟨body, more, hquote, hname, hvalue⟩ := h
  have hcolon : skipSpaces (':' :: more) = ':' :: more :=
    skipSpaces_of_not_space rfl more
  simp [members?, hquote, hname, hcolon, hvalue, hclose]

theorem LeadsMember.members?_of_comma (h : LeadsMember fuel cs member rest)
    {more : List Char} (hcomma : skipSpaces rest = ',' :: more)
    {members : List (Option String × JsonValue)}
    (hmore : members? fuel more = some (members, last)) :
    members? (fuel + 1) cs =
      some ((some member.1, member.2) :: members, last) := by
  obtain ⟨body, text, hquote, hname, hvalue⟩ := h
  have hcolon : skipSpaces (':' :: text) = ':' :: text :=
    skipSpaces_of_not_space rfl text
  simp [members?, hquote, hname, hcolon, hvalue, hcomma, hmore]

end Members

/-- The members of an object up to its closing brace, in more steps than they
have characters. -/
theorem members?_entryLines {members : List (String × JsonValue)}
    (h : ∀ member ∈ members, ReadsBack member.2) (hne : members ≠ [])
    (level : Nat) (rest : List Char) {fuel : Nat}
    (hfuel : (entryLines level (members.map (memberText (level + 1)))).length ≤
      fuel) :
    members? (fuel + 1)
      (entryLines level (members.map (memberText (level + 1))) ++
      ((indent level).toList ++ '\x7d' :: rest)) =
        some (members.map fun member => (some member.1, member.2), rest) :=
  read_entryLines members? LeadsMember rfl LeadsMember.members?_of_close
    (fun hleads hcomma hmore => hleads.members?_of_comma hcomma hmore)
    (fun member hmember _ _ hrest hlength =>
      .of_text (h member hmember) hrest (Nat.le_of_add_left_le hlength))
        hne rest hfuel

theorem members?_closeBrace (fuel : Nat) (cs : List Char) :
    members? fuel ('\x7d' :: cs) = none := by
  cases fuel with
  | zero => rfl
  | succ fuel => simp [members?, skipSpaces, isSpace]

theorem value?_openBrace {fuel : Nat} {cs rest : List Char}
    {members : List (Option String × JsonValue)}
    (h : members? fuel cs = some (members, rest)) :
    value? (fuel + 1) ('\x7b' :: cs) = some (ofMembers members, rest) := by
  rw [← members?_skipSpaces] at h
  rw [value?, skipSpaces_of_not_space rfl]
  simp only
  split
  · next heq => simp [heq, members?_closeBrace] at h
  · rw [h]
    rfl

theorem ofMembers_named (members : List (String × JsonValue)) :
    ofMembers (members.map fun member => (some member.1, member.2)) =
      object members := by
  rw [ofMembers, List.mapM_map_self]
  intro member _
  rfl

theorem readsBack_object {members : List (String × JsonValue)}
    (h : ∀ member ∈ members, ReadsBack member.2) :
    ReadsBack (object members) := by
  rintro level rest fuel - hfuel
  rw [write, writeMembers_eq_map] at hfuel ⊢
  by_cases hne : members = []
  · subst hne
    simp [bracketed, value?, skipSpaces, isSpace]
  · have hentries : members.map (memberText (level + 1)) ≠ [] := by
      simpa using hne
    rw [toList_bracketed hentries] at hfuel ⊢
    have hopening : "\x7b".toList = ['\x7b'] := rfl
    have hclosing : "\x7d".toList = ['\x7d'] := rfl
    simp only [hopening, hclosing, List.length_cons, List.length_append,
      List.append_assoc, List.cons_append, List.nil_append] at hfuel ⊢
    obtain ⟨fuel, rfl⟩ := Nat.exists_eq_succ_of_ne_zero (show fuel ≠ 0 by omega)
    rw [← ofMembers_named]
    apply value?_openBrace
    exact members?_entryLines h hne level rest (by omega)

/-! ## Documents -/

/-- Whether nothing of a value is lost in its text: it has no number that is
not whole, no whole number of more than 64 bits and no part that cannot be
read. -/
inductive Exact : JsonValue → Prop
  | null : Exact null
  | bool (b : Bool) : Exact (bool b)
  | integer {n : Int} (h : isWord (decide (n < 0)) n.natAbs = true) :
      Exact (integer n)
  | text (s : String) : Exact (text s)
  | array {items : List JsonValue} (h : ∀ item ∈ items, Exact item) :
      Exact (array items)
  | object {members : List (String × JsonValue)} (h : ∀ member ∈ members,
    Exact member.2) : Exact (object members)

theorem Exact.readsBack {value : JsonValue} (h : Exact value) :
    ReadsBack value := by
  induction h with
  | null => exact readsBack_null
  | bool b => exact readsBack_bool b
  | integer h => exact readsBack_integer h
  | text s => exact readsBack_text s
  | array _ ih => exact readsBack_array ih
  | object _ ih => exact readsBack_object ih

/-- The text of a value from which nothing is lost denotes this value. -/
theorem Exact.ofText?_toText {value : JsonValue} (h : Exact value) :
    ofText? value.toText = some value := by
  have hfuel : (write 0 value).toList.length ≤
      2 * (write 0 value).length + 1 := by
    rw [String.length_toList]
    omega
  have hread := h.readsBack 0 [] (2 * (write 0 value).length + 1)
    endsNumber_nil hfuel
  rw [List.append_nil] at hread
  rw [ofText?, toText, hread]
  rfl

end ReportQuery.JsonValue
