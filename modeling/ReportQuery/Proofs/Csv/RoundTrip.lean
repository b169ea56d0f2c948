import ReportQuery.Csv
import ReportQuery.Proofs.Lists

/-!
# Reading written records

A written field is read in front of the comma or the line break that follows
it, a written record in front of the records that follow it. Quotes are needed
for every byte that the reader would take for something else, and the record
that would be an empty line is written as a pair of quotes. What is written are
bytes of a text, and the reader drops no byte order mark unless the first field
of all begins with one.
-/

namespace ReportQuery.Csv

/-! ## One field -/

/-- A field in quotes, up to the quote at its end. -/
theorem decodeFrom_doubleQuotes (field before : List UInt8)
    (record : List (List UInt8)) (rest : List UInt8) :
    decodeFrom .quoted before record (doubleQuotes field ++ quote :: rest) =
      decodeFrom .quoteInQuoted (field.reverse ++ before) record rest := by
  induction field generalizing before with
  | nil => simp [doubleQuotes, decodeFrom, action]
  | cons b field ih =>
      rw [List.reverse_cons, List.append_assoc, List.singleton_append,
        ← ih (b :: before)]
      by_cases hquote : b = quote
      · simp [doubleQuotes, hquote, decodeFrom, action]
      · simp [doubleQuotes, hquote, decodeFrom, action]

theorem plainAction_of_not_needsQuotes {b : UInt8} (h : needsQuotes b = false) :
    plainAction b = (.keep, .plain) := by
  simp only [needsQuotes, Bool.or_eq_false_iff, beq_eq_false_iff_ne] at h
  simp [plainAction, h.1.1, h.2]

/-- The bytes of a field without quotes. -/
theorem decodeFrom_plain {field : List UInt8}
    (h : ∀ b ∈ field, needsQuotes b = false) (before : List UInt8)
    (record : List (List UInt8)) (rest : List UInt8) :
    decodeFrom .plain before record (field ++ rest) =
      decodeFrom .plain (field.reverse ++ before) record rest := by
  induction field generalizing before with
  | nil => rfl
  | cons b field ih =>
      have htail := ih (fun c hc => h c (List.mem_cons_of_mem b hc))
        (b :: before)
      rw [List.reverse_cons, List.append_assoc, List.singleton_append, ← htail]
      simp [decodeFrom, action,
        plainAction_of_not_needsQuotes (h b List.mem_cons_self)]

/-- Where the reader stands after a written field that began at a place. -/
def placeAfter (start : Place) (field : List UInt8) : Place :=
  if field.any needsQuotes then .quoteInQuoted
  else if field.isEmpty then start else .plain

theorem fieldAction_of_not_needsQuotes {b : UInt8} (h : needsQuotes b = false) :
    fieldAction b = (.keep, .plain) := by
  have hplain := plainAction_of_not_needsQuotes h
  simp only [needsQuotes, Bool.or_eq_false_iff, beq_eq_false_iff_ne] at h
  rw [fieldAction, if_neg h.1.2, hplain]

/-- At the start of a line and of a field a byte does the same, unless it is a
line break. -/
theorem action_of_start {start : Place}
    (hstart : start = .line ∨ start = .field) {b : UInt8}
    (h : endsRecord b = false) : action start b = fieldAction b := by
  rcases hstart with rfl | rfl
  · simp [action, h]
  · rfl

theorem decodeFrom_encodeField {start : Place}
    (hstart : start = .line ∨ start = .field) (field : List UInt8)
    (record : List (List UInt8)) (rest : List UInt8) :
    decodeFrom start [] record (encodeField field ++ rest) =
      decodeFrom (placeAfter start field) field.reverse record rest := by
  rw [encodeField, placeAfter]
  split
  · have hquote : action start quote = (.skip, .quoted) := by
      rw [action_of_start hstart (by decide)]
      rfl
    have hopened : decodeFrom start [] record (quote :: doubleQuotes field ++
        [quote] ++ rest) =
        decodeFrom .quoted [] record (doubleQuotes field ++ quote :: rest) := by
      simp [decodeFrom, hquote]
    rw [hopened, decodeFrom_doubleQuotes, List.append_nil]
  · next hplain =>
      cases field with
      | nil => rfl
      | cons b tail =>
          have hnone : ∀ c ∈ b :: tail, needsQuotes c = false := by
            simpa using hplain
          have hb := hnone b List.mem_cons_self
          have hkeep : action start b = (.keep, .plain) := by
            have hends : endsRecord b = false := (Bool.or_eq_false_iff.mp hb).2
            rw [action_of_start hstart hends, fieldAction_of_not_needsQuotes hb]
          have htail :=
            decodeFrom_plain (fun c hc => hnone c (List.mem_cons_of_mem b hc))
              [b]
            record rest
          simpa [decodeFrom, hkeep] using htail

theorem action_placeAfter_comma {start : Place}
    (hstart : start = .line ∨ start = .field) (field : List UInt8) :
    action (placeAfter start field) comma = (.endField, .field) := by
  rw [placeAfter]
  split
  · rfl
  · split
    · rw [action_of_start hstart (by decide)]
      rfl
    · rfl

/-- A line break ends the record, unless it makes an empty line. -/
theorem action_placeAfter_lineFeed {start : Place} {field : List UInt8}
    (h : start = .field ∨ start = .line ∧ field ≠ []) :
    action (placeAfter start field) lineFeed = (.endRecord, .line) := by
  rw [placeAfter]
  split
  · rfl
  · split
    · next hempty =>
        rcases h with rfl | ⟨-, hne⟩
        · rfl
        · exact absurd (List.isEmpty_iff.mp hempty) hne
    · rfl

/-! ## One record -/

theorem decodeFrom_encodeFields {start : Place} {fields : List (List UInt8)}
    (hne : fields ≠ [])
    (hstart : start = .field ∨ start = .line ∧ fields ≠ [[]])
    (record : List (List UInt8)) (rest : List UInt8) :
    decodeFrom start [] record (encodeFields fields ++ lineFeed :: rest) =
      (record.reverse ++ fields) :: decodeFrom .line [] [] rest := by
  induction fields generalizing start record with
  | nil => exact absurd rfl hne
  | cons field others ih =>
      have hplace : start = .line ∨ start = .field :=
        hstart.symm.imp_left And.left
      cases others with
      | nil =>
          have hline : start = .field ∨ start = .line ∧ field ≠ [] :=
            hstart.imp_right fun h => ⟨h.1, fun heq => h.2 (heq ▸ rfl)⟩
          have hend := action_placeAfter_lineFeed hline
          rw [encodeFields, decodeFrom_encodeField hplace]
          simp [decodeFrom, hend]
      | cons next others =>
          have hrest := ih (List.cons_ne_nil next others) (.inl rfl)
            (field :: record)
          rw [encodeFields, List.append_assoc, decodeFrom_encodeField hplace,
            List.cons_append]
          simp only [decodeFrom, action_placeAfter_comma hplace,
            List.reverse_reverse]
          rw [hrest]
          simp

theorem encodeField_eq_nil_iff {field : List UInt8} :
    encodeField field = [] ↔ field = [] := by
  rw [encodeField]
  split
  · next hquoted =>
      obtain ⟨b, hb, -⟩ := List.any_eq_true.mp hquoted
      simp [List.ne_nil_of_mem hb]
  · rfl

theorem encodeFields_eq_nil_iff {fields : List (List UInt8)}
    (hne : fields ≠ []) : encodeFields fields = [] ↔ fields = [[]] := by
  match fields with
  | [] => exact absurd rfl hne
  | [field] => simp [encodeFields, encodeField_eq_nil_iff]
  | field :: next :: rest => simp [encodeFields]

theorem decodeFrom_encodeRecord {record : List (List UInt8)} (hne : record ≠ [])
    (rest : List UInt8) :
    decodeFrom .line [] [] (encodeRecord record ++ rest) =
      record :: decodeFrom .line [] [] rest := by
  rw [encodeRecord]
  by_cases hempty : record = [[]]
  · subst hempty
    rfl
  · have hbytes : (encodeFields record).isEmpty = false := by
      simpa [encodeFields_eq_nil_iff hne] using hempty
    simp only [hbytes, Bool.false_eq_true, if_false, List.append_assoc,
      List.singleton_append]
    exact decodeFrom_encodeFields hne (.inr ⟨rfl, hempty⟩) [] rest

/-! ## All records -/

theorem decodeFrom_flatMap {records : List (List (List UInt8))}
    (h : ∀ record ∈ records, record ≠ []) :
    decodeFrom .line [] [] (records.flatMap encodeRecord) = records := by
  induction records with
  | nil => rfl
  | cons record rest ih =>
      have hrest := ih fun other hother =>
        h other (List.mem_cons_of_mem record hother)
      rw [List.flatMap_cons,
        decodeFrom_encodeRecord (h record List.mem_cons_self), hrest]

/-! ## Bytes of texts -/

theorem bytesOf_ofList (cs : List Char) :
    bytesOf (String.ofList cs) = cs.flatMap String.utf8EncodeChar := by
  rw [bytesOf, String.toUTF8_eq_toByteArray, String.toByteArray_ofList,
    List.utf8Encode]
  simp

theorem utf8Text?_bytesOf (s : String) :
    Text.utf8Text? (bytesOf s) = some s := by
  have hbytes : (⟨(bytesOf s).toArray⟩ : ByteArray) = s.toByteArray := rfl
  rw [Text.utf8Text?, hbytes, String.fromUTF8?, dif_pos s.isValidUTF8]
  rfl

/-- The code points of ASCII stand for themselves, and no other character has a
byte below 128. -/
theorem toNat_of_mem_utf8EncodeChar {c : Char} {b : UInt8}
    (h : b ∈ String.utf8EncodeChar c) (hb : b.toNat < 128) :
    c.toNat = b.toNat := by
  change c.val.toNat = b.toNat
  simp only [String.utf8EncodeChar] at h
  generalize c.val.toNat = v at h ⊢
  split at h
  · obtain rfl := List.mem_singleton.mp h
    simp only [UInt8.toNat_ofNat'] at hb ⊢
    omega
  · exfalso
    split at h
    · simp only [List.mem_cons, List.not_mem_nil, or_false] at h
      rcases h with rfl | rfl <;> simp at hb <;> omega
    · split at h
      · simp only [List.mem_cons, List.not_mem_nil, or_false] at h
        rcases h with rfl | rfl | rfl <;> simp at hb <;> omega
      · simp only [List.mem_cons, List.not_mem_nil, or_false] at h
        rcases h with rfl | rfl | rfl | rfl <;> simp at hb <;> omega

theorem eq_of_quote_mem_utf8EncodeChar {c : Char}
    (h : quote ∈ String.utf8EncodeChar c) : c = '"' := by
  have hcode : c.toNat = quote.toNat :=
    toNat_of_mem_utf8EncodeChar h (by decide)
  exact Char.toNat_inj.mp hcode

/-- Whether bytes are those of a text. -/
def IsText (bytes : List UInt8) : Prop :=
  ∃ s, bytesOf s = bytes

theorem isText_nil : IsText [] := ⟨"", rfl⟩

theorem IsText.append {a b : List UInt8} (ha : IsText a) (hb : IsText b) :
    IsText (a ++ b) := by
  obtain ⟨s, rfl⟩ := ha
  obtain ⟨t, rfl⟩ := hb
  refine ⟨String.ofList (s.toList ++ t.toList), ?_⟩
  rw [bytesOf_ofList, List.flatMap_append, ← bytesOf_ofList, ← bytesOf_ofList,
    String.ofList_toList, String.ofList_toList]

theorem isText_utf8EncodeChar (c : Char) : IsText (String.utf8EncodeChar c) :=
  ⟨String.ofList [c], by rw [bytesOf_ofList, List.flatMap_singleton]⟩

theorem isText_quote : IsText [quote] := isText_utf8EncodeChar '"'

theorem doubleQuotes_append (a b : List UInt8) :
    doubleQuotes (a ++ b) = doubleQuotes a ++ doubleQuotes b := by
  induction a with
  | nil => rfl
  | cons c a ih => by_cases h : c = quote <;> simp [doubleQuotes, h, ih]

theorem doubleQuotes_of_not_mem {bytes : List UInt8} (h : quote ∉ bytes) :
    doubleQuotes bytes = bytes := by
  induction bytes with
  | nil => rfl
  | cons b bytes ih =>
      rw [List.mem_cons, not_or] at h
      rw [doubleQuotes, if_neg (Ne.symm h.1), ih h.2]

theorem isText_doubleQuotes (s : String) :
    IsText (doubleQuotes (bytesOf s)) := by
  rw [← String.ofList_toList (s := s), bytesOf_ofList]
  induction s.toList with
  | nil => exact isText_nil
  | cons c cs ih =>
      rw [List.flatMap_cons, doubleQuotes_append]
      refine .append ?_ ih
      by_cases hquote : quote ∈ String.utf8EncodeChar c
      · rw [eq_of_quote_mem_utf8EncodeChar hquote]
        exact isText_quote.append isText_quote
      · rw [doubleQuotes_of_not_mem hquote]
        exact isText_utf8EncodeChar c

theorem isText_encodeField (s : String) : IsText (encodeField (bytesOf s)) := by
  rw [encodeField]
  split
  · exact (isText_quote.append (isText_doubleQuotes s)).append isText_quote
  · exact ⟨s, rfl⟩

theorem isText_encodeFields (record : List String) :
    IsText (encodeFields (record.map bytesOf)) := by
  induction record with
  | nil => exact isText_nil
  | cons s rest ih =>
      cases rest with
      | nil => exact isText_encodeField s
      | cons t rest =>
          have hcomma : IsText [comma] := isText_utf8EncodeChar ','
          exact (isText_encodeField s).append (hcomma.append ih)

theorem isText_encodeRecord (record : List String) :
    IsText (encodeRecord (record.map bytesOf)) := by
  have hend : IsText [lineFeed] := isText_utf8EncodeChar '\n'
  rw [encodeRecord]
  refine .append ?_ hend
  split
  · exact isText_quote.append isText_quote
  · exact isText_encodeFields record

theorem isText_encode (records : Records) : IsText (encode records) := by
  induction records with
  | nil => exact isText_nil
  | cons record rest ih => exact (isText_encodeRecord record).append ih

/-! ## The byte order mark -/

theorem dropMark_of_head {bytes : List UInt8} (h : bytes.head? ≠ some 0xEF) :
    dropMark bytes = bytes := by
  rw [dropMark]
  rintro rest rfl
  exact h rfl

/-- The three bytes of the mark are those of one character and begin no
other. -/
theorem dropMark_utf8EncodeChar {c : Char} (h : c ≠ '\uFEFF')
    (bytes : List UInt8) :
    dropMark (String.utf8EncodeChar c ++ bytes) =
      String.utf8EncodeChar c ++ bytes := by
  rw [dropMark]
  rintro rest heq
  apply h
  apply Char.toNat_inj.mp
  have hvalid : c.val.toNat < 1114112 := by
    have hchar := c.valid
    simp only [UInt32.isValidChar, Nat.isValidChar] at hchar
    omega
  change c.val.toNat = 65279
  simp only [String.utf8EncodeChar] at heq
  generalize c.val.toNat = v at heq hvalid ⊢
  split at heq
  · have hfirst := congrArg UInt8.toNat (List.cons.inj heq).1
    simp at hfirst
    omega
  · split at heq
    · have hfirst := congrArg UInt8.toNat (List.cons.inj heq).1
      simp at hfirst
      omega
    · split at heq
      · simp only [List.cons_append, List.nil_append, List.cons.injEq] at heq
        have hfirst := congrArg UInt8.toNat heq.1
        have hsecond := congrArg UInt8.toNat heq.2.1
        have hthird := congrArg UInt8.toNat heq.2.2.1
        simp at hfirst hsecond hthird
        omega
      · have hfirst := congrArg UInt8.toNat (List.cons.inj heq).1
        simp at hfirst
        omega

theorem dropMark_encodeField {s : String} (h : s.toList.head? ≠ some '\uFEFF')
    {rest : List UInt8} (hrest : rest.head? ≠ some 0xEF) :
    dropMark (encodeField (bytesOf s) ++ rest) =
      encodeField (bytesOf s) ++ rest := by
  rw [encodeField]
  split
  · exact dropMark_of_head (by simp [quote])
  · rw [← String.ofList_toList (s := s), bytesOf_ofList]
    cases hs : s.toList with
    | nil => exact dropMark_of_head hrest
    | cons c cs =>
        have hc : c ≠ '\uFEFF' := by simpa [hs] using h
        rw [List.flatMap_cons, List.append_assoc]
        exact dropMark_utf8EncodeChar hc _

/-- The first field of a record is followed by a comma or by the line break. -/
theorem encodeRecord_cons (field : List UInt8) (others : List (List UInt8)) :
    encodeRecord (field :: others) = [quote, quote, lineFeed] ∨
      ∃ b rest, (b = comma ∨ b = lineFeed) ∧
        encodeRecord (field :: others) = encodeField field ++ b :: rest := by
  rw [encodeRecord]
  by_cases hempty : (encodeFields (field :: others)).isEmpty = true
  · left
    simp [hempty]
  · right
    simp only [hempty, Bool.false_eq_true, if_false]
    cases others with
    | nil => exact ⟨lineFeed, [], .inr rfl, rfl⟩
    | cons next others =>
        refine ⟨comma, encodeFields (next :: others) ++ [lineFeed],
          .inl rfl, ?_⟩
        simp [encodeFields]

theorem dropMark_encode {records : Records}
    (h : ∀ cell, records.head?.bind List.head? = some cell →
      cell.toList.head? ≠ some '\uFEFF') :
    dropMark (encode records) = encode records := by
  match records with
  | [] => rfl
  | [] :: rest =>
    exact dropMark_of_head (by simp [encode, encodeRecord, encodeFields, quote])
  | (cell :: others) :: rest =>
      rw [encode, List.flatMap_cons, List.map_cons]
      obtain hrecord | ⟨b, tail, hb, hrecord⟩ :=
        encodeRecord_cons (bytesOf cell) (others.map bytesOf)
      · rw [hrecord]
        exact dropMark_of_head (by simp [quote])
      · rw [hrecord, List.append_assoc]
        apply dropMark_encodeField (h cell rfl)
        rcases hb with rfl | rfl <;> simp [comma, lineFeed]

/-! ## Reading what was written -/

/-- Records of at least one field each are read as they were written. -/
theorem decode?_encode {records : Records}
    (hrows : ∀ record ∈ records, record ≠ [])
    (hmark : ∀ cell, records.head?.bind List.head? = some cell →
      cell.toList.head? ≠ some '\uFEFF') :
    decode? (encode records) = some records := by
  have hbytes : encode records =
      (records.map (List.map bytesOf)).flatMap encodeRecord := by
    rw [encode, List.flatMap_map]
  have hne : ∀ record ∈ records.map (List.map bytesOf), record ≠ [] := by
    simpa using hrows
  rw [decode?, dropMark_encode hmark, hbytes, decodeFrom_flatMap hne]
  apply List.mapM_map_self
  intro record hrecord
  exact List.mapM_map_self fun s _ => utf8Text?_bytesOf s

end ReportQuery.Csv
