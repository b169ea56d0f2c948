import Mathlib.Data.Set.List
import ReportQuery.Proofs.Csv.RoundTrip

/-!
# Any text as records

Every text can be read as records, whether or not it was written as such. The
reader cuts its bytes only at commas, quotes and line breaks, each of which is
a character of its own, so the fields are texts again.
-/

namespace ReportQuery.Csv

/-- A byte that needs no quotes belongs to the field, wherever the reader
stands. -/
theorem action_of_not_needsQuotes (place : Place) {b : UInt8}
    (h : needsQuotes b = false) : ∃ next, action place b = (.keep, next) := by
  have hplain := plainAction_of_not_needsQuotes h
  have hfield := fieldAction_of_not_needsQuotes h
  simp only [needsQuotes, Bool.or_eq_false_iff, beq_eq_false_iff_ne] at h
  cases place with
  | line => exact ⟨.plain, by simp [action, h.2, hfield]⟩
  | field => exact ⟨.plain, hfield⟩
  | plain => exact ⟨.plain, hplain⟩
  | quoted => exact ⟨.quoted, by simp [action, h.1.2]⟩
  | quoteInQuoted => exact ⟨.plain, by simp [action, h.1.2, hplain]⟩

theorem exists_decodeFrom_keep {bytes : List UInt8}
    (h : ∀ b ∈ bytes, needsQuotes b = false) (place : Place)
    (field : List UInt8) (record : List (List UInt8)) (rest : List UInt8) :
    ∃ next, decodeFrom place field record (bytes ++ rest) =
      decodeFrom next (bytes.reverse ++ field) record rest := by
  induction bytes generalizing place field with
  | nil => exact ⟨place, rfl⟩
  | cons b bytes ih =>
      obtain ⟨middle, hstep⟩ :=
        action_of_not_needsQuotes place (h b List.mem_cons_self)
      obtain ⟨next, hrest⟩ :=
        ih (fun c hc => h c (List.mem_cons_of_mem b hc)) middle (b :: field)
      refine ⟨next, ?_⟩
      calc decodeFrom place field record (b :: bytes ++ rest)
          = decodeFrom middle (b :: field) record (bytes ++ rest) := by
            simp only [List.cons_append, decodeFrom, hstep]
        _ = decodeFrom next (bytes.reverse ++ b :: field) record rest := hrest
        _ = decodeFrom next ((b :: bytes).reverse ++ field) record rest := by
            rw [List.reverse_cons, List.append_assoc, List.singleton_append]

/-- A byte that needs quotes is a character of its own. -/
theorem utf8EncodeChar_of_needsQuotes {c : Char} {b : UInt8}
    (hmem : b ∈ String.utf8EncodeChar c) (hb : needsQuotes b = true) :
    String.utf8EncodeChar c = [b] := by
  simp only [needsQuotes, endsRecord, Bool.or_eq_true, beq_iff_eq] at hb
  have hsmall : b.toNat < 128 := by
    rcases hb with (rfl | rfl) | rfl | rfl <;> decide
  have hcode := toNat_of_mem_utf8EncodeChar hmem hsmall
  have hc : c = Char.ofNat b.toNat := by rw [← hcode, Char.ofNat_toNat]
  rw [hc]
  rcases hb with (rfl | rfl) | rfl | rfl <;> decide

/-- A record that ends has the field read last behind those read before. -/
theorem isText_of_mem_reverse_cons {field : List UInt8}
    {record : List (List UInt8)} (hfield : IsText field.reverse)
    (hrecord : ∀ f ∈ record, IsText f) :
    ∀ f ∈ (field.reverse :: record).reverse, IsText f := by
  intro f hf
  rcases List.mem_cons.mp (List.mem_reverse.mp hf) with rfl | hearlier
  · exact hfield
  · exact hrecord f hearlier

/-- What is read from the bytes of a text are texts, if what was read before
is. -/
theorem isText_of_mem_decodeFrom {place : Place} {field : List UInt8}
    {record : List (List UInt8)} (hfield : IsText field.reverse)
    (hrecord : ∀ f ∈ record, IsText f) (cs : List Char) :
    ∀ read ∈ decodeFrom place field record (cs.flatMap String.utf8EncodeChar),
      ∀ f ∈ read, IsText f := by
  have hempty : IsText ([] : List UInt8).reverse := isText_nil
  induction cs generalizing place field record with
  | nil =>
      intro read hread
      rw [List.flatMap_nil, decodeFrom] at hread
      split at hread
      · simp at hread
      · rw [List.mem_singleton.mp hread]
        exact isText_of_mem_reverse_cons hfield hrecord
  | cons c cs ih =>
      rw [List.flatMap_cons]
      by_cases hplain : ∀ b ∈ String.utf8EncodeChar c, needsQuotes b = false
      · obtain ⟨next, hsame⟩ := exists_decodeFrom_keep hplain place field record
          (cs.flatMap String.utf8EncodeChar)
        rw [hsame]
        refine ih ?_ hrecord
        rw [List.reverse_append, List.reverse_reverse]
        exact hfield.append (isText_utf8EncodeChar c)
      · obtain ⟨b, hmem, hb⟩ : ∃ b ∈ String.utf8EncodeChar c,
            needsQuotes b = true := by
          simpa using hplain
        have hbyte := utf8EncodeChar_of_needsQuotes hmem hb
        have hkept : IsText (b :: field).reverse := by
          rw [List.reverse_cons, ← hbyte]
          exact hfield.append (isText_utf8EncodeChar c)
        rw [hbyte, List.singleton_append, decodeFrom]
        split
        · exact ih hkept hrecord
        · exact ih hfield hrecord
        · refine ih hempty ?_
          rintro f (_ | ⟨_, hearlier⟩)
          · exact hfield
          · exact hrecord f hearlier
        · rintro read (_ | ⟨_, hlater⟩)
          · exact isText_of_mem_reverse_cons hfield hrecord
          · exact ih hempty (by simp) read hlater

/-- A byte order mark is a character, so what stands behind it is a text as
well. -/
theorem IsText.dropMark {bytes : List UInt8} (h : IsText bytes) :
    IsText (dropMark bytes) := by
  obtain ⟨s, rfl⟩ := h
  rw [← String.ofList_toList (s := s), bytesOf_ofList]
  cases s.toList with
  | nil => exact isText_nil
  | cons c cs =>
      rw [List.flatMap_cons]
      by_cases hmark : c = '\uFEFF'
      · have hbytes : String.utf8EncodeChar '\uFEFF' = [0xEF, 0xBB, 0xBF] := by
          decide
        rw [hmark, hbytes]
        exact ⟨String.ofList cs, bytesOf_ofList cs⟩
      · rw [dropMark_utf8EncodeChar hmark]
        exact ⟨String.ofList (c :: cs), by rw [bytesOf_ofList,
          List.flatMap_cons]⟩

/-- Every text can be read as records. -/
theorem exists_decode?_of_isText {bytes : List UInt8} (h : IsText bytes) :
    ∃ records, decode? bytes = some records := by
  obtain ⟨s, hs⟩ := h.dropMark
  have htexts : ∀ read ∈ decodeFrom .line [] [] (dropMark bytes),
      read ∈ Set.range (List.map bytesOf) := by
    rw [Set.range_list_map, ← hs, ← String.ofList_toList (s := s),
      bytesOf_ofList]
    have hempty : IsText ([] : List UInt8).reverse := isText_nil
    exact isText_of_mem_decodeFrom hempty (by simp) s.toList
  obtain ⟨records, hrecords⟩ : decodeFrom .line [] [] (dropMark bytes) ∈
      Set.range (List.map (List.map bytesOf)) := by
    rw [Set.range_list_map]
    exact htexts
  refine ⟨records, ?_⟩
  rw [decode?, ← hrecords]
  exact List.mapM_map_self fun record _ =>
    List.mapM_map_self fun s _ => utf8Text?_bytesOf s

end ReportQuery.Csv
