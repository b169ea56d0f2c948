import ReportQuery.Cache.Store
import ReportQuery.Proofs.Csv.RoundTrip
import ReportQuery.Service.Answer

/-!
# Stored reports

What is stored under a key is what the store returns for this key until the
file expires. Only a record without values has no written form of its own, and
only a byte order mark at the very front is lost; the text of the file is also
a report in the form in which the service answers.
-/

namespace ReportQuery.ReportStore

variable {store : ReportStore} {key : String}

theorem path_of_ne (hkey : key ≠ "") : path key = .ok (fileName key) := by
  rw [path, if_neg (by simpa [String.isEmpty_iff] using hkey)]

/-- The file that holds records under a key. -/
def reportFile (now : Int) (key : String) (records : Records) : StoredFile where
  name := fileName key
  content := Csv.encode records
  modified := now

theorem set_of_ne (hkey : key ≠ "") (store : ReportStore) (now : Int)
    (records : Records) :
    store.set now key records =
      .ok (store.write (reportFile now key records)) := by
  rw [set, path_of_ne hkey]
  rfl

/-- A file in its time is read for what it holds. -/
theorem get_of_file (hkey : key ≠ "") {file : StoredFile}
    (hfile : store.file? (fileName key) = some file) {now : Int}
    (hage : now - file.modified ≤ store.maxAge) {records : Records}
    (hcontent : Csv.decode? file.content = some records) :
    store.get now key = .ok records := by
  have hfresh : store.isExpired now file = false := by
    rw [isExpired, decide_eq_false_iff_not]
    omega
  rw [get, if_neg (by simpa [String.isEmpty_iff] using hkey), hfile]
  simp [hfresh, hcontent]

/-- The text of a file that holds records is read as these records, as an
answer of the service would be. -/
theorem exists_report_of_decode? {bytes : List UInt8} (htext : Csv.IsText bytes)
    {records : Records} (h : Csv.decode? bytes = some records) :
    ∃ text, Text.utf8Text? bytes = some text ∧
      Answer.report text.toList = .ok records := by
  obtain ⟨text, rfl⟩ := htext
  refine ⟨text, Csv.utf8Text?_bytesOf text, ?_⟩
  rw [Answer.report, String.ofList_toList, h]

/-- Records stored under a key are returned for it as long as their file lasts,
and its text is a report of the same records. -/
theorem get_of_set (hkey : key ≠ "") {records : Records}
    (hrows : ∀ record ∈ records, record ≠ [])
    (hmark : ∀ cell, records.head?.bind List.head? = some cell →
      cell.toList.head? ≠ some '\uFEFF') (store : ReportStore) (now : Int) :
    ∃ stored, store.set now key records = .ok stored ∧
      (∀ later, later - now ≤ store.maxAge →
        stored.get later key = .ok records) ∧
      ∃ file text, stored.file? (fileName key) = some file ∧
        Text.utf8Text? file.content = some text ∧
        Answer.report text.toList = .ok records := by
  have hdecode := Csv.decode?_encode hrows hmark
  have hfile : (store.write (reportFile now key records)).file? (fileName key) =
      some (reportFile now key records) :=
    file?_write_same store (reportFile now key records)
  obtain ⟨text, htext, hreport⟩ :=
    exists_report_of_decode? (Csv.isText_encode records) hdecode
  refine ⟨_, set_of_ne hkey store now records, ?_, _, text, hfile,
    htext, hreport⟩
  intro later hlater
  exact get_of_file hkey hfile hlater hdecode

/-- Records of different lengths with marks, quotes, line breaks, outer blanks
and nothing in them. -/
def oddRecords : Records :=
  [["Rome, \"Roma\"", " 12 ", "a\r\nb"], [""], ["", ""], ["\u20ac \uFEFF"]]

/-- Odd records and no records are returned a minute after they were stored. -/
theorem get_of_set_oddRecords :
    (∃ stored, (ReportStore.mk 3600 []).set 1000 "SELECT City" oddRecords =
      .ok stored ∧ stored.get 1060 "SELECT City" = .ok oddRecords) ∧
    ∃ stored, (ReportStore.mk 3600 []).set 1000 "SELECT City" [] = .ok stored ∧
      stored.get 1060 "SELECT City" = .ok [] := by
  have hkey : "SELECT City" ≠ "" := by decide
  have hrows : ∀ record ∈ oddRecords, record ≠ [] := by decide
  have hmark : ∀ cell, oddRecords.head?.bind List.head? = some cell →
      cell.toList.head? ≠ some '\uFEFF' := by
    rintro cell hcell
    obtain rfl := Option.some.inj hcell
    decide
  have hnone : ∀ record ∈ ([] : Records), record ≠ [] := by simp
  obtain ⟨stored, hset, hget, -⟩ := get_of_set hkey hrows hmark ⟨3600, []⟩ 1000
  obtain ⟨empty, hset', hget', -⟩ :=
    get_of_set hkey hnone (by simp) ⟨3600, []⟩ 1000
  exact ⟨⟨stored, hset, hget 1060 (by decide)⟩, empty, hset',
    hget' 1060 (by decide)⟩

end ReportQuery.ReportStore
