import ReportQuery.Proofs.Cache.Histories
import ReportQuery.Proofs.Csv.Texts
import ReportQuery.Proofs.Results

/-!
# What is present in a store

A report is present in one way for the reader of a store and in another way for
its writers: the reader asks for a file in its time that holds records, the
writers only for a file. What a store writes can always be read, so the two
disagree about a key exactly as long as its file is too old and nothing has
flushed it.
-/

namespace ReportQuery.ReportStore

variable {store : ReportStore} {key : String} {now : Int}

/-- A key can be added when nothing is returned for it, and can be replaced and
deleted when something is. -/
structure AgreesOn (store : ReportStore) (now : Int) (key : String) : Prop where
  add : ∀ records,
    (∃ later, store.add now key records = .ok later) ↔
    store.get now key = .error .miss
  replace : ∀ records,
    (∃ later, store.replace now key records = .ok later) ↔
      ∃ found, store.get now key = .ok found
  delete : (∃ later, store.delete key = .ok later) ↔
    ∃ found, store.get now key = .ok found

/-- The file of a key is there, but too old. -/
def HasExpired (store : ReportStore) (now : Int) (key : String) : Prop :=
  ∃ file, store.file? (fileName key) = some file ∧
    store.isExpired now file = true

/-- Every file holds records. -/
def Readable (store : ReportStore) : Prop :=
  ∀ file ∈ store.files, ∃ records, Csv.decode? file.content = some records

/-! ## What a request does -/

theorem eq_fileName_of_path {name : String} (h : path key = .ok name) :
    name = fileName key := by
  rw [path] at h
  split at h
  · simp at h
  · exact (Except.ok.inj h).symm

theorem eq_write_of_set {later : ReportStore} {records : Records}
    (h : store.set now key records = .ok later) :
    later = store.write (reportFile now key records) := by
  obtain ⟨name, hname, rfl⟩ := Except.map_eq_ok_iff.mp h
  rw [eq_fileName_of_path hname]
  rfl

variable {P : ReportStore → Prop}

theorem of_settle {result : Except CacheError ReportStore} (hstore : P store)
    (hlater : ∀ later, result = .ok later → P later) :
    P (store.settle result).2 := by
  cases result with
  | ok later => exact hlater later rfl
  | error error => exact hstore

/-- A request leaves the store as it was, writes records under a key, takes the
file of a name away, or takes files away by their age or altogether. -/
theorem of_respond (hstore : P store)
    (hwrite : ∀ key records, P (store.write (reportFile now key records)))
    (herase : ∀ name, P (store.erase name)) (hclear : P store.clear.1)
    (hflush : P (store.flushExpired now).1) (request : StoreRequest) :
    P (store.respond now request).2 := by
  have hset : ∀ {key records later}, store.set now key records = .ok later →
      P later := by
    intro key records later hset
    rw [eq_write_of_set hset]
    exact hwrite key records
  cases request with
  | set key records => exact of_settle hstore fun later hlater => hset hlater
  | add key records =>
      refine of_settle hstore fun later hlater => ?_
      obtain ⟨name, -, hname⟩ := Except.bind_eq_ok_iff.mp hlater
      split at hname
      · simp at hname
      · exact hset hname
  | replace key records =>
      refine of_settle hstore fun later hlater => ?_
      obtain ⟨name, -, hname⟩ := Except.bind_eq_ok_iff.mp hlater
      split at hname
      · exact hset hname
      · simp at hname
  | delete key =>
      refine of_settle hstore fun later hlater => ?_
      obtain ⟨name, -, hname⟩ := Except.bind_eq_ok_iff.mp hlater
      split at hname
      · rw [← Except.ok.inj hname]
        exact herase name
      · simp at hname
  | get key =>
      rw [respond]
      split <;> exact hstore
  | clear => exact hclear
  | flushExpired => exact hflush

/-! ## Readable stores -/

theorem Readable.filter (h : store.Readable) (keep : StoredFile → Bool) :
    Readable { store with files := store.files.filter keep } :=
  fun file hfile => h file (List.mem_of_mem_filter hfile)

theorem Readable.write (h : store.Readable) (now : Int) (key : String)
    (records : Records) :
    (store.write (reportFile now key records)).Readable := by
  intro file hfile
  rcases List.mem_append.mp hfile with hkept | hnew
  · exact h file (List.mem_of_mem_filter hkept)
  · rw [List.mem_singleton.mp hnew]
    exact Csv.exists_decode?_of_isText (Csv.isText_encode records)

theorem Readable.respond (h : store.Readable) (now : Int)
    (request : StoreRequest) : (store.respond now request).2.Readable :=
  of_respond h (h.write now) (fun _ => h.filter _) (by simp [clear, Readable])
    (h.filter _) request

theorem readable_replay (maxAge : Nat) (history : List (Int × StoreRequest)) :
    (replay ⟨maxAge, []⟩ history).Readable := by
  induction history using List.reverseRecOn with
  | nil => simp [replay, Readable]
  | append_singleton earlier event ih =>
      rw [replay, List.foldl_append]
      exact ih.respond event.1 event.2

/-! ## What the reader and the writers see -/

theorem get_eq_miss_iff :
    store.get now key = .error .miss ↔
      ¬ ∃ found, store.get now key = .ok found := by
  rw [get_eq_elim]
  cases store.records? now key <;> simp

section OneKey

variable (hkey : key ≠ "")
include hkey

/-- In a readable store, what is in its time is returned. -/
theorem Readable.exists_get_iff (h : store.Readable) :
    (∃ found, store.get now key = .ok found) ↔
      ∃ file, store.file? (fileName key) = some file ∧
        store.isExpired now file = false := by
  constructor
  · rintro ⟨found, hfound⟩
    rw [get_eq_ok_iff, records?, if_neg hkey] at hfound
    obtain ⟨file, hfile, -⟩ := Option.bind_eq_some_iff.mp hfound
    obtain ⟨hthere, hfresh⟩ := Option.filter_eq_some_iff.mp hfile
    exact ⟨file, hthere, by simpa using hfresh⟩
  · rintro ⟨file, hthere, hfresh⟩
    obtain ⟨records, hrecords⟩ := h file (List.mem_of_find?_eq_some hthere)
    have hage : now - file.modified ≤ store.maxAge := by
      simpa [isExpired] using hfresh
    exact ⟨records, get_of_file hkey hthere hage hrecords⟩

theorem exists_add_iff (records : Records) :
    (∃ later, store.add now key records = .ok later) ↔
      store.file? (fileName key) = none := by
  rw [add_of_ne hkey]
  cases store.file? (fileName key) <;> simp

theorem exists_replace_iff (records : Records) :
    (∃ later, store.replace now key records = .ok later) ↔
      ∃ file, store.file? (fileName key) = some file := by
  rw [replace_of_ne hkey]
  cases store.file? (fileName key) <;> simp

theorem exists_delete_iff :
    (∃ later, store.delete key = .ok later) ↔
      ∃ file, store.file? (fileName key) = some file := by
  rw [delete_of_ne hkey]
  cases store.file? (fileName key) <;> simp

/-- Reader and writers disagree about a key only over a file that is too old. -/
theorem Readable.agreesOn_iff (h : store.Readable) :
    store.AgreesOn now key ↔ ¬ store.HasExpired now key := by
  have hget : (∃ found, store.get now key = .ok found) ↔ _ :=
    h.exists_get_iff hkey
  constructor
  · rintro hagrees ⟨file, hfile, hold⟩
    obtain ⟨found, hfound⟩ :=
      hagrees.delete.mp ((exists_delete_iff hkey).mpr ⟨file, hfile⟩)
    obtain ⟨other, hother, hfresh⟩ := hget.mp ⟨found, hfound⟩
    obtain rfl := Option.some.inj (hfile.symm.trans hother)
    exact absurd (hold.symm.trans hfresh) (by simp)
  · intro hnone
    have hpresent : (∃ found, store.get now key = .ok found) ↔
        ∃ file, store.file? (fileName key) = some file := by
      rw [hget]
      refine ⟨fun ⟨file, hfile, _⟩ => ⟨file, hfile⟩,
        fun ⟨file, hfile⟩ => ⟨file, hfile, ?_⟩⟩
      rw [← Bool.not_eq_true]
      exact fun hold => hnone ⟨file, hfile, hold⟩
    refine ⟨fun records => ?_, fun records => ?_, ?_⟩
    · rw [exists_add_iff hkey, get_eq_miss_iff, hpresent,
        Option.eq_none_iff_forall_ne_some]
      simp
    · rw [exists_replace_iff hkey, hpresent]
    · rw [exists_delete_iff hkey, hpresent]

end OneKey

/-- After any history of requests at any times, the operations agree on what is
present under a key unless its file is too old. Such a file is not returned,
but it is in the way of an addition, can be replaced and can be deleted. -/
theorem agreesOn_replay_iff (hkey : key ≠ "") (maxAge : Nat)
    (history : List (Int × StoreRequest)) (now : Int) :
    ((replay ⟨maxAge, []⟩ history).AgreesOn now key ↔
      ¬ (replay ⟨maxAge, []⟩ history).HasExpired now key) ∧
    ((replay ⟨maxAge, []⟩ history).HasExpired now key →
      (replay ⟨maxAge, []⟩ history).get now key = .error .miss ∧
      (∀ records, (replay ⟨maxAge, []⟩ history).add now key records =
        .error (.notStored key)) ∧
      (∀ records, ∃ later,
        (replay ⟨maxAge, []⟩ history).replace now key records = .ok later) ∧
      ∃ later, (replay ⟨maxAge, []⟩ history).delete key = .ok later) := by
  have hreadable := readable_replay maxAge history
  refine ⟨hreadable.agreesOn_iff hkey, ?_⟩
  rintro ⟨file, hfile, hold⟩
  refine ⟨?_, fun records => ?_, fun records => ?_, ?_⟩
  · rw [get_eq_miss_iff, hreadable.exists_get_iff hkey]
    rintro ⟨other, hother, hfresh⟩
    obtain rfl := Option.some.inj (hfile.symm.trans hother)
    exact absurd (hold.symm.trans hfresh) (by simp)
  · rw [add_of_ne hkey, hfile]
    rfl
  · exact (exists_replace_iff hkey records).mpr ⟨file, hfile⟩
  · exact (exists_delete_iff hkey).mpr ⟨file, hfile⟩

/-- Two entries with an age of ten at most, of which one is written again after
a while. -/
def pantryHistory : List (Int × StoreRequest) :=
  [(0, .set "a" [["1"]]), (2, .set "b" [["\uFEFF"], []]),
    (7, .replace "a" [["2"]])]

theorem file?_pantryHistory :
    (replay ⟨10, []⟩ pantryHistory).file? (fileName "a") =
      some (reportFile 7 "a" [["2"]]) ∧
    (replay ⟨10, []⟩ pantryHistory).file? (fileName "b") =
      some (reportFile 2 "b" [["\uFEFF"], []]) := by
  decide +kernel

/-- At fifteen the operations agree on the newer entry, and the older one can
be replaced although it is not returned. -/
theorem agreesOn_replay_pantryHistory :
    "a" ≠ "" ∧ "b" ≠ "" ∧ (replay ⟨10, []⟩ pantryHistory).AgreesOn 15 "a" ∧
    (replay ⟨10, []⟩ pantryHistory).get 15 "b" = .error .miss ∧
    (∀ records, (replay ⟨10, []⟩ pantryHistory).add 15 "b" records =
      .error (.notStored "b")) ∧
    ∃ later, (replay ⟨10, []⟩ pantryHistory).replace 15 "b" [] = .ok later := by
  have hfirst : "a" ≠ "" := by decide
  have hsecond : "b" ≠ "" := by decide
  obtain ⟨ha, hb⟩ := file?_pantryHistory
  have hfresh : ¬ (replay ⟨10, []⟩ pantryHistory).HasExpired 15 "a" := by
    rintro ⟨file, hfile, hold⟩
    obtain rfl := Option.some.inj (ha.symm.trans hfile)
    exact absurd hold (by decide)
  have hold : (replay ⟨10, []⟩ pantryHistory).HasExpired 15 "b" :=
    ⟨_, hb, by decide⟩
  obtain ⟨hmiss, hadd, hreplace, -⟩ :=
    (agreesOn_replay_iff hsecond 10 pantryHistory 15).2 hold
  exact ⟨hfirst, hsecond, (agreesOn_replay_iff hfirst 10 pantryHistory 15).1.mpr
    hfresh, hmiss, hadd, hreplace []⟩

/-- At twenty nothing is returned for a key that was written at zero, and still
it cannot be added. -/
theorem not_agreesOn_oldEntry :
    "a" ≠ "" ∧ ¬ (replay ⟨10, []⟩ [(0, .set "a" [["1"]])]).AgreesOn 20 "a" := by
  refine ⟨by decide, fun hagrees => ?_⟩
  have hmiss : (replay ⟨10, []⟩ [(0, .set "a" [["1"]])]).get 20 "a" =
      .error .miss := by
    decide +kernel
  have hrefused : (replay ⟨10, []⟩ [(0, .set "a" [["1"]])]).add 20 "a" [["2"]] =
      .error (.notStored "a") := by
    decide +kernel
  obtain ⟨later, hlater⟩ := (hagrees.add [["2"]]).mpr hmiss
  exact absurd (hrefused.symm.trans hlater) (by simp)

end ReportQuery.ReportStore
