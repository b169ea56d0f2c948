import Mathlib.Data.Set.Card
import ReportQuery.Proofs.Cache.FileNames
import ReportQuery.Proofs.Cache.StoredReport

/-!
# Histories of a store

A store that was fresh answers whatever is asked of it, in any order and at any
times, as a map of keys to aged records does. An entry that is too old is not
returned, but it is still there: it stands in the way of an addition, can be
replaced and deleted, and is counted when all entries are removed. The map
therefore keeps an entry until something removes it, and looks at its age only
when it is asked for records or to flush what has expired.

The store keeps files under the hashes of keys. Over keys with different hashes
the files are the entries of the map, one for one, and every request keeps them
so.
-/

namespace ReportQuery

/-- What can be asked of a store. -/
inductive StoreRequest where
  | set (key : String) (records : Records)
  | add (key : String) (records : Records)
  | replace (key : String) (records : Records)
  | delete (key : String)
  | get (key : String)
  | clear
  | flushExpired
deriving DecidableEq, Repr

/-- What a store answers. -/
inductive StoreReply where
  | done
  | records (records : Records)
  | removed (count : Nat)
  | refused (error : CacheError)
deriving DecidableEq, Repr

namespace StoreRequest

/-- The key that a request is about, when it is about one. -/
def key? : StoreRequest → Option String
  | set key _ | add key _ | replace key _ | delete key | get key => some key
  | clear | flushExpired => none

/-- A request whose key is one of some keys, and whose records have a written
form. -/
def IsAbout (keys : Set String) : StoreRequest → Prop
  | set key records | add key records | replace key records =>
    key ∈ keys ∧ Csv.decode? (Csv.encode records) = some records
  | delete key | get key => key ∈ keys
  | clear | flushExpired => True

theorem IsAbout.mem_of_key? {keys : Set String} {request : StoreRequest}
    {key : String} (h : request.IsAbout keys) (hkey : request.key? = some key) :
    key ∈ keys := by
  cases request <;> simp_all [IsAbout, key?]

end StoreRequest

/-! ## Aged records -/

/-- Records and the time at which they were written. -/
structure AgedRecords where
  records : Records
  written : Int
deriving DecidableEq, Repr

/-- Records that were written longer ago than allowed. -/
def AgedRecords.IsOld (maxAge : Nat) (now : Int) (entry : AgedRecords) : Prop :=
  (maxAge : Int) < now - entry.written

instance (maxAge : Nat) (now : Int) (entry : AgedRecords) :
    Decidable (entry.IsOld maxAge now) :=
  inferInstanceAs (Decidable (_ < _))

/-- A map of keys to aged records. -/
abbrev AgedMap := String → Option AgedRecords

namespace AgedMap

/-- The entry of a key unless it is too old. -/
def fresh? (map : AgedMap) (maxAge : Nat) (now : Int) (key : String) :
    Option AgedRecords :=
  (map key).filter fun entry => ¬ entry.IsOld maxAge now

theorem fresh?_eq_some_iff {map : AgedMap} {maxAge : Nat} {now : Int}
    {key : String} {entry : AgedRecords} :
    map.fresh? maxAge now key = some entry ↔
      map key = some entry ∧ now - entry.written ≤ maxAge := by
  rw [fresh?, Option.filter_eq_some_iff, decide_eq_true_iff,
    AgedRecords.IsOld, Int.not_lt]

/-- The map after a request. -/
def after (maxAge : Nat) (map : AgedMap) (now : Int) : StoreRequest → AgedMap
  | .set key records => Function.update map key (some ⟨records, now⟩)
  | .add key records =>
    if (map key).isSome then map
    else Function.update map key (some ⟨records, now⟩)
  | .replace key records =>
    if (map key).isSome then Function.update map key (some ⟨records, now⟩)
    else map
  | .delete key => Function.update map key none
  | .get _ => map
  | .clear => fun _ => none
  | .flushExpired => map.fresh? maxAge now

/-- What the map answers to a request. -/
noncomputable def reply (maxAge : Nat) (map : AgedMap) (now : Int) :
    StoreRequest → StoreReply
  | .set _ _ => .done
  | .add key _ => if (map key).isSome then .refused (.notStored key) else .done
  | .replace key _ =>
    if (map key).isSome then .done else .refused (.notStored key)
  | .delete key => if (map key).isSome then .done else .refused .miss
  | .get key =>
    match map.fresh? maxAge now key with
    | some entry => .records entry.records
    | none => .refused .miss
  | .clear => .removed {key | (map key).isSome}.ncard
  | .flushExpired =>
    .removed {key | ∃ entry ∈ map key, entry.IsOld maxAge now}.ncard

/-- The map after requests at their times, one after the other. -/
def replay (maxAge : Nat) (history : List (Int × StoreRequest)) : AgedMap :=
  history.foldl (fun map event => after maxAge map event.1 event.2) fun _ =>
    none

end AgedMap

namespace ReportStore

/-- The store after an operation; a refused one changes nothing. -/
def settle (store : ReportStore) :
    Except CacheError ReportStore → StoreReply × ReportStore
  | .ok later => (.done, later)
  | .error error => (.refused error, store)

/-- What the store answers to a request, and the store after it. -/
def respond (store : ReportStore) (now : Int) :
    StoreRequest → StoreReply × ReportStore
  | .set key records => store.settle (store.set now key records)
  | .add key records => store.settle (store.add now key records)
  | .replace key records => store.settle (store.replace now key records)
  | .delete key => store.settle (store.delete key)
  | .get key =>
    match store.get now key with
    | .ok records => (.records records, store)
    | .error error => (.refused error, store)
  | .clear => (.removed store.clear.2, store.clear.1)
  | .flushExpired =>
    (.removed (store.flushExpired now).2, (store.flushExpired now).1)

/-- The store after requests at their times, one after the other. -/
def replay (store : ReportStore) (history : List (Int × StoreRequest)) :
    ReportStore :=
  history.foldl (fun store event => (store.respond event.1 event.2).2) store

theorem settle_of_refused {store : ReportStore}
    {result : Except CacheError ReportStore} {error : CacheError}
    (h : (store.settle result).1 = .refused error) :
    (store.settle result).2 = store := by
  cases result with
  | ok later => simp [settle] at h
  | error error => rfl

theorem respond_of_refused {store : ReportStore} {now : Int}
    {request : StoreRequest} {error : CacheError}
    (h : (store.respond now request).1 = .refused error) :
    (store.respond now request).2 = store := by
  cases request with
  | set key records => exact settle_of_refused h
  | add key records => exact settle_of_refused h
  | replace key records => exact settle_of_refused h
  | delete key => exact settle_of_refused h
  | get key => cases hget : store.get now key <;> simp [respond, hget]
  | clear => simp [respond] at h
  | flushExpired => simp [respond] at h

/-! ## One key -/

section OneKey

variable {key : String} (hkey : key ≠ "")
include hkey

theorem add_of_ne (store : ReportStore) (now : Int) (records : Records) :
    store.add now key records =
      if (store.file? (fileName key)).isSome then .error (.notStored key)
      else .ok (store.write (reportFile now key records)) := by
  rw [add, path_of_ne hkey, set_of_ne hkey]
  rfl

theorem replace_of_ne (store : ReportStore) (now : Int) (records : Records) :
    store.replace now key records =
      if (store.file? (fileName key)).isSome then
        .ok (store.write (reportFile now key records))
      else .error (.notStored key) := by
  rw [replace, path_of_ne hkey, set_of_ne hkey]
  rfl

theorem delete_of_ne (store : ReportStore) :
    store.delete key =
      if (store.file? (fileName key)).isSome then
        .ok (store.erase (fileName key))
      else .error .miss := by
  rw [delete, path_of_ne hkey]
  rfl

end OneKey

/-- The records under a key, in a file that is in its time. -/
def records? (store : ReportStore) (now : Int) (key : String) :
    Option Records :=
  if key = "" then none
  else
    ((store.file? (fileName key)).filter fun file =>
      !store.isExpired now file).bind fun file =>
      Csv.decode? file.content

theorem get_eq_elim (store : ReportStore) (now : Int) (key : String) :
    store.get now key = (store.records? now key).elim (.error .miss) .ok := by
  rw [get, records?]
  by_cases hkey : key = ""
  · simp [hkey]
  · rw [if_neg (by simpa [String.isEmpty_iff] using hkey), if_neg hkey]
    cases store.file? (fileName key) with
    | none => rfl
    | some file =>
        cases hold : store.isExpired now file with
        | true => simp [Option.filter, hold]
        | false =>
            cases hread : Csv.decode? file.content <;>
            simp [Option.filter, hold, hread]

theorem get_eq_ok_iff {store : ReportStore} {now : Int} {key : String}
    {records : Records} :
    store.get now key = .ok records ↔
      store.records? now key = some records := by
  rw [get_eq_elim]
  cases store.records? now key <;> simp

/-- Flushing takes away nothing that could be returned. -/
theorem get_flushExpired {store : ReportStore} (h : store.NamesUnique)
    (now : Int) (key : String) :
    (store.flushExpired now).1.get now key = store.get now key := by
  have hsame : ∀ file : StoredFile,
      isExpired (store.flushExpired now).1 now file =
      store.isExpired now file := fun _ => rfl
  rw [get_eq_elim, get_eq_elim, records?, records?]
  simp only [hsame]
  rw [flushExpired, file?_filter h, Option.filter_filter]
  simp only [Bool.and_self]

/-! ## The store and the map -/

/-- The files of a store are the entries of a map: every file is that of a key,
the file of a key holds the records of its entry, and those have a written
form. -/
structure Mirrors (keys : Set String) (maxAge : Nat) (store : ReportStore)
    (map : AgedMap) : Prop where
  maxAge : store.maxAge = maxAge
  unique : store.NamesUnique
  named : ∀ file ∈ store.files, ∃ key ∈ keys, fileName key = file.name
  file? : ∀ key ∈ keys, store.file? (fileName key) =
    (map key).map fun entry => reportFile entry.written key entry.records
  known : ∀ key, key ∉ keys → map key = none
  readable : ∀ key, ∀ entry ∈ map key,
    Csv.decode? (Csv.encode entry.records) = some entry.records

variable {keys : Set String} {maxAge : Nat} {store : ReportStore}
  {map : AgedMap}

theorem Mirrors.fresh (keys : Set String) (maxAge : Nat) :
    Mirrors keys maxAge ⟨maxAge, []⟩ fun _ => none where
  maxAge := rfl
  unique := List.nodup_nil
  named := by simp
  file? := fun _ _ => rfl
  known := fun _ _ => rfl
  readable := by simp

theorem Mirrors.isSome_file? (h : Mirrors keys maxAge store map) {key : String}
    (hkey : key ∈ keys) : (store.file? (fileName key)).isSome =
      (map key).isSome := by
  rw [h.file? key hkey, Option.isSome_map]

theorem Mirrors.isExpired_reportFile (h : Mirrors keys maxAge store map)
    (now : Int) (key : String) (entry : AgedRecords) :
    store.isExpired now (reportFile entry.written key entry.records) =
      decide (entry.IsOld maxAge now) := by
  rw [isExpired, h.maxAge]
  rfl

theorem Mirrors.records? (h : Mirrors keys maxAge store map)
    (hne : ∀ key ∈ keys, key ≠ "") (now : Int) {key : String}
    (hkey : key ∈ keys) :
    store.records? now key =
      (map.fresh? maxAge now key).map AgedRecords.records := by
  rw [ReportStore.records?, if_neg (hne key hkey), h.file? key hkey,
    AgedMap.fresh?]
  cases hentry : map key with
  | none => rfl
  | some entry =>
      have hread :
          Csv.decode? (reportFile entry.written key entry.records).content =
          some entry.records := h.readable key entry hentry
      rw [Option.map_some, Option.filter_some, h.isExpired_reportFile,
        Option.filter_some]
      by_cases hold : entry.IsOld maxAge now
      · simp [hold]
      · simp [hold, hread]

/-- As many files satisfy a test as there are keys whose entries do. -/
theorem Mirrors.countP (h : Mirrors keys maxAge store map)
    (hnames : Set.InjOn fileName keys) {test : StoredFile → Bool}
    {P : AgedRecords → Prop}
    (htest : ∀ key entry, test (reportFile entry.written key entry.records) =
      true ↔ P entry) :
    store.files.countP test = {key | ∃ entry ∈ map key, P entry}.ncard := by
  have hsubset : {key | ∃ entry ∈ map key, P entry} ⊆ keys := by
    rintro key ⟨entry, hentry, -⟩
    by_contra hkey
    simp [h.known key hkey] at hentry
  have himage : fileName '' {key | ∃ entry ∈ map key, P entry} =
      (((store.files.filter test).map StoredFile.name).toFinset :
        Set String) := by
    ext name
    simp only [Set.mem_image, Set.mem_ofPred_eq, List.coe_toFinset,
      List.mem_map, List.mem_filter]
    constructor
    · rintro ⟨key, ⟨entry, hentry, hP⟩, rfl⟩
      have hfile := h.file? key (hsubset ⟨entry, hentry, hP⟩)
      rw [Option.mem_def.mp hentry, Option.map_some,
        file?_eq_some_iff h.unique] at hfile
      exact ⟨_, ⟨hfile.1, (htest key entry).mpr hP⟩, rfl⟩
    · rintro ⟨file, ⟨hmem, hpass⟩, rfl⟩
      obtain ⟨key, hkey, hname⟩ := h.named file hmem
      have hfile := (file?_eq_some_iff h.unique).mpr ⟨hmem, hname.symm⟩
      rw [h.file? key hkey] at hfile
      obtain ⟨entry, hentry, rfl⟩ := Option.map_eq_some_iff.mp hfile
      exact ⟨key, ⟨entry, hentry, (htest key entry).mp hpass⟩, hname⟩
  have hnodup : ((store.files.filter test).map StoredFile.name).Nodup :=
    h.unique.filter test
  rw [← (hnames.mono hsubset).ncard_image, himage, Set.ncard_coe_finset,
    List.toFinset_card_of_nodup hnodup, List.length_map,
    List.countP_eq_length_filter]

/-! ## What a request keeps -/

theorem Mirrors.write (h : Mirrors keys maxAge store map)
    (hnames : Set.InjOn fileName keys) {key : String} (hkey : key ∈ keys)
    {records : Records}
    (hrecords : Csv.decode? (Csv.encode records) = some records) (now : Int) :
    Mirrors keys maxAge (store.write (reportFile now key records))
      (Function.update map key (some ⟨records, now⟩)) where
  maxAge := h.maxAge
  unique := h.unique.write _
  named := by
    intro file hfile
    rcases List.mem_append.mp hfile with hkept | hnew
    · exact h.named file (List.mem_of_mem_filter hkept)
    · obtain rfl := List.mem_singleton.mp hnew
      exact ⟨key, hkey, rfl⟩
  file? := by
    intro other hother
    by_cases heq : other = key
    · subst heq
      rw [Function.update_self]
      exact file?_write_same store (reportFile now other records)
    · have hname : fileName other ≠ (reportFile now key records).name :=
        fun hsame => heq (hnames hother hkey hsame)
      rw [Function.update_of_ne heq, file?_write_other store hname,
        h.file? other hother]
  known := by
    intro other hother
    have hne : other ≠ key := fun heq => hother (heq ▸ hkey)
    rw [Function.update_of_ne hne, h.known other hother]
  readable := by
    intro other entry hentry
    by_cases heq : other = key
    · subst heq
      rw [Function.update_self, Option.mem_some_iff] at hentry
      subst hentry
      exact hrecords
    · rw [Function.update_of_ne heq] at hentry
      exact h.readable other entry hentry

theorem Mirrors.erase (h : Mirrors keys maxAge store map)
    (hnames : Set.InjOn fileName keys) {key : String} (hkey : key ∈ keys) :
    Mirrors keys maxAge (store.erase (fileName key))
      (Function.update map key none) where
  maxAge := h.maxAge
  unique := h.unique.erase _
  named := fun file hfile => h.named file (List.mem_of_mem_filter hfile)
  file? := by
    intro other hother
    by_cases heq : other = key
    · subst heq
      rw [Function.update_self]
      exact file?_erase_same store (fileName other)
    · have hname : fileName other ≠ fileName key :=
        fun hsame => heq (hnames hother hkey hsame)
      rw [Function.update_of_ne heq, file?_erase_other store hname,
        h.file? other hother]
  known := by
    intro other hother
    by_cases heq : other = key
    · rw [heq, Function.update_self]
    · rw [Function.update_of_ne heq, h.known other hother]
  readable := by
    intro other entry hentry
    by_cases heq : other = key
    · simp [heq] at hentry
    · rw [Function.update_of_ne heq] at hentry
      exact h.readable other entry hentry

/-- A key without a file has no entry, and is as if it were deleted. -/
theorem Mirrors.update_none (h : Mirrors keys maxAge store map) {key : String}
    (hnone : map key = none) :
    Mirrors keys maxAge store (Function.update map key none) := by
  rwa [← hnone, Function.update_eq_self]

theorem Mirrors.flushExpired (h : Mirrors keys maxAge store map) (now : Int) :
    Mirrors keys maxAge (store.flushExpired now).1 (map.fresh? maxAge now) where
  maxAge := h.maxAge
  unique := h.unique.filter _
  named := fun file hfile => h.named file (List.mem_of_mem_filter hfile)
  file? := by
    intro key hkey
    rw [ReportStore.flushExpired, file?_filter h.unique, h.file? key hkey,
      AgedMap.fresh?]
    cases hentry : map key with
    | none => rfl
    | some entry =>
        have hexpired := h.isExpired_reportFile now key entry
        by_cases hold : entry.IsOld maxAge now <;>
          simp [Option.filter, hexpired, hold]
  known := by
    intro key hkey
    rw [AgedMap.fresh?, h.known key hkey, Option.filter_none]
  readable := by
    intro key entry hentry
    exact h.readable key entry (Option.filter_eq_some_iff.mp hentry).1

theorem Mirrors.clear (h : Mirrors keys maxAge store map) :
    Mirrors keys maxAge store.clear.1 fun _ => none := by
  have hstart := Mirrors.fresh keys maxAge
  rw [← h.maxAge] at hstart ⊢
  exact hstart

/-- A request is answered as by the map, and keeps store and map alike. -/
theorem Mirrors.respond (h : Mirrors keys maxAge store map)
    (hne : ∀ key ∈ keys, key ≠ "") (hnames : Set.InjOn fileName keys)
    (now : Int) {request : StoreRequest} (hrequest : request.IsAbout keys) :
    (store.respond now request).1 = AgedMap.reply maxAge map now request ∧
      Mirrors keys maxAge (store.respond now request).2
        (AgedMap.after maxAge map now request) := by
  cases request with
  | set key records =>
      obtain ⟨hkey, hrecords⟩ := hrequest
      rw [ReportStore.respond, set_of_ne (hne key hkey)]
      exact ⟨rfl, h.write hnames hkey hrecords now⟩
  | add key records =>
      obtain ⟨hkey, hrecords⟩ := hrequest
      rw [ReportStore.respond, add_of_ne (hne key hkey), h.isSome_file? hkey,
        AgedMap.reply, AgedMap.after]
      split
      · exact ⟨rfl, h⟩
      · exact ⟨rfl, h.write hnames hkey hrecords now⟩
  | replace key records =>
      obtain ⟨hkey, hrecords⟩ := hrequest
      rw [ReportStore.respond, replace_of_ne (hne key hkey),
        h.isSome_file? hkey, AgedMap.reply, AgedMap.after]
      split
      · exact ⟨rfl, h.write hnames hkey hrecords now⟩
      · exact ⟨rfl, h⟩
  | delete key =>
      have hkey : key ∈ keys := hrequest
      rw [ReportStore.respond, delete_of_ne (hne key hkey), h.isSome_file? hkey,
        AgedMap.reply, AgedMap.after]
      split
      · exact ⟨rfl, h.erase hnames hkey⟩
      · next hnone => exact ⟨rfl, h.update_none (by simpa using hnone)⟩
  | get key =>
      have hkey : key ∈ keys := hrequest
      rw [ReportStore.respond, get_eq_elim, h.records? hne now hkey,
        AgedMap.reply, AgedMap.after]
      cases map.fresh? maxAge now key <;> exact ⟨rfl, h⟩
  | clear =>
      refine ⟨?_, h.clear⟩
      have hcount : store.files.countP (fun _ => true) =
          {key | ∃ entry ∈ map key, True}.ncard := h.countP hnames fun _ _ => by
          simp
      have hkeys : {key | ∃ entry ∈ map key, True} =
          {key | (map key).isSome} := by
        simp [Option.isSome_iff_exists]
      rw [List.countP_true, hkeys] at hcount
      exact congrArg StoreReply.removed hcount
  | flushExpired =>
      refine ⟨?_, h.flushExpired now⟩
      exact congrArg StoreReply.removed
        (h.countP hnames fun key entry => by simp [h.isExpired_reportFile])

/-- A request about a key leaves the file of every other key as it is. -/
theorem file?_respond_of_ne (hne : ∀ key ∈ keys, key ≠ "")
    (hnames : Set.InjOn fileName keys) (store : ReportStore) (now : Int)
    {request : StoreRequest} {key other : String} (hkey : key ∈ keys)
    (hrequest : request.key? = some key) (hother : other ∈ keys)
    (hdiffers : other ≠ key) :
    (store.respond now request).2.file? (fileName other) =
      store.file? (fileName other) := by
  have hname : fileName other ≠ fileName key :=
    fun hsame => hdiffers (hnames hother hkey hsame)
  have hwrite : ∀ records,
      (store.write (reportFile now key records)).file? (fileName other) =
      store.file? (fileName other) :=
        fun records => file?_write_other store hname
  have hempty := hne key hkey
  cases request with
  | set key' records =>
      obtain rfl : key' = key := Option.some.inj hrequest
      rw [ReportStore.respond, set_of_ne hempty]
      exact hwrite records
  | add key' records =>
      obtain rfl : key' = key := Option.some.inj hrequest
      rw [ReportStore.respond, add_of_ne hempty]
      split
      · rfl
      · exact hwrite records
  | replace key' records =>
      obtain rfl : key' = key := Option.some.inj hrequest
      rw [ReportStore.respond, replace_of_ne hempty]
      split
      · exact hwrite records
      · rfl
  | delete key' =>
      obtain rfl : key' = key := Option.some.inj hrequest
      rw [ReportStore.respond, delete_of_ne hempty]
      split
      · exact file?_erase_other store hname
      · rfl
  | get key' =>
      cases hget : store.get now key' <;> simp [ReportStore.respond, hget]
  | clear => simp [StoreRequest.key?] at hrequest
  | flushExpired => simp [StoreRequest.key?] at hrequest

/-- After any history a fresh store and the map of that history are alike. -/
theorem mirrors_replay (hne : ∀ key ∈ keys, key ≠ "")
    (hnames : Set.InjOn fileName keys) {history : List (Int × StoreRequest)}
    (hhistory : ∀ event ∈ history, event.2.IsAbout keys) :
    Mirrors keys maxAge (replay ⟨maxAge, []⟩ history)
      (AgedMap.replay maxAge history) := by
  induction history using List.reverseRecOn with
  | nil => exact Mirrors.fresh keys maxAge
  | append_singleton earlier event ih =>
      have hearlier := ih fun other hother => hhistory other (by simp [hother])
      have hevent := hhistory event (by simp)
      rw [replay, AgedMap.replay, List.foldl_append, List.foldl_append]
      exact (hearlier.respond hne hnames event.1 hevent).2

/-! ## Answers after a history -/

/-- What a store answers at a time, and what becomes of its files, told by a
map of keys to aged records. -/
structure AnswersLike (keys : Set String) (maxAge : Nat) (store : ReportStore)
    (map : AgedMap) (now : Int) : Prop where
  /-- Every request is answered as by the map, with the numbers of entries
  removed. -/
  reply : ∀ request, request.IsAbout keys →
    (store.respond now request).1 = AgedMap.reply maxAge map now request
  get : ∀ key ∈ keys, ∀ records, store.get now key = .ok records ↔
    ∃ entry, map key = some entry ∧ now - entry.written ≤ maxAge ∧
    entry.records = records
  /-- A key has a file as long as it has an entry, however old. -/
  present : ∀ key ∈ keys, store.file? (fileName key) = none ↔ map key = none
  add : ∀ key ∈ keys, ∀ records,
    (∃ later, store.add now key records = .ok later) ↔
    store.file? (fileName key) = none
  replace : ∀ key ∈ keys, ∀ records,
    (∃ later, store.replace now key records = .ok later) ↔
    store.file? (fileName key) ≠ none
  delete : ∀ key ∈ keys,
    (∃ later, store.delete key = .ok later) ↔ store.file? (fileName key) ≠ none
  refused : ∀ request error, (store.respond now request).1 = .refused error →
    (store.respond now request).2 = store
  flushed : ∀ key ∈ keys, ∀ entry ∈ map key,
    (store.flushExpired now).1.file? (fileName key) =
      if entry.IsOld maxAge now then none else store.file? (fileName key)
  unnoticed : ∀ key, (store.flushExpired now).1.get now key = store.get now key
  others : ∀ request, request.IsAbout keys → ∀ key, request.key? = some key →
    ∀ other ∈ keys, other ≠ key →
      (store.respond now request).2.file? (fileName other) =
      store.file? (fileName other)

theorem Mirrors.answersLike (h : Mirrors keys maxAge store map)
    (hne : ∀ key ∈ keys, key ≠ "") (hnames : Set.InjOn fileName keys)
    (now : Int) : AnswersLike keys maxAge store map now where
  reply := fun _ hrequest => (h.respond hne hnames now hrequest).1
  get := by
    intro key hkey records
    rw [get_eq_ok_iff, h.records? hne now hkey, Option.map_eq_some_iff]
    simp only [AgedMap.fresh?_eq_some_iff, and_assoc]
  present := by
    intro key hkey
    rw [h.file? key hkey, Option.map_eq_none_iff]
  add := by
    intro key hkey records
    rw [add_of_ne (hne key hkey)]
    cases store.file? (fileName key) <;> simp
  replace := by
    intro key hkey records
    rw [replace_of_ne (hne key hkey)]
    cases store.file? (fileName key) <;> simp
  delete := by
    intro key hkey
    rw [delete_of_ne (hne key hkey)]
    cases store.file? (fileName key) <;> simp
  refused := fun _ _ => respond_of_refused
  flushed := by
    intro key hkey entry hentry
    rw [(h.flushExpired now).file? key hkey, h.file? key hkey, AgedMap.fresh?,
      Option.mem_def.mp hentry, Option.filter_some]
    by_cases hold : entry.IsOld maxAge now <;> simp [hold]
  unnoticed := get_flushExpired h.unique now
  others := fun _ hrequest _ hkey _ hother hdiffers =>
    file?_respond_of_ne hne hnames store now (hrequest.mem_of_key? hkey) hkey
      hother hdiffers

/-- After any history over keys with different hashes, a store that was fresh
answers as the map of that history, at any time. -/
theorem answersLike_replay (hne : ∀ key ∈ keys, key ≠ "")
    (hhashes : Set.InjOn Hash.ofText keys) {history : List (Int × StoreRequest)}
    (hhistory : ∀ event ∈ history, event.2.IsAbout keys) (maxAge : Nat)
    (now : Int) :
    AnswersLike keys maxAge (replay ⟨maxAge, []⟩ history)
      (AgedMap.replay maxAge history) now := by
  have hnames : Set.InjOn fileName keys := fun key hkey other hother hsame =>
    hhashes hkey hother (fileName_eq_iff.mp hsame)
  exact (mirrors_replay hne hnames hhistory).answersLike hne hnames now

/-- Two entries with an age of ten at most, of which one is written again after
a while. -/
def shelfHistory : List (Int × StoreRequest) :=
  [(0, .set "a" [["1"]]), (3, .add "b" [["2"]]), (5, .replace "a" [["3", ""]]),
    (6, .add "a" [["4"]]), (7, .flushExpired)]

/-- One entry is returned and the other is too old, but only a key without an
entry can be added. -/
theorem answersLike_replay_shelfHistory :
    (∀ key ∈ ({"a", "b", "c"} : Set String), key ≠ "") ∧
    Set.InjOn Hash.ofText {"a", "b", "c"} ∧
    (∀ event ∈ shelfHistory, event.2.IsAbout {"a", "b", "c"}) ∧
    (replay ⟨10, []⟩ shelfHistory).get 15 "a" = .ok [["3", ""]] ∧
    (replay ⟨10, []⟩ shelfHistory).get 15 "b" ≠ .ok [["2"]] ∧
    (∃ later, (replay ⟨10, []⟩ shelfHistory).replace 15 "b" [] = .ok later) ∧
    ¬ (∃ later, (replay ⟨10, []⟩ shelfHistory).add 15 "b" [] = .ok later) ∧
    ∃ later, (replay ⟨10, []⟩ shelfHistory).add 15 "c" [] = .ok later := by
  have hne : ∀ key ∈ ({"a", "b", "c"} : Set String), key ≠ "" := by
    rintro key (rfl | rfl | rfl) <;> decide
  have hhashes : Set.InjOn Hash.ofText {"a", "b", "c"} := by
    rintro key (rfl | rfl | rfl) other (rfl | rfl | rfl) <;> decide +kernel
  have hhistory : ∀ event ∈ shelfHistory, event.2.IsAbout {"a", "b", "c"} := by
    have hread : ∀ records ∈ [[["1"]], [["2"]], [["3", ""]], [["4"]]],
        Csv.decode? (Csv.encode records) = some records := by
      decide +kernel
    simp only [List.forall_mem_cons] at hread
    simp [shelfHistory, StoreRequest.IsAbout, hread]
  have h := answersLike_replay hne hhashes hhistory 10 15
  have hb : AgedMap.replay 10 shelfHistory "b" = some ⟨[["2"]], 3⟩ := by decide
  have hc : AgedMap.replay 10 shelfHistory "c" = none := by decide
  have hpresent : (replay ⟨10, []⟩ shelfHistory).file? (fileName "b") ≠ none :=
    mt (h.present "b" (by simp)).mp (by simp [hb])
  refine ⟨hne, hhashes, hhistory, ?_, ?_, ?_, ?_, ?_⟩
  · exact (h.get "a" (by simp) _).mpr
      ⟨⟨[["3", ""]], 5⟩, by decide, by decide, rfl⟩
  · rw [Ne, h.get "b" (by simp), hb]
    rintro ⟨entry, hentry, hage, -⟩
    obtain rfl := Option.some.inj hentry
    exact absurd hage (by decide)
  · exact (h.replace "b" (by simp) _).mpr hpresent
  · exact mt (h.add "b" (by simp) _).mp hpresent
  · exact (h.add "c" (by simp) _).mpr ((h.present "c" (by simp)).mpr hc)

end ReportStore

end ReportQuery
