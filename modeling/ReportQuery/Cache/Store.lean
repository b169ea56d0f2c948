import ReportQuery.Csv
import ReportQuery.Hash
import ReportQuery.Numeral

/-!
# The report store

A store keeps one file of records per key, named by the hash of the key. A file
that is older than the store allows is as good as missing, and so is one that
holds no records in their written form. Times are counted in nanoseconds.
-/

namespace ReportQuery

/-- Why the store refuses a request. -/
inductive CacheError where
  /-- Nothing usable is stored under the key. -/
  | miss
  | notStored (key : String)
  /-- The empty key names no file. -/
  | invalidKey
deriving DecidableEq, Repr

/-- The message of the error. -/
def CacheError.message : CacheError → String
  | miss => "CacheError.CACHE_MISS"
  | notStored key => "CacheError.NOT_STORED (" ++ key ++ ")"
  | invalidKey => "CacheError.INVALID_KEY"

/-- A file of the store. -/
structure StoredFile where
  name : String
  content : List UInt8
  modified : Int
deriving DecidableEq, Repr

/-- The files of a store and the age at which they expire. -/
structure ReportStore where
  maxAge : Nat
  files : List StoredFile := []
deriving DecidableEq, Repr

namespace ReportStore

/-- Nanoseconds in a second. -/
def second : Nat := 1000000000

/-- The name of the file for a key. -/
def fileName (key : String) : String :=
  Hash.hex (Hash.ofText key) ++ ".csv"

/-- The name of the file for a key that is not empty. -/
def path (key : String) : Except CacheError String :=
  if key.isEmpty then .error .invalidKey else .ok (fileName key)

/-- The file with a name. -/
def file? (store : ReportStore) (name : String) : Option StoredFile :=
  store.files.find? fun file => file.name == name

/-- The store without the file of a name. -/
def erase (store : ReportStore) (name : String) : ReportStore :=
  { store with files := store.files.filter fun file => file.name != name }

/-- The store with a file, in place of the one of its name. -/
def write (store : ReportStore) (file : StoredFile) : ReportStore :=
  { store with files := (store.erase file.name).files ++ [file] }

theorem file?_erase_same (store : ReportStore) (name : String) :
    (store.erase name).file? name = none := by
  simp [file?, erase]

theorem file?_erase_other (store : ReportStore) {name other : String}
    (h : other ≠ name) :
    (store.erase name).file? other = store.file? other := by
  simp only [file?, erase]
  induction store.files with
  | nil => rfl
  | cons file rest ih =>
    by_cases hfound : file.name = other
    · have hkept : file.name ≠ name := fun e => h (hfound.symm.trans e)
      simp [hfound, h]
    · by_cases hname : file.name = name
      · have hpassed : ¬name = other := fun e => hfound (hname.trans e)
        simpa [hname, hpassed] using ih
      · simpa [hname, hfound] using ih

theorem file?_write_same (store : ReportStore) (file : StoredFile) :
    (store.write file).file? file.name = some file := by
  have h := file?_erase_same store file.name
  simp only [file?] at h
  simp [file?, write, List.find?_append, h]

theorem file?_write_other (store : ReportStore) {file : StoredFile}
    {name : String} (h : name ≠ file.name) :
    (store.write file).file? name = store.file? name := by
  have herase := file?_erase_other store h
  simp only [file?] at herase
  simp [file?, write, List.find?_append, herase, h.symm]

/-- Whether a file is older than allowed; one from the future is not. -/
def isExpired (store : ReportStore) (now : Int) (file : StoredFile) : Bool :=
  (store.maxAge : Int) < now - file.modified

/-- The records stored under a key. -/
def get (store : ReportStore) (now : Int) (key : String) :
    Except CacheError Records :=
  if key.isEmpty then .error .miss
  else
    match store.file? (fileName key) with
    | none => .error .miss
    | some file =>
      if store.isExpired now file then .error .miss
      else
        match Csv.decode? file.content with
        | some records => .ok records
        | none => .error .miss

/-- Store records under a key. -/
def set (store : ReportStore) (now : Int) (key : String) (records : Records) :
    Except CacheError ReportStore :=
  (path key).map fun name =>
    store.write { name, content := Csv.encode records, modified := now }

/-- Store records under a key that has no file. -/
def add (store : ReportStore) (now : Int) (key : String) (records : Records) :
    Except CacheError ReportStore :=
  (path key).bind fun name =>
    if (store.file? name).isSome then .error (.notStored key)
    else store.set now key records

/-- Store records under a key that has a file. -/
def replace (store : ReportStore) (now : Int) (key : String)
    (records : Records) : Except CacheError ReportStore :=
  (path key).bind fun name =>
    if (store.file? name).isSome then store.set now key records
    else .error (.notStored key)

/-- Remove the file of a key. -/
def delete (store : ReportStore) (key : String) :
    Except CacheError ReportStore :=
  (path key).bind fun name =>
    if (store.file? name).isSome then .ok (store.erase name) else .error .miss

/-- Remove the expired files, and tell how many they were. -/
def flushExpired (store : ReportStore) (now : Int) : ReportStore × Nat :=
  ({ store with files := store.files.filter fun file =>
    !store.isExpired now file }, store.files.countP (store.isExpired now))

/-- Remove all files, and tell how many they were. -/
def clear (store : ReportStore) : ReportStore × Nat :=
  ({ store with files := [] }, store.files.length)

end ReportStore

end ReportQuery
