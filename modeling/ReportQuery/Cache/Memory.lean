import ReportQuery.Session

/-!
# A cache in memory

Records kept under exact keys for as long as the session runs. A key has the
records of the last time it was set, and nothing is ever dropped.
-/

namespace ReportQuery

/-- Records by key, the latest first. -/
structure MemoryCache where
  entries : List (String × Records) := []
deriving DecidableEq, Repr

namespace MemoryCache

/-- The records last stored under a key. -/
def get? (cache : MemoryCache) (key : String) : Option Records :=
  cache.entries.lookup key

/-- The cache with records stored under a key. -/
def set (cache : MemoryCache) (key : String) (records : Records) :
    MemoryCache :=
  ⟨(key, records) :: cache.entries.filter fun entry => entry.1 != key⟩

/-- The keys that have records. -/
def keys (cache : MemoryCache) : List String :=
  cache.entries.map (·.1)

instance : ReportCache MemoryCache where
  get? := get?
  set := set

theorem get?_set_same (cache : MemoryCache) (key : String) (records : Records) :
    (cache.set key records).get? key = some records := by
  simp [get?, set]

theorem get?_set_other (cache : MemoryCache) {key other : String}
    (records : Records) (h : other ≠ key) :
    (cache.set key records).get? other = cache.get? other := by
  have hhead : (other == key) = false := by simpa using h
  simp only [get?, set, List.lookup_cons, hhead]
  induction cache.entries with
  | nil => rfl
  | cons entry rest ih =>
    obtain ⟨k, v⟩ := entry
    by_cases hkey : k = key
    · simpa [hkey, List.lookup_cons, hhead] using ih
    · by_cases hfound : other = k
      · simp [hkey, hfound]
      · have hpassed : (other == k) = false := by simpa using hfound
        simpa [hkey, List.lookup_cons, hpassed] using ih

end MemoryCache

end ReportQuery
