import ReportQuery.Cache.Memory
import ReportQuery.Proofs.Numeral

/-!
# Caches and their keys

What a session relies on in a cache, and what a key tells of the query that it
was made of: its hash, and without collisions the query up to letter case.
-/

namespace ReportQuery

/-- A cache that keeps what it is told: a key has the records it was last set
to. -/
class LawfulCache (κ : Type) [ReportCache κ] : Prop where
  get?_set_same : ∀ (cache : κ) (key : String) (records : Records),
    ReportCache.get? (ReportCache.set cache key records) key = some records
  get?_set_other : ∀ (cache : κ) (key other : String) (records : Records),
    other ≠ key →
    ReportCache.get? (ReportCache.set cache key records) other =
    ReportCache.get? cache other

instance : LawfulCache MemoryCache where
  get?_set_same := MemoryCache.get?_set_same
  get?_set_other := fun cache _ _ records h =>
    MemoryCache.get?_set_other cache records h

/-- A cache without any entry. -/
def EmptyCache {κ : Type} [ReportCache κ] (cache : κ) : Prop :=
  ∀ key, ReportCache.get? cache key = none

/-! ## Keys -/

/-- Queries with one key have one hash. -/
theorem hash_eq_of_cacheKey_eq {account query other : String}
    (h : cacheKey account query = cacheKey account other) :
    Hash.ofText (Text.lowercase query) =
      Hash.ofText (Text.lowercase other) := by
  have hchars := congrArg String.toList h
  simp only [cacheKey, String.toList_append] at hchars
  have hnumeral := List.append_cancel_right (List.append_cancel_right hchars)
  have hnat := Numeral.ofNat_injective (String.toList_injective hnumeral)
  exact UInt64.toNat_inj.mp hnat

/-- Queries whose lower-case forms have different hashes, as far as they are
different. -/
def HashSeparates (queries : List String) : Prop :=
  ∀ query ∈ queries, ∀ other ∈ queries,
    Hash.ofText (Text.lowercase query) = Hash.ofText (Text.lowercase other) →
      Text.lowercase query = Text.lowercase other

theorem HashSeparates.cacheKey_eq_iff {queries : List String}
    (h : HashSeparates queries) {query other : String}
    (hquery : query ∈ queries) (hother : other ∈ queries) (account : String) :
    cacheKey account query = cacheKey account other ↔
      Text.lowercase query = Text.lowercase other := by
  constructor
  · intro hkey
    exact h query hquery other hother (hash_eq_of_cacheKey_eq hkey)
  · intro hlower
    rw [cacheKey, hlower, cacheKey]

end ReportQuery
