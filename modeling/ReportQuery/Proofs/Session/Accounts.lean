import Mathlib.Logic.Function.Basic
import ReportQuery.Proofs.Session.Scripts

/-!
# Accounts that share a cache

Engines of several accounts may keep their reports in one cache. A key is the
decimal hash of a query, a dash and the account, and because no digit is a dash
the account can be read off the key, whatever characters it has. An engine
therefore only ever meets entries of its own account: a run of many engines,
restricted to what one account was told, is the run of that account's engines
alone.
-/

namespace ReportQuery

/-! ## The account of a key -/

/-- What follows the digits of a key is the dash and the account. -/
theorem dropWhile_isDigit_cacheKey (account query : String) :
    (cacheKey account query).toList.dropWhile Char.isDigit =
      '-' :: account.toList := by
  have hchars : (cacheKey account query).toList =
      Nat.toDigits 10 (Hash.ofText (Text.lowercase query)).toNat ++
      '-' :: account.toList := by
    simp [cacheKey, Numeral.ofNat]
  rw [hchars]
  exact (Numeral.takeWhile_isDigit_append (Numeral.all_isDigit_toDigits _)
    (Numeral.endsDigits_hyphen account.toList)).2

theorem account_eq_of_cacheKey_eq {account other query asked : String}
    (h : cacheKey account query = cacheKey other asked) : account = other := by
  have hrest : '-' :: account.toList = '-' :: other.toList := by
    rw [← dropWhile_isDigit_cacheKey account query, h,
      dropWhile_isDigit_cacheKey]
  exact String.toList_injective (List.cons.inj hrest).2

/-! ## What one account can see of a cache -/

section Caches

variable {κ : Type} [ReportCache κ]

/-- Two caches have the same records under every key of an account. -/
def AgreeFor (account : String) (first second : κ) : Prop :=
  ∀ query, ReportCache.get? first (cacheKey account query) =
    ReportCache.get? second (cacheKey account query)

theorem AgreeFor.symm {account : String} {first second : κ}
    (h : AgreeFor account first second) : AgreeFor account second first :=
  fun query => (h query).symm

theorem AgreeFor.trans {account : String} {first second third : κ}
    (h : AgreeFor account first second)
    (hnext : AgreeFor account second third) : AgreeFor account first third :=
  fun query => (h query).trans (hnext query)

variable [LawfulCache κ]

/-- The same records under the same key of both caches. -/
theorem AgreeFor.set {account : String} {first second : κ}
    (h : AgreeFor account first second) (key : String) (records : Records) :
    AgreeFor account (ReportCache.set first key records)
      (ReportCache.set second key records) := by
  intro query
  by_cases hkey : cacheKey account query = key
  · rw [hkey, LawfulCache.get?_set_same, LawfulCache.get?_set_same]
  · rw [LawfulCache.get?_set_other _ _ _ _ hkey,
      LawfulCache.get?_set_other _ _ _ _ hkey]
    exact h query

/-- A key of one account is no key of another. -/
theorem agreeFor_set_of_ne {account other : String} (h : account ≠ other)
    (cache : κ) (query : String) (records : Records) :
    AgreeFor account cache
      (ReportCache.set cache (cacheKey other query) records) := by
  intro asked
  have hkey : cacheKey account asked ≠ cacheKey other query := fun heq =>
    h (account_eq_of_cacheKey_eq heq)
  rw [LawfulCache.get?_set_other _ _ _ _ hkey]

end Caches

namespace Session

variable {κ : Type} [ReportCache κ]

/-! ## One statement -/

/-- Two replies tell the same and leave sessions that one account cannot tell
apart. -/
structure SameFor (account : String) {α : Type} (first second : Reply κ α) :
    Prop where
  result : first.result = second.result
  asked : first.asked = second.asked
  catalog : first.session.catalog = second.session.catalog
  cache : ∃ one other, first.session.cache = some one ∧
    second.session.cache = some other ∧ AgreeFor account one other

/-- What a query finds under its key is the same in caches that agree, and so
is what it leaves. -/
theorem fetch_sameFor [LawfulCache κ] {account : String} {first second : κ}
    (h : AgreeFor account first second) (source : ReportSource)
    (catalog : Catalog) (today : Day) (query : String) :
    SameFor account (fetch source ⟨catalog, account, today, some first⟩ query)
      (fetch source ⟨catalog, account, today, some second⟩ query) := by
  have hget := h query
  cases hfound : ReportCache.get? second (cacheKey account query) with
  | some records =>
      rw [hfound] at hget
      constructor <;> simp [fetch, cached?, hget, hfound, h]
  | none =>
      rw [hfound] at hget
      cases hsource : source query with
      | error error =>
          constructor <;> simp [fetch, cached?, hget, hfound, hsource, h]
      | ok records =>
          have hset := h.set (cacheKey account query) records
          constructor <;>
            simp [fetch, cached?, remember, hget, hfound, hsource, hset]

/-- A statement tells an account nothing of a cache beyond that account's own
entries. -/
theorem run_sameFor [LawfulCache κ] {account : String} {first second : κ}
    (h : AgreeFor account first second) (source : ReportSource)
    (catalog : Catalog) (today : Day) (statement : Statement) :
    SameFor account (run source ⟨catalog, account, today, some first⟩ statement)
      (run source ⟨catalog, account, today, some second⟩ statement) := by
  cases runs (κ := κ) source catalog today statement with
  | asks query answer hrun =>
      obtain ⟨hresult, hasked, hcatalog, hcache⟩ :=
        fetch_sameFor h source catalog today query
      rw [hrun, hrun]
      exact ⟨by simp only [hresult], hasked, hcatalog, hcache⟩
  | tells result hrun =>
      rw [hrun, hrun]
      exact ⟨rfl, rfl, rfl, first, second, rfl, rfl, h⟩
  | stores create later hstatement hadd hrun =>
      rw [hrun, hrun]
      exact ⟨rfl, rfl, rfl, first, second, rfl, rfl, h⟩

/-- The statements of one account leave the entries of another as they were. -/
theorem run_agreeFor_other [LawfulCache κ] {account other : String}
    (hne : account ≠ other) (source : ReportSource) (catalog : Catalog)
    (today : Day) (cache : κ) (statement : Statement) :
    ∃ later,
      (run source ⟨catalog, other, today, some cache⟩ statement).session.cache =
        some later ∧ AgreeFor account cache later := by
  cases runs (κ := κ) source catalog today statement with
  | asks query answer hrun =>
      rw [hrun]
      cases hfound : ReportCache.get? cache (cacheKey other query) with
      | some records =>
          exact ⟨cache, by simp [fetch, cached?, hfound], fun _ => rfl⟩
      | none =>
          cases hsource : source query with
          | error error =>
              exact ⟨cache, by simp [fetch, cached?, hfound, hsource],
                fun _ => rfl⟩
          | ok records =>
              exact ⟨ReportCache.set cache (cacheKey other query) records,
                by simp [fetch, cached?, remember, hfound, hsource],
                agreeFor_set_of_ne hne cache query records⟩
  | tells result hrun =>
      rw [hrun]
      exact ⟨cache, rfl, fun _ => rfl⟩
  | stores create later hstatement hadd hrun =>
      rw [hrun]
      exact ⟨cache, rfl, fun _ => rfl⟩

end Session

/-! ## Engines of several accounts -/

/-- Engines that keep their reports in one cache. -/
structure SharedCache (ι κ : Type) where
  account : ι → String
  catalog : ι → Catalog
  cache : κ

/-- A statement for one of several engines, with the reports and the day that
it meets. -/
structure Turn (ι : Type) where
  engine : ι
  statement : Statement
  source : ReportSource
  today : Day

/-- What an engine was told, and what it asked its source for. -/
structure TurnReply (ι : Type) where
  engine : ι
  result : Except QueryError Outcome
  asked : List String

namespace SharedCache

variable {ι κ : Type} [DecidableEq ι] [ReportCache κ]

/-- The reply of the engine whose turn it is. -/
def reply (engines : SharedCache ι κ) (turn : Turn ι) : Reply κ Outcome :=
  Session.run turn.source
    ⟨engines.catalog turn.engine, engines.account turn.engine, turn.today,
      some engines.cache⟩
    turn.statement

/-- The engines after a turn: one of them may have stored a view or a report. -/
def after (engines : SharedCache ι κ) (turn : Turn ι) : SharedCache ι κ :=
  let left := (engines.reply turn).session
  { engines with
    catalog := Function.update engines.catalog turn.engine left.catalog
    cache := left.cache.getD engines.cache }

/-- The replies of a run, in order. -/
def replies : SharedCache ι κ → List (Turn ι) → List (TurnReply ι)
  | _, [] => []
  | engines, turn :: rest =>
    let reply := engines.reply turn
    ⟨turn.engine, reply.result, reply.asked⟩ ::
      (engines.after turn).replies rest

/-- Two states of the same engines that one account cannot tell apart. -/
structure AlikeFor (account : String) (first second : SharedCache ι κ) :
    Prop where
  accounts : first.account = second.account
  catalogs : ∀ i, second.account i = account →
    first.catalog i = second.catalog i
  caches : AgreeFor account first.cache second.cache

omit [DecidableEq ι] in
theorem AlikeFor.refl (account : String) (engines : SharedCache ι κ) :
    AlikeFor account engines engines :=
  ⟨rfl, fun _ _ => rfl, fun _ => rfl⟩

variable [LawfulCache κ]

/-- A turn of the account itself goes the same in both states, and they stay
alike. -/
theorem AlikeFor.own {account : String} {first second : SharedCache ι κ}
    (h : AlikeFor account first second) {turn : Turn ι}
    (hown : second.account turn.engine = account) :
    (first.reply turn).result = (second.reply turn).result ∧
      (first.reply turn).asked = (second.reply turn).asked ∧
      AlikeFor account (first.after turn) (second.after turn) := by
  have hsame : Session.SameFor account (first.reply turn)
      (second.reply turn) := by
    have hcatalog := h.catalogs turn.engine hown
    rw [reply, reply, h.accounts, hown, hcatalog]
    exact Session.run_sameFor h.caches turn.source _ turn.today turn.statement
  obtain ⟨one, other, hone, hother, hcache⟩ := hsame.cache
  refine ⟨hsame.result, hsame.asked, h.accounts, ?_, ?_⟩
  · intro i hi
    by_cases hturn : i = turn.engine
    · subst hturn
      simpa [after] using hsame.catalog
    · simpa [after, hturn] using h.catalogs i hi
  · simpa [after, hone, hother] using hcache

/-- A turn of another account changes nothing that the account can see. -/
theorem AlikeFor.other {account : String} {first second : SharedCache ι κ}
    (h : AlikeFor account first second) {turn : Turn ι}
    (hother : second.account turn.engine ≠ account) :
    AlikeFor account (first.after turn) second := by
  obtain ⟨later, hlater, hagree⟩ :=
    Session.run_agreeFor_other (Ne.symm hother) turn.source
    (first.catalog turn.engine) turn.today first.cache turn.statement
  refine ⟨h.accounts, ?_, ?_⟩
  · intro i hi
    have hturn : i ≠ turn.engine := by
      rintro rfl
      exact hother hi
    simpa [after, hturn] using h.catalogs i hi
  · have hcache : (first.after turn).cache = later := by
      simp only [after, reply, h.accounts, hlater, Option.getD_some]
    rw [hcache]
    exact hagree.symm.trans h.caches

/-- What an account is told depends on its own statements only, in states that
are alike. -/
theorem filter_replies_of_alikeFor {account : String}
    {first second : SharedCache ι κ} (h : AlikeFor account first second)
    (turns : List (Turn ι)) :
    (first.replies turns).filter
      (fun reply => second.account reply.engine = account) =
      second.replies
        (turns.filter fun turn => second.account turn.engine = account) := by
  induction turns generalizing first second with
  | nil => rfl
  | cons turn rest ih =>
      by_cases hown : second.account turn.engine = account
      · obtain ⟨hresult, hasked, halike⟩ := h.own hown
        simp only [replies, List.filter_cons, hown, decide_true, if_true,
          hresult, hasked]
        exact congrArg _ (ih halike)
      · simpa [replies, List.filter_cons, hown] using ih (h.other hown)

/-- A key names its account. What the engines of an account are told and ask
for, in a run of engines of many accounts on one cache, is therefore what they
are told and ask for in the run of their own statements alone. -/
theorem filter_replies_eq_replies_filter (ι κ : Type) [DecidableEq ι]
    [ReportCache κ] [LawfulCache κ] :
    (∀ account other query asked : String,
        cacheKey account query = cacheKey other asked → account = other) ∧
      ∀ (engines : SharedCache ι κ) (account : String) (turns : List (Turn ι)),
        (engines.replies turns).filter
          (fun reply => engines.account reply.engine = account) =
          engines.replies (turns.filter fun turn =>
            engines.account turn.engine = account) := by
  constructor
  · intro account other query asked h
    exact account_eq_of_cacheKey_eq h
  · intro engines account turns
    exact filter_replies_of_alikeFor (AlikeFor.refl account engines) turns

/-- Engines of an account without a name and of two accounts of digits and
dashes. -/
def shopEngines : SharedCache (Fin 3) MemoryCache where
  account
    | 0 => ""
    | 1 => "-1"
    | 2 => "1-"
  catalog := fun _ => Session.shopCatalog
  cache := {}

/-- A turn that asks for all shops, of which there is one. -/
def shopTurn (engine : Fin 3) (name : String) : Turn (Fin 3) where
  engine := engine
  statement := .select { items := [{ column := { name := "Name" } }],
                         source := "SHOPS" }
  source := fun _ => .ok [[name]]
  today := Day.ofCount 0

/-- The second account asks for itself what the first has in the cache, and
finds it there when it asks again. -/
theorem filter_replies_shopEngines :
    LawfulCache MemoryCache ∧
      ((shopEngines.replies [shopTurn 0 "North", shopTurn 1 "South",
        shopTurn 2 "East",
          shopTurn 1 "West"]).filter fun reply =>
            shopEngines.account reply.engine = "-1").map
        (fun reply => (Session.shownRows reply.result, reply.asked)) =
      [(some [["South"]], ["SELECT Name FROM SHOPS"]),
        (some [["South"]], [])] := by
  refine ⟨inferInstance, ?_⟩
  rw [(filter_replies_eq_replies_filter (Fin 3) MemoryCache).2]
  decide +kernel

end SharedCache

end ReportQuery
