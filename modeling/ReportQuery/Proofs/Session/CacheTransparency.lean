import ReportQuery.Proofs.Results
import ReportQuery.Proofs.Session.CacheKey

/-!
# Sessions with a cache and without

A session asks its cache for the records of a reduced query before it asks the
source, under a key that is the hash of the query in lower case. Two queries
that differ only in letter case therefore share an entry, and the first of them
that the source answers decides what both are given.

The results of a run with a cache are those of the run without one exactly when
every statement that finds such an entry makes the same of it as of its own
records.
-/

namespace ReportQuery

/-! ## Texts and the statements they run -/

/-- A text that holds one SELECT and nothing else. -/
def IsSelectText (text : String) : Prop :=
  ∃ statement, parseScript text = .ok [.select statement]

/-- The bound statement that a text runs, when it holds one SELECT and that can
be bound. -/
def boundOf? (catalog : Catalog) (today : Day) (text : String) :
    Option BoundSelect :=
  match parseScript text with
  | .ok [.select statement] => (Plan.prepare catalog today statement).toOption
  | _ => none

/-- The statements that texts run, in order. -/
def boundsOf (catalog : Catalog) (today : Day) (texts : List String) :
    List BoundSelect :=
  texts.filterMap (boundOf? catalog today)

theorem boundsOf_cons (catalog : Catalog) (today : Day) (text : String)
    (rest : List String) :
    boundsOf catalog today (text :: rest) =
      (boundOf? catalog today text).toList ++ boundsOf catalog today rest := by
  cases h : boundOf? catalog today text <;> simp [boundsOf, h]

theorem boundOf?_of_parseScript {text : String} {statement : Select}
    (h : parseScript text = .ok [.select statement]) (catalog : Catalog)
    (today : Day) :
    boundOf? catalog today text =
      (Plan.prepare catalog today statement).toOption := by
  simp [boundOf?, h]

theorem isSelectText_of_boundOf? {catalog : Catalog} {today : Day}
    {text : String} (h : (boundOf? catalog today text).isSome = true) :
    IsSelectText text := by
  rw [boundOf?] at h
  split at h
  · next statement hparse => exact ⟨statement, hparse⟩
  · simp at h

/-- What a bound statement gives on the records that the source has for its own
query. -/
def BoundSelect.ownAnswer (bound : BoundSelect) (source : ReportSource) :
    Except QueryError ResultSet :=
  ((source bound.query).mapError QueryError.fetch).bind bound.answer

/-- The records that the first answered one of some statements left for every
query that is its own up to letter case. -/
def BoundSelect.shared? (source : ReportSource) (earlier : List BoundSelect)
    (bound : BoundSelect) : Option Records :=
  earlier.findSome? fun first =>
    if Text.lowercase first.query = Text.lowercase bound.query then
      (source first.query).toOption
    else none

/-- A statement makes the same of records that earlier statements left for it
as of its own. -/
def BoundSelect.ServedBy (source : ReportSource) (earlier : List BoundSelect)
    (bound : BoundSelect) : Prop :=
  ∀ records ∈ bound.shared? source earlier, bound.answer records =
    bound.ownAnswer source

/-- Every statement that texts run is served by those before it. -/
def EachServed (source : ReportSource) (catalog : Catalog) (today : Day)
    (earlier : List BoundSelect) (texts : List String) : Prop :=
  ∀ before text after, texts = before ++ text :: after →
    ∀ bound ∈ boundOf? catalog today text,
      bound.ServedBy source (earlier ++ boundsOf catalog today before)

theorem eachServed_cons_iff {source : ReportSource} {catalog : Catalog}
    {today : Day} {earlier : List BoundSelect} {text : String}
    {rest : List String} :
    EachServed source catalog today earlier (text :: rest) ↔
      (∀ bound ∈ boundOf? catalog today text, bound.ServedBy source earlier) ∧
        EachServed source catalog today
          (earlier ++ (boundOf? catalog today text).toList)
          rest := by
  constructor
  · intro h
    constructor
    · intro bound hbound
      have hhead := h [] text rest rfl bound hbound
      simpa [boundsOf] using hhead
    · rintro before other after rfl bound hbound
      have htail := h (text :: before) other after rfl bound hbound
      rwa [boundsOf_cons, ← List.append_assoc] at htail
  · rintro ⟨hhead, htail⟩ before other after hsplit bound hbound
    cases before with
    | nil =>
        obtain ⟨rfl, rfl⟩ := List.cons.inj hsplit
        simpa [boundsOf] using hhead bound hbound
    | cons first before =>
        obtain ⟨rfl, hrest⟩ := List.cons.inj hsplit
        rw [boundsOf_cons, ← List.append_assoc]
        exact htail before other after hrest bound hbound

/-! ## What a cache holds after some statements -/

/-- The records that the first answered one of some statements left under a
key. -/
def recordsUnder (source : ReportSource) (account : String)
    (asked : List BoundSelect) (key : String) : Option Records :=
  asked.findSome? fun bound =>
    if cacheKey account bound.query = key then (source bound.query).toOption
    else none

theorem recordsUnder_append_singleton (source : ReportSource) (account : String)
    (asked : List BoundSelect) (bound : BoundSelect) (key : String) :
    recordsUnder source account (asked ++ [bound]) key =
      (recordsUnder source account asked key).or
        (if cacheKey account bound.query =
          key then (source bound.query).toOption else none) := by
  rw [recordsUnder, List.findSome?_append, List.findSome?_singleton,
    recordsUnder]

/-- Without collisions the records under the key of a query are those it
shares. -/
theorem recordsUnder_cacheKey {asked : List BoundSelect} {bound : BoundSelect}
    {queries : List String} (h : HashSeparates queries)
    (hasked : ∀ first ∈ asked, first.query ∈ queries)
    (hbound : bound.query ∈ queries) (source : ReportSource)
    (account : String) :
    recordsUnder source account asked (cacheKey account bound.query) =
      bound.shared? source asked := by
  induction asked with
  | nil => simp [recordsUnder, BoundSelect.shared?]
  | cons first rest ih =>
      have hkey := h.cacheKey_eq_iff (hasked first (by simp)) hbound account
      have hrest := ih fun other hother => hasked other (by simp [hother])
      simp only [recordsUnder, BoundSelect.shared?,
        List.findSome?_cons, hkey] at hrest ⊢
      rw [hrest]

namespace Session

variable {κ : Type} [ReportCache κ]

/-- The results of texts run one after the other; an error ends its own text
only. -/
def results (source : ReportSource) :
    Session κ → List String → List (Except QueryError Outcome)
  | _, [] => []
  | session, text :: rest =>
    let reply := session.execute source text
    reply.result :: results source reply.session rest

theorem results_cons (source : ReportSource) (session : Session κ)
    (text : String) (rest : List String) :
    session.results source (text :: rest) =
      (session.execute source text).result ::
        (session.execute source text).session.results source rest := rfl

/-- A cache holds what some statements left: under every key the first
records. -/
def Remembers (source : ReportSource) (account : String)
    (asked : List BoundSelect) (cache : κ) : Prop :=
  ∀ key, ReportCache.get? cache key = recordsUnder source account asked key

theorem Remembers.of_empty {cache : κ} (h : EmptyCache cache)
    (source : ReportSource) (account : String) :
    Remembers source account [] cache :=
  fun key => h key

/-- A statement whose key has records changes nothing. -/
theorem Remembers.of_hit {source : ReportSource} {account : String}
    {asked : List BoundSelect} {cache : κ} {bound : BoundSelect}
    {records : Records} (h : Remembers source account asked cache)
    (hhit : recordsUnder source account asked (cacheKey account bound.query) =
      some records) :
    Remembers source account (asked ++ [bound]) cache := by
  intro key
  rw [h key, recordsUnder_append_singleton]
  split
  · next hkey => rw [← hkey, hhit, Option.some_or]
  · rw [Option.or_none]

theorem Remembers.of_failure {source : ReportSource} {account : String}
    {asked : List BoundSelect} {cache : κ} {bound : BoundSelect}
    {error : FetchError} (h : Remembers source account asked cache)
    (hsource : source bound.query = .error error) :
    Remembers source account (asked ++ [bound]) cache := by
  intro key
  rw [h key, recordsUnder_append_singleton, hsource]
  simp

/-- A statement whose key has no records leaves its own. -/
theorem Remembers.set [LawfulCache κ] {source : ReportSource} {account : String}
    {asked : List BoundSelect} {cache : κ} {bound : BoundSelect}
    {records : Records} (h : Remembers source account asked cache)
    (hmiss : recordsUnder source account asked (cacheKey account bound.query) =
      none) (hsource : source bound.query = .ok records) :
    Remembers source account (asked ++ [bound])
      (ReportCache.set cache (cacheKey account bound.query) records) := by
  intro key
  rw [recordsUnder_append_singleton, hsource]
  by_cases hkey : cacheKey account bound.query = key
  · rw [← hkey, LawfulCache.get?_set_same, hmiss]
    simp
  · rw [LawfulCache.get?_set_other _ _ _ _ (Ne.symm hkey), h key, if_neg hkey,
      Option.or_none]

/-! ## One statement -/

theorem execute_select {text : String} {statement : Select}
    (h : parseScript text = .ok [.select statement]) (source : ReportSource)
    (session : Session κ) :
    session.execute source text = session.run source (.select statement) := by
  simp [execute, h]

theorem run_select_of_error {session : Session κ} {statement : Select}
    {error : QueryError}
    (h : Plan.prepare session.catalog session.today statement = .error error)
    (source : ReportSource) :
    session.run source (.select statement) = ⟨.error error, session, []⟩ := by
  simp [run, select, h]

theorem run_select_of_bound (session : Session κ) {statement : Select}
    {bound : BoundSelect}
    (h : Plan.prepare session.catalog session.today statement = .ok bound)
    (source : ReportSource) :
    (session.run source (.select statement)).result =
        ((session.fetch source bound.query).result.bind bound.answer).map
          Outcome.rows ∧
      (session.run source (.select statement)).session =
        (session.fetch source bound.query).session := by
  simp [run, select, h]

theorem fetch_without_cache (source : ReportSource) (catalog : Catalog)
    (account : String) (today : Day) (query : String) :
    (fetch source (⟨catalog, account, today, none⟩ : Session κ) query).result =
        (source query).mapError QueryError.fetch ∧
      (fetch source (⟨catalog, account, today, none⟩ : Session κ)
        query).session = ⟨catalog, account, today, none⟩ := by
  cases hsource : source query <;>
    simp [fetch, cached?, remember, hsource]

/-- With a cache the records are those left under the key, or else those of the
source, and the cache goes on to hold what the statements left. -/
theorem fetch_with_cache [LawfulCache κ] {source : ReportSource}
    {account : String} {asked : List BoundSelect} {cache : κ}
    (h : Remembers source account asked cache) (catalog : Catalog) (today : Day)
    (bound : BoundSelect) :
    (fetch source ⟨catalog, account, today, some cache⟩ bound.query).result =
        ((recordsUnder source account asked (cacheKey account bound.query)).map
          Except.ok).getD
          ((source bound.query).mapError QueryError.fetch) ∧
      ∃ later,
        (fetch source ⟨catalog, account, today, some cache⟩
          bound.query).session = ⟨catalog, account, today, some later⟩ ∧
          Remembers source account (asked ++ [bound]) later := by
  have hget := h (cacheKey account bound.query)
  cases hunder : recordsUnder source account asked
    (cacheKey account bound.query) with
  | some records =>
      rw [hunder] at hget
      refine ⟨?_, cache, ?_, h.of_hit hunder⟩
      · simp [fetch, cached?, hget]
      · simp [fetch, cached?, hget]
  | none =>
      rw [hunder] at hget
      cases hsource : source bound.query with
      | error error =>
          refine ⟨?_, cache, ?_, h.of_failure hsource⟩
          · simp [fetch, cached?, hget, hsource]
          · simp [fetch, cached?, hget, hsource]
      | ok records =>
          refine ⟨?_, _, ?_, h.set hunder hsource⟩
          · simp [fetch, cached?, hget, hsource]
          · simp [fetch, cached?, remember, hget, hsource]

/-- A SELECT that cannot be bound gives its error in both sessions and changes
none. -/
theorem execute_of_boundOf?_eq_none {catalog : Catalog} {today : Day}
    {text : String} (hselect : IsSelectText text)
    (h : boundOf? catalog today text = none) (source : ReportSource)
    (account : String) (cache : κ) :
    (execute source ⟨catalog, account, today, some cache⟩ text).result =
        (execute source (⟨catalog, account, today, none⟩ : Session κ)
          text).result ∧
      (execute source ⟨catalog, account, today, some cache⟩ text).session =
        ⟨catalog, account, today, some cache⟩ ∧
      (execute source (⟨catalog, account, today, none⟩ : Session κ)
        text).session = ⟨catalog, account, today, none⟩ := by
  obtain ⟨statement, hparse⟩ := hselect
  rw [boundOf?_of_parseScript hparse] at h
  cases hprepare : Plan.prepare catalog today statement with
  | ok bound => simp [hprepare] at h
  | error error =>
      rw [execute_select hparse, execute_select hparse,
        run_select_of_error hprepare, run_select_of_error hprepare]
      exact ⟨rfl, rfl, rfl⟩

theorem execute_without_cache {catalog : Catalog} {today : Day} {text : String}
    {statement : Select} {bound : BoundSelect}
    (hparse : parseScript text = .ok [.select statement])
    (hprepare : Plan.prepare catalog today statement = .ok bound)
    (source : ReportSource) (account : String) :
    (execute source (⟨catalog, account, today, none⟩ : Session κ) text).result =
        (bound.ownAnswer source).map Outcome.rows ∧
      (execute source (⟨catalog, account, today, none⟩ : Session κ)
        text).session = ⟨catalog, account, today, none⟩ := by
  obtain ⟨hresult, hsession⟩ :=
    run_select_of_bound (⟨catalog, account, today, none⟩ : Session κ)
      hprepare source
  obtain ⟨hrecords, hsame⟩ :=
    fetch_without_cache (κ := κ) source catalog account today bound.query
  rw [execute_select hparse, hresult, hsession, hrecords]
  exact ⟨rfl, hsame⟩

theorem execute_with_cache [LawfulCache κ] {source : ReportSource}
    {catalog : Catalog} {account : String} {today : Day}
    {asked : List BoundSelect} {cache : κ}
    (hremembers : Remembers source account asked cache) {text : String}
    {statement : Select} {bound : BoundSelect}
    (hparse : parseScript text = .ok [.select statement])
    (hprepare : Plan.prepare catalog today statement = .ok bound) :
    (execute source ⟨catalog, account, today, some cache⟩ text).result =
        (((recordsUnder source account asked (cacheKey account bound.query)).map
          bound.answer).getD (bound.ownAnswer source)).map Outcome.rows ∧
      ∃ later,
        (execute source ⟨catalog, account, today, some cache⟩ text).session =
            ⟨catalog, account, today, some later⟩ ∧
          Remembers source account (asked ++ [bound]) later := by
  obtain ⟨hresult, hsession⟩ :=
    run_select_of_bound ⟨catalog, account, today, some cache⟩ hprepare source
  obtain ⟨hrecords, hlater⟩ := fetch_with_cache hremembers catalog today bound
  rw [execute_select hparse, hresult, hsession, hrecords]
  refine ⟨?_, hlater⟩
  cases recordsUnder source account asked (cacheKey account bound.query) <;> rfl

theorem map_rows_injective {first second : Except QueryError ResultSet}
    (h : first.map Outcome.rows = second.map Outcome.rows) :
    first = second := by
  cases first <;> cases second <;> simp_all

/-- A statement gives the same with a cache as without one exactly when it is
served by those whose records the cache holds. -/
theorem result_eq_iff_servedBy (source : ReportSource)
    (earlier : List BoundSelect) (bound : BoundSelect) :
    (((bound.shared? source earlier).map bound.answer).getD
      (bound.ownAnswer source)).map
        Outcome.rows = (bound.ownAnswer source).map Outcome.rows ↔
      bound.ServedBy source earlier := by
  rw [BoundSelect.ServedBy]
  cases bound.shared? source earlier with
  | none => simp
  | some records =>
      constructor
      · rintro h other ⟨⟩
        exact map_rows_injective h
      · intro h
        exact congrArg _ (h records rfl)

/-! ## Runs -/

/-- The run from a cache that holds what earlier statements left. -/
theorem results_eq_iff_of_remembers [LawfulCache κ] {source : ReportSource}
    {catalog : Catalog} {account : String} {today : Day} {texts : List String}
    (hselect : ∀ text ∈ texts, IsSelectText text) {asked : List BoundSelect}
    {cache : κ}
    (hseparates : HashSeparates
      ((asked ++ boundsOf catalog today texts).map BoundSelect.query))
      (hremembers : Remembers source account asked cache) :
    results source ⟨catalog, account, today, some cache⟩ texts =
        results source (⟨catalog, account, today, none⟩ : Session κ) texts ↔
      EachServed source catalog today asked texts := by
  induction texts generalizing asked cache with
  | nil => simp [results, EachServed]
  | cons text rest ih =>
      have hrest : ∀ other ∈ rest, IsSelectText other := fun other hother =>
        hselect other (by simp [hother])
      rw [boundsOf_cons, ← List.append_assoc] at hseparates
      rw [results_cons, results_cons, List.cons.injEq, eachServed_cons_iff]
      cases hbound : boundOf? catalog today text with
      | none =>
          obtain ⟨hresult, hsession, hplain⟩ :=
            execute_of_boundOf?_eq_none (hselect text (by simp)) hbound source
              account cache
          rw [hbound] at hseparates
          rw [hresult, hsession, hplain,
            ih hrest hseparates (by simpa using hremembers)]
          simp
      | some bound =>
          obtain ⟨statement, hparse⟩ := hselect text (by simp)
          have hprepare : Plan.prepare catalog today statement = .ok bound := by
            rw [boundOf?_of_parseScript hparse] at hbound
            cases hprepare : Plan.prepare catalog today statement <;>
              simp_all
          obtain ⟨hresult, later, hsession, hmore⟩ :=
            execute_with_cache hremembers hparse hprepare
          obtain ⟨hown, hplain⟩ :=
            execute_without_cache (κ := κ) hparse hprepare source account
          rw [hbound] at hseparates
          have hshared : recordsUnder source account asked
              (cacheKey account bound.query) = bound.shared? source asked :=
            recordsUnder_cacheKey hseparates
              (fun first hfirst => List.mem_map_of_mem (by simp [hfirst]))
              (List.mem_map_of_mem (by simp)) source account
          rw [hresult, hown, hsession, hplain, hshared, result_eq_iff_servedBy,
            ih hrest hseparates hmore]
          simp

/-- The results of SELECT texts with a cache that starts empty are those
without a cache exactly when every statement is served by those before it. -/
theorem results_with_cache_eq_iff [LawfulCache κ] {empty : κ}
    (hempty : EmptyCache empty) (source : ReportSource) (catalog : Catalog)
    (account : String) (today : Day) {texts : List String}
    (hselect : ∀ text ∈ texts, IsSelectText text)
    (hseparates : HashSeparates
      ((boundsOf catalog today texts).map BoundSelect.query)) :
    results source ⟨catalog, account, today, some empty⟩ texts =
        results source (⟨catalog, account, today, none⟩ : Session κ) texts ↔
      EachServed source catalog today [] texts :=
  results_eq_iff_of_remembers hselect (by simpa using hseparates)
    (Remembers.of_empty hempty source account)

/-! ## Two names that differ in letter case -/

/-- A catalog with one report, of identifiers and names. -/
def shopCatalog : Catalog where
  version := "v1"
  tables := [{
    name := "SHOPS"
    aggregateColumn := "Id"
    columns := [{ name := "Id", kind := "LONG" }, { name := "Name" }] }]

/-- Two statements whose quoted texts differ in letter case. -/
def shopTexts : List String :=
  ["SELECT Id FROM SHOPS WHERE Name = \"North\"",
    "SELECT Id FROM SHOPS WHERE Name = \"NORTH\""]

/-- A source that tells the two names apart. -/
def exactSource : ReportSource := fun query =>
  if query = "SELECT Id FROM SHOPS WHERE Name = \"North\"" then .ok [["1"]]
  else if query = "SELECT Id FROM SHOPS WHERE Name = \"NORTH\"" then .ok [["2"]]
  else .error .timeout

/-- A source that knows one name, in any letter case. -/
def caselessSource : ReportSource := fun query =>
  if Text.lowercase query = "select id from shops where name = \"north\"" then
    .ok [["1"]]
  else .error .timeout

/-- The texts of the rows of a result. -/
def shownRows : Except QueryError Outcome → Option (List (List String))
  | .ok (.rows set) => some (set.rows.map (List.map Cell.render))
  | _ => none

theorem isSelectText_of_mem_shopTexts :
    ∀ text ∈ shopTexts, IsSelectText text := by
  have h : ∀ text ∈ shopTexts,
      (boundOf? shopCatalog (Day.ofCount 0) text).isSome = true := by
    decide +kernel
  exact fun text htext => isSelectText_of_boundOf? (h text htext)

theorem hashSeparates_shopTexts :
    HashSeparates ((boundsOf shopCatalog (Day.ofCount 0) shopTexts).map
      BoundSelect.query) := by
  unfold HashSeparates
  decide +kernel

theorem results_with_cache_eq_of_caselessSource :
    EmptyCache ({} : MemoryCache) ∧ (∀ text ∈ shopTexts, IsSelectText text) ∧
      HashSeparates ((boundsOf shopCatalog (Day.ofCount 0) shopTexts).map
        BoundSelect.query) ∧
      results caselessSource ⟨shopCatalog, "1", Day.ofCount 0,
        some ({} : MemoryCache)⟩ shopTexts =
        results caselessSource
          (⟨shopCatalog, "1", Day.ofCount 0, none⟩ : Session MemoryCache)
          shopTexts := by
  refine ⟨fun _ => rfl, isSelectText_of_mem_shopTexts,
    hashSeparates_shopTexts, ?_⟩
  refine (results_with_cache_eq_iff (fun _ => rfl) caselessSource shopCatalog
    "1" (Day.ofCount 0)
    isSelectText_of_mem_shopTexts hashSeparates_shopTexts).mpr ?_
  intro before text after _ bound _ records hrecords
  obtain ⟨first, -, hfirst⟩ := List.exists_of_findSome?_eq_some hrecords
  split at hfirst
  · next hlower =>
      have hsame : caselessSource first.query = caselessSource bound.query := by
        simp only [caselessSource, hlower]
      rw [hsame] at hfirst
      rw [BoundSelect.ownAnswer]
      cases hsource : caselessSource bound.query <;>
        simp_all
  · simp at hfirst

/-- The cache answers the second statement with the rows of the first. -/
theorem results_with_cache_ne_of_letterCase :
    EmptyCache ({} : MemoryCache) ∧ (∀ text ∈ shopTexts, IsSelectText text) ∧
      HashSeparates ((boundsOf shopCatalog (Day.ofCount 0) shopTexts).map
        BoundSelect.query) ∧
      results exactSource ⟨shopCatalog, "1", Day.ofCount 0,
        some ({} : MemoryCache)⟩ shopTexts ≠
        results exactSource
          (⟨shopCatalog, "1", Day.ofCount 0, none⟩ : Session MemoryCache)
          shopTexts := by
  refine ⟨fun _ => rfl, isSelectText_of_mem_shopTexts,
    hashSeparates_shopTexts, ?_⟩
  intro h
  have hshown := congrArg (List.map shownRows) h
  revert hshown
  decide +kernel

end Session

end ReportQuery
