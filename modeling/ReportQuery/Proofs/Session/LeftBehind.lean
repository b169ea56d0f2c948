import ReportQuery.Cache.WriteQueue
import ReportQuery.Proofs.Catalog.Soundness
import ReportQuery.Proofs.Session.Scripts

/-!
# What statements leave behind

All that a session keeps of its statements are the views that were accepted and
the records that the source answered with. A statement asks for the records of
one query at most, and does so only as a SELECT that is unfolded and bound and
whose records the cache does not have. A statement that fails leaves the
catalog as it was, and what the source answered before it failed stays in the
cache.

A view that is refused changes no catalog. The session after statements can
therefore be told from their list and from what was asked, without a word on
which of them went through.
-/

namespace ReportQuery

/-- The view that a statement stores when it is accepted. -/
def Statement.view? : Statement → Option CreateView
  | .createView create => some create
  | _ => none

/-- What a statement that went through produces: a CREATE VIEW its name, any
other rows. -/
inductive Statement.Produces : Statement → Outcome → Prop where
  | viewStored (create : CreateView) :
      Produces (.createView create) (.viewStored create.name)
  | rows {statement : Statement} (set : ResultSet) : statement.view? = none →
      Produces statement (.rows set)

namespace Session

variable {κ : Type} [ReportCache κ]

/-! ## Answers and the session that keeps them -/

/-- The records that a source has for queries, to be stored under their keys. A
query that fails leaves nothing to store. -/
def answers (source : ReportSource) (account : String) (asked : List String) :
    List WriteRequest :=
  asked.filterMap fun query =>
    (source query).toOption.map fun records => ⟨cacheKey account query, records⟩

/-- A cache that was told the answers of a source. -/
def keepAnswers (source : ReportSource) (account : String) (asked : List String)
    (cache : κ) : κ :=
  (answers source account asked).foldl
    (fun cache answer => ReportCache.set cache answer.key answer.records) cache

/-- The session after statements, of which the views that are accepted are
stored, and after queries whose answers are kept. -/
def after (session : Session κ) (source : ReportSource) (done : List Statement)
    (asked : List String) : Session κ :=
  { session with
    catalog := session.catalog.addViews (done.filterMap Statement.view?)
    cache := session.cache.map (keepAnswers source session.account asked) }

omit [ReportCache κ] in
theorem account_mapCache (session : Session κ) (change : κ → κ) :
    (session.mapCache change).account = session.account :=
  rfl

theorem account_after (session : Session κ) (source : ReportSource)
    (done : List Statement) (asked : List String) :
    (session.after source done asked).account = session.account :=
  rfl

theorem answers_append (source : ReportSource) (account : String)
    (asked further : List String) :
    answers source account (asked ++ further) =
      answers source account asked ++ answers source account further :=
  List.filterMap_append

theorem keepAnswers_append (source : ReportSource) (account : String)
    (asked further : List String) (cache : κ) :
    keepAnswers source account (asked ++ further) cache =
      keepAnswers source account further
        (keepAnswers source account asked cache) := by
  rw [keepAnswers, answers_append, List.foldl_append]
  rfl

theorem after_nil (session : Session κ) (source : ReportSource) :
    session.after source [] [] = session := by
  obtain ⟨catalog, account, today, cache⟩ := session
  cases cache <;> rfl

/-! ## One statement -/

/-- What a statement may ask of the source: nothing, or the query that it is
bound to when the cache has no records for it. -/
inductive MayAsk (session : Session κ) (statement : Statement) :
    List String → Prop where
  | nothing : MayAsk session statement []
  | query {select : Select} {bound : BoundSelect} : statement = .select select →
      Plan.prepare session.catalog session.today select = .ok bound →
        session.cached? bound.query = none →
        MayAsk session statement [bound.query]

/-- What a statement leaves: the session with its view, when it is accepted,
and with the answer to what it asked. -/
structure Leaves (source : ReportSource) (session : Session κ)
    (statement : Statement) (reply : Reply κ Outcome) : Prop where
  mayAsk : session.MayAsk statement reply.asked
  session_eq : reply.session = session.after source [statement] reply.asked
  produces : ∀ outcome, reply.result = .ok outcome → statement.Produces outcome
  catalog_of_error : ∀ error, reply.result = .error error →
    reply.session.catalog = session.catalog
  catalog_of_view : statement.view? = none →
    reply.session.catalog = session.catalog

/-- Records are asked for when the cache has none, and kept when the source has
some. -/
theorem fetch_cases (source : ReportSource) (session : Session κ)
    (query : String) :
    (session.fetch source query).asked = [] ∧
        (session.fetch source query).session = session ∨
      session.cached? query = none ∧
        (session.fetch source query).asked = [query] ∧
        (session.fetch source query).session =
          session.after source [] [query] := by
  cases hcached : session.cached? query with
  | some records => exact .inl (by simp [fetch, hcached])
  | none =>
      refine .inr ⟨rfl, ?_⟩
      obtain ⟨catalog, account, today, cache⟩ := session
      cases hsource : source query <;> cases cache <;>
        simp [fetch, hcached, hsource, after, remember, keepAnswers, answers,
          Catalog.addViews]

theorem select_leaves (source : ReportSource) (session : Session κ)
    (statement : Select) :
    Leaves source session (.select statement)
      (session.run source (.select statement)) := by
  have hasks : session.MayAsk (.select statement)
      (session.run source (.select statement)).asked ∧
      (session.run source (.select statement)).session =
        session.after source [.select statement]
          (session.run source (.select statement)).asked := by
    cases hprepare : Plan.prepare session.catalog session.today statement with
    | error error =>
        rw [run_select_of_error hprepare]
        exact ⟨.nothing, (after_nil session source).symm⟩
    | ok bound =>
        simp only [run, select, hprepare]
        rcases fetch_cases source session bound.query with
          ⟨hasked, hsession⟩ | ⟨hcached, hasked, hsession⟩
        · rw [hasked, hsession]
          exact ⟨.nothing, (after_nil session source).symm⟩
        · rw [hasked, hsession]
          exact ⟨.query rfl hprepare hcached, rfl⟩
  have hcatalog : (session.run source (.select statement)).session.catalog =
      session.catalog := by
    rw [hasks.2]
    rfl
  refine ⟨hasks.1, hasks.2, fun outcome houtcome => ?_, fun _ _ => hcatalog,
    fun _ => hcatalog⟩
  rw [run] at houtcome
  cases hresult : (session.select source statement).result with
  | error error => simp [hresult] at houtcome
  | ok set =>
      obtain rfl : Outcome.rows set = outcome := by
        simpa [hresult] using houtcome
      exact .rows set rfl

/-- A statement that tells of the catalog leaves the session as it was. -/
theorem leaves_of_tells {session : Session κ} {statement : Statement}
    (hview : statement.view? = none) (result : Except CatalogError ResultSet)
    (source : ReportSource) :
    Leaves source session statement
      ⟨(result.map Outcome.rows).mapError .catalog, session, []⟩ := by
  have hsession : session = session.after source [statement] [] := by
    conv_lhs => rw [← after_nil session source]
    simp [after, hview]
  refine ⟨.nothing, hsession, fun outcome houtcome => ?_, fun _ _ => rfl,
    fun _ => rfl⟩
  cases result with
  | error error => simp at houtcome
  | ok set =>
      obtain rfl : Outcome.rows set = outcome := by
        simpa using houtcome
      exact .rows set hview

theorem createView_leaves (source : ReportSource) (session : Session κ)
    (create : CreateView) :
    Leaves source session (.createView create) (session.createView create) := by
  have hafter : session.after source [.createView create] [] =
      { session with catalog := session.catalog.afterView create } := by
    obtain ⟨catalog, account, today, cache⟩ := session
    cases cache <;> rfl
  cases hadd : session.catalog.addView create with
  | error error =>
      simp only [createView, hadd]
      refine ⟨.nothing, ?_, by simp, fun _ _ => rfl, fun _ => rfl⟩
      rw [hafter, Catalog.afterView_of_error hadd]
  | ok later =>
      simp only [createView, hadd]
      refine ⟨.nothing, ?_,
        fun outcome houtcome => ?_, by simp, by simp [Statement.view?]⟩
      · rw [hafter, Catalog.afterView_of_ok hadd]
      · obtain rfl : Outcome.viewStored create.name = outcome := by
          simpa using houtcome
        exact .viewStored create

theorem run_leaves (source : ReportSource) (session : Session κ)
    (statement : Statement) :
    Leaves source session statement (session.run source statement) := by
  cases statement with
  | select statement => exact select_leaves source session statement
  | describe statement => exact leaves_of_tells rfl _ source
  | showTables statement => exact leaves_of_tells rfl _ source
  | createView create => exact createView_leaves source session create

/-- A statement that fails leaves nothing but the answer to what it asked. -/
theorem session_of_error {source : ReportSource} {session : Session κ}
    {statement : Statement} {error : QueryError}
    (h : (session.run source statement).result = .error error) :
    (session.run source statement).session =
      session.after source [] (session.run source statement).asked := by
  have hleaves := run_leaves source session statement
  have hcatalog := hleaves.catalog_of_error error h
  rw [hleaves.session_eq] at hcatalog ⊢
  exact congrArg (fun catalog => { session.after source [] _ with catalog })
    hcatalog

/-! ## Scripts -/

/-- What statements may ask, one after the other, of a cache that changes
before each of them. -/
inductive MayAskInTurn (source : ReportSource) :
    (Nat → κ → κ) → Session κ → List Statement → List String → Prop where
  | nil (change : Nat → κ → κ) (session : Session κ) :
      MayAskInTurn source change session [] []
  | cons {change : Nat → κ → κ} {session : Session κ} {statement : Statement}
      {rest : List Statement} {asked later : List String} :
      (session.mapCache (change 0)).MayAsk statement asked →
      MayAskInTurn source (fun n => change (n + 1))
        ((session.mapCache (change 0)).after source [statement] asked) rest
          later →
        MayAskInTurn source change session (statement :: rest) (asked ++ later)

/-- What may become of a cache that is told answers in their order, while it
changes in between. -/
inductive Told (change : Nat → κ → κ) : List WriteRequest → κ → κ → Prop where
  | refl (cache : κ) : Told change [] cache cache
  | changed {answers : List WriteRequest} {cache later : κ} (n : Nat) :
      Told change answers cache later →
        Told change answers cache (change n later)
  | told {answers : List WriteRequest} {cache later : κ}
      (answer : WriteRequest) : Told change answers cache later →
        Told change (answers ++ [answer]) cache
          (ReportCache.set later answer.key answer.records)

namespace Told

variable {change : Nat → κ → κ} {first second : List WriteRequest}
  {before between later : κ}

theorem trans (h : Told change first before between)
    (h' : Told change second between later) :
    Told change (first ++ second) before later := by
  induction h' with
  | refl => simpa using h
  | changed n _ ih => exact .changed n (ih h)
  | told answer _ ih =>
      rw [← List.append_assoc]
      exact .told answer (ih h)

theorem of_succ (h : Told (fun n => change (n + 1)) first before later) :
    Told change first before later := by
  induction h with
  | refl cache => exact .refl cache
  | changed n _ ih => exact .changed (n + 1) ih
  | told answer _ ih => exact .told answer ih

theorem foldl_set (answers : List WriteRequest) (cache : κ) :
    Told change answers cache
      (answers.foldl (fun cache answer =>
        ReportCache.set cache answer.key answer.records) cache) := by
  induction answers using List.reverseRecOn with
  | nil => exact .refl cache
  | append_singleton answers answer ih =>
      rw [List.foldl_append]
      exact .told answer ih

theorem eq_foldl_set {answers : List WriteRequest}
    (h : Told (fun _ cache => cache) answers before later) :
    later = answers.foldl (fun cache answer =>
      ReportCache.set cache answer.key answer.records) before := by
  induction h with
  | refl => rfl
  | changed _ _ ih => exact ih
  | told answer _ ih => rw [List.foldl_append, ← ih]; rfl

end Told

/-- What statements leave that are run up to the first that fails, with a cache
that changes before each of them: the catalog with the accepted views of those
before it, and a cache that was told the answers to what was asked. -/
structure LeavesInTurn (source : ReportSource) (change : Nat → κ → κ)
    (session : Session κ) (statements : List Statement)
    (reply : ScriptReply κ) : Prop where
  mayAsk : MayAskInTurn source change session
    (statements.take (reply.outcomes.length + 1)) reply.asked
  session_eq : reply.session =
    { session with
      catalog := session.catalog.addViews
        ((statements.take reply.outcomes.length).filterMap Statement.view?)
      cache := reply.session.cache }
  told : Option.Rel
    (Told change (answers source session.account reply.asked))
    session.cache reply.session.cache
  produces : List.Forall₂ Statement.Produces
    (statements.take reply.outcomes.length) reply.outcomes
  outcomes_of_success : reply.error = none →
    reply.outcomes.length = statements.length

namespace LeavesInTurn

variable {source : ReportSource} {change : Nat → κ → κ} {session : Session κ}
  {statements : List Statement} {reply : ScriptReply κ}

theorem cache_of_none (h : LeavesInTurn source change session statements reply)
    (hnone : session.cache = none) : reply.session.cache = none := by
  have htold := h.told
  rw [hnone] at htold
  generalize reply.session.cache = later at htold
  cases htold
  rfl

theorem cache_of_some (h : LeavesInTurn source change session statements reply)
    {cache : κ} (hsome : session.cache = some cache) :
    ∃ later, reply.session.cache = some later ∧
      Told change (answers source session.account reply.asked) cache later := by
  have htold := h.told
  rw [hsome] at htold
  generalize reply.session.cache = later at htold
  cases htold with
  | some h => exact ⟨_, rfl, h⟩

end LeavesInTurn

theorem told_mapCache_after (source : ReportSource) (change : Nat → κ → κ)
    (session : Session κ) (done : List Statement) (asked : List String) :
    Option.Rel (Told change (answers source session.account asked))
      session.cache ((session.mapCache (change 0)).after source
        done asked).cache := by
  obtain ⟨catalog, account, today, cache⟩ := session
  cases cache with
  | none => exact .none
  | some cache =>
      have hchanged : Told change [] cache (change 0 cache) :=
        .changed 0 (.refl cache)
      exact .some (hchanged.trans (.foldl_set _ _))

theorem told_trans {change : Nat → κ → κ} {first second : List WriteRequest}
    {before between later : Option κ}
    (h : Option.Rel (Told change first) before between)
    (h' : Option.Rel (Told (fun n => change (n + 1)) second) between later) :
    Option.Rel (Told change (first ++ second)) before later := by
  cases h with
  | none => cases h'; exact .none
  | some h =>
      cases h' with
      | some h' => exact .some (h.trans h'.of_succ)

theorem eq_map_keepAnswers_of_told {source : ReportSource} {account : String}
    {asked : List String} {before later : Option κ}
    (h : Option.Rel (Told (fun _ cache => cache) (answers source account asked))
      before later) :
    later = before.map (keepAnswers source account asked) := by
  cases h with
  | none => rfl
  | some h => exact congrArg some h.eq_foldl_set

theorem addViews_after (session : Session κ) (source : ReportSource)
    (statement : Statement) (asked : List String) (done : List Statement) :
    (session.after source [statement] asked).catalog.addViews
        (done.filterMap Statement.view?) =
      session.catalog.addViews
        ((statement :: done).filterMap Statement.view?) := by
  rw [show statement :: done = [statement] ++ done from rfl,
    List.filterMap_append]
  exact List.foldl_append.symm

theorem runInTurn_leaves (source : ReportSource) (change : Nat → κ → κ)
    (session : Session κ) (statements : List Statement) :
    LeavesInTurn source change session statements
      (session.runInTurn source change statements) := by
  induction statements generalizing session change with
  | nil =>
      refine ⟨.nil change session, rfl, ?_, .nil, fun _ => rfl⟩
      change Option.Rel (Told change []) session.cache session.cache
      cases session.cache with
      | none => exact .none
      | some cache => exact .some (.refl cache)
  | cons statement rest ih =>
      have hleaves := run_leaves source (session.mapCache (change 0)) statement
      rw [runInTurn]
      cases hresult :
          ((session.mapCache (change 0)).run source statement).result with
      | error error =>
          have hsession := session_of_error hresult
          have hasks : MayAskInTurn source change session [statement]
              (((session.mapCache (change 0)).run source statement).asked
                ++ []) :=
            .cons hleaves.mayAsk (.nil _ _)
          rw [List.append_nil] at hasks
          refine ⟨hasks, ?_, ?_, .nil, by simp⟩
          · dsimp only
            rw [hsession]
            rfl
          · dsimp only
            rw [hsession]
            exact told_mapCache_after source change session [] _
      | ok outcome =>
          have hrest := ih (fun n => change (n + 1))
            ((session.mapCache (change 0)).run source statement).session
          rw [hleaves.session_eq] at hrest ⊢
          have htold := told_trans
            (told_mapCache_after source change session [statement] _) hrest.told
          rw [account_after, account_mapCache, ← answers_append] at htold
          refine ⟨.cons hleaves.mayAsk hrest.mayAsk, ?_, htold,
            .cons (hleaves.produces outcome hresult) hrest.produces,
            fun herror => congrArg (· + 1) (hrest.outcomes_of_success herror)⟩
          refine hrest.session_eq.trans ?_
          rw [addViews_after]
          rfl

/-- What statements leave that are run up to the first that fails, with a cache
that nobody else uses: the session with the accepted views of those before it,
and with the answers to what was asked. -/
structure LeavesAll (source : ReportSource) (session : Session κ)
    (statements : List Statement) (reply : ScriptReply κ) : Prop where
  mayAsk : MayAskInTurn source (fun _ cache => cache) session
    (statements.take (reply.outcomes.length + 1)) reply.asked
  session_eq : reply.session =
    session.after source (statements.take reply.outcomes.length) reply.asked
  produces : List.Forall₂ Statement.Produces
    (statements.take reply.outcomes.length) reply.outcomes
  outcomes_of_success : reply.error = none →
    reply.outcomes.length = statements.length

theorem runAll_leaves (source : ReportSource) (session : Session κ)
    (statements : List Statement) :
    LeavesAll source session statements (session.runAll source statements) := by
  have hleaves := runInTurn_leaves source (fun _ cache => cache)
    session statements
  refine ⟨hleaves.mayAsk, ?_, hleaves.produces, hleaves.outcomes_of_success⟩
  refine hleaves.session_eq.trans ?_
  rw [eq_map_keepAnswers_of_told hleaves.told]
  rfl

/-- Without a cache it does not matter what others do with it. -/
theorem runInTurn_of_uncached {session : Session κ}
    (hnone : session.cache = none) (source : ReportSource)
    (change : Nat → κ → κ) (statements : List Statement) :
    session.runInTurn source change statements =
      session.runAll source statements := by
  induction statements generalizing session change with
  | nil => rfl
  | cons statement rest ih =>
      have hsame : session.mapCache (change 0) = session := by
        obtain ⟨catalog, account, today, cache⟩ := session
        obtain rfl : cache = none := hnone
        rfl
      have hlater : (session.run source statement).session.cache = none := by
        rw [(run_leaves source session statement).session_eq, after, hnone]
        rfl
      rw [runInTurn, hsame, runAll_cons]
      dsimp only
      cases (session.run source statement).result with
      | error error => rfl
      | ok outcome =>
          exact congrArg (fun later : ScriptReply κ =>
            { later with
              outcomes := outcome :: later.outcomes
              asked := (session.run source statement).asked ++ later.asked })
            (ih hlater _)

/-- When a statement behind others fails, nothing comes of it and of those
behind it. -/
theorem runInTurn_of_failure {source : ReportSource} {change : Nat → κ → κ}
    {session : Session κ} {before : List Statement} {failing : Statement}
    {error : QueryError}
    (hbefore : (session.runInTurn source change before).error = none)
    (hfailing : (((session.runInTurn source change before).session.mapCache
      (change before.length)).run source failing).result = .error error)
    (behind : List Statement) :
    session.runInTurn source change (before ++ failing :: behind) =
      let first := session.runInTurn source change before
      let reply :=
        (first.session.mapCache (change before.length)).run source failing
      ⟨first.outcomes, some error, reply.session,
        first.asked ++ reply.asked⟩ := by
  rw [runInTurn_append hbefore]
  simp [runInTurn, hfailing]

theorem runAll_of_failure {source : ReportSource} {session : Session κ}
    {before : List Statement} {failing : Statement} {error : QueryError}
    (hbefore : (session.runAll source before).error = none)
    (hfailing : ((session.runAll source before).session.run
      source failing).result = .error error) (behind : List Statement) :
    session.runAll source (before ++ failing :: behind) =
      let first := session.runAll source before
      let reply := first.session.run source failing
      ⟨first.outcomes, some error, reply.session,
        first.asked ++ reply.asked⟩ := by
  rw [← mapCache_id (session.runAll source before).session] at hfailing
  have hwhole := runInTurn_of_failure hbefore hfailing behind
  simp only [mapCache_id] at hwhole
  exact hwhole

/-! ## Entries of the cache -/

/-- The records that answers hold under a key. -/
def kept? (answers : List WriteRequest) (key : String) : Option Records :=
  (answers.find? fun answer => answer.key == key).map WriteRequest.records

theorem kept?_append (first second : List WriteRequest) (key : String) :
    kept? (first ++ second) key = (kept? first key).or (kept? second key) := by
  rw [kept?, List.find?_append, Option.map_or]
  rfl

variable [LawfulCache κ]

/-- A statement adds an entry only under a key that had none. -/
theorem get?_keepAnswers_of_mayAsk {session : Session κ} {statement : Statement}
    {asked : List String} (h : session.MayAsk statement asked) {cache : κ}
    (hcache : session.cache = some cache) (source : ReportSource)
    (key : String) :
    ReportCache.get? (keepAnswers source session.account asked cache) key =
      (ReportCache.get? cache key).or
        (kept? (answers source session.account asked) key) := by
  cases h with
  | nothing => simp [keepAnswers, answers, kept?]
  | @query select bound hstatement hprepare hcached =>
      have hmissing :
          ReportCache.get? cache (cacheKey session.account bound.query) =
          none := by
        simpa [cached?, hcache] using hcached
      cases hsource : source bound.query with
      | error error => simp [keepAnswers, answers, kept?, hsource]
      | ok records =>
          by_cases hkey : cacheKey session.account bound.query = key
          · subst hkey
            simp [keepAnswers, answers, kept?, hsource, hmissing,
              LawfulCache.get?_set_same]
          · simp [keepAnswers, answers, kept?, hsource, hkey,
              LawfulCache.get?_set_other _ _ _ _ (Ne.symm hkey)]

/-- The entries that statements add are the answers to what they asked, and
entries that were there stay what they were. -/
theorem get?_keepAnswers_of_mayAskInTurn {source : ReportSource}
    {change : Nat → κ → κ} (hchange : ∀ n, change n = fun cache => cache)
    {session : Session κ} {statements : List Statement} {asked : List String}
    (h : MayAskInTurn source change session statements asked) {cache : κ}
    (hcache : session.cache = some cache) (key : String) :
    ReportCache.get? (keepAnswers source session.account asked cache) key =
      (ReportCache.get? cache key).or
        (kept? (answers source session.account asked) key) := by
  induction h generalizing cache with
  | nil change session => simp [keepAnswers, answers, kept?]
  | @cons change session statement rest asked later hasks hlater ih =>
      rw [hchange 0, mapCache_id] at hasks ih
      have hnext : (session.after source [statement] asked).cache =
          some (keepAnswers source session.account asked cache) := by
        rw [after, hcache]
        rfl
      calc ReportCache.get?
            (keepAnswers source session.account (asked ++ later) cache) key
          = ReportCache.get? (keepAnswers source session.account later
              (keepAnswers source session.account asked cache)) key := by
            rw [keepAnswers_append]
        _ = (ReportCache.get?
                (keepAnswers source session.account asked cache) key).or
              (kept? (answers source session.account later) key) :=
            ih (fun n => hchange (n + 1)) hnext
        _ = ((ReportCache.get? cache key).or
                (kept? (answers source session.account asked) key)).or
              (kept? (answers source session.account later) key) := by
            rw [get?_keepAnswers_of_mayAsk hasks hcache]
        _ = (ReportCache.get? cache key).or
              (kept?
                (answers source session.account (asked ++ later)) key) := by
            rw [answers_append, kept?_append, Option.or_assoc]

end Session

end ReportQuery
