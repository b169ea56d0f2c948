import ReportQuery.Proofs.Cache.BackgroundWrites
import ReportQuery.Proofs.Command.ScriptsInParts
import ReportQuery.Proofs.Session.LeftBehind

/-!
# Scripts that fail

A script is read as a whole before its first statement runs, so that one that
cannot be read leaves no trace. Of one that fails later there remain the views
of the statements before the failure, in the catalog of the session and in the
catalog file. Views are the only statements that change the catalog, and all of
those before the failure were accepted; so the file is written exactly when
there was one.

What was downloaded is handed to the cache, and nothing else is. How much of it
the store has when a run ends is up to the worker: of a run that goes through
all that found room in the queue, in its order, and of one that fails a first
part of that.
-/

namespace ReportQuery

/-! ## The store at the end of a run -/

/-- What steps of a cache, among which some requests come in, make of its
files. The worker writes what was accepted, in its order and, when it has gone
on to the end, all of it. -/
structure BackgroundCache.Leaves (cache : BackgroundCache)
    (steps : List CacheStep) (handed : List WriteRequest) (failed : Bool)
    (files : List StoredFile) : Prop where
  handed_eq : steps.filterMap CacheStep.request? = handed
  files_eq : files = (written cache.store (cache.taken steps)).files
  accepted_sublist : (cache.accepted steps).Sublist handed
  accepted_of_room : handed.length ≤ cache.queue.capacity →
    cache.accepted steps = handed
  taken_prefix :
    (cache.taken steps).map Prod.snd <+: cache.accepted steps
  taken_of_success : failed = false →
    (cache.taken steps).map Prod.snd = cache.accepted steps

namespace TurnCache

variable {schedule : Schedule} {answers : List WriteRequest}
  {cache later : TurnCache}

theorem background_work (cache : TurnCache) (time : Int) :
    (cache.work time).background = cache.background.work time := by
  unfold work BackgroundCache.work
  split <;> simp_all

theorem background_foldl_work (cache : TurnCache) (times : List Int) :
    (times.foldl work cache).background =
      cache.background.run (times.map .work) := by
  induction times generalizing cache with
  | nil => rfl
  | cons time rest ih =>
      rw [List.foldl_cons, ih, background_work]
      rfl

theorem background_next (cache : TurnCache) (turn : TurnTimes) :
    (cache.next turn).background =
      cache.background.run
        (turn.before.map .work ++ turn.during.map .work) := by
  rw [next, background_foldl_work, BackgroundCache.run_append]
  dsimp only
  rw [background_foldl_work]

/-- A cache that is told answers at its turns takes steps, among which these
are the requests. -/
theorem exists_steps_of_told
    (h : Session.Told (fun n (cache : TurnCache) =>
      cache.next (schedule.turn n)) answers cache later) :
    ∃ steps : List CacheStep,
      steps.filterMap CacheStep.request? = answers ∧
        later.background = cache.background.run steps := by
  have hwork (times : List Int) :
      (times.map CacheStep.work).filterMap CacheStep.request? = [] := by
    simp [CacheStep.request?]
  induction h with
  | refl cache => exact ⟨[], rfl, rfl⟩
  | changed n _ ih =>
      obtain ⟨steps, hrequests, hrun⟩ := ih
      refine ⟨steps ++ ((schedule.turn n).before.map .work ++
        (schedule.turn n).during.map .work), ?_, ?_⟩
      · simp only [List.filterMap_append, hwork, hrequests, List.append_nil]
      · rw [background_next, hrun, ← BackgroundCache.run_append]
  | told answer _ ih =>
      obtain ⟨steps, hrequests, hrun⟩ := ih
      refine ⟨steps ++ [.set answer], ?_, ?_⟩
      · rw [List.filterMap_append, hrequests]
        rfl
      · rw [BackgroundCache.run_append, ← hrun]
        rfl

/-- At the end of a run the worker takes further steps, and when the run goes
through it leaves nothing waiting. -/
theorem exists_times_of_close (cache : TurnCache) (schedule : Schedule)
    (failed : Bool) (now : Int) :
    ∃ times : List Int,
      cache.close schedule failed now =
          cache.background.run (times.map .work) ∧
        (failed = false →
          (cache.close schedule failed now).queue.waiting = []) := by
  by_cases hgivesUp : (failed && schedule.abandons) = true
  · refine ⟨schedule.last, ?_, fun h => by simp [h] at hgivesUp⟩
    rw [close, if_pos hgivesUp]
  · refine ⟨schedule.last ++ List.replicate
      (cache.background.run (schedule.last.map .work)).queue.waiting.length
        now, ?_, fun _ => ?_⟩
    · rw [close, if_neg hgivesUp, BackgroundCache.drain_eq_run,
        List.map_append, BackgroundCache.run_append]
    · rw [close, if_neg hgivesUp]
      rfl

/-- A run that fails may lose the report that it handed over last. -/
example :
    let cache := (ofStore ⟨10, []⟩ 1 0).set "key" [["1"]]
    let schedule : Schedule :=
      { turn := fun _ => { now := 0 }, abandons := true }
    (cache.close schedule true 0).store.files.length = 0 ∧
      (cache.close schedule false 0).store.files.length = 1 := by
  decide +kernel

theorem exists_leaves_of_told
    (hidle : cache.background.queue.waiting = [])
    (h : Session.Told (fun n (cache : TurnCache) =>
      cache.next (schedule.turn n)) answers cache later)
    (failed : Bool) (now : Int) :
    ∃ steps, cache.background.Leaves steps answers failed
      (later.close schedule failed now).store.files := by
  obtain ⟨steps, hrequests, hrun⟩ := exists_steps_of_told h
  obtain ⟨times, hclose, hdrained⟩ :=
    exists_times_of_close later schedule failed now
  have hend : later.close schedule failed now =
      cache.background.run (steps ++ times.map .work) := by
    rw [hclose, hrun, BackgroundCache.run_append]
  have hhanded : (steps ++ times.map CacheStep.work).filterMap
      CacheStep.request? = answers := by
    simp [hrequests, CacheStep.request?]
  have htaken := BackgroundCache.waiting_append_accepted cache.background
    (steps ++ times.map .work)
  rw [hidle, List.nil_append] at htaken
  refine ⟨steps ++ times.map .work, hhanded, ?_, ?_, fun hroom => ?_,
    ⟨_, htaken.symm⟩, fun hsuccess => ?_⟩
  · rw [hend, BackgroundCache.store_run]
  · rw [← hhanded]
    exact BackgroundCache.accepted_sublist _ _
  · rw [← hhanded] at hroom ⊢
    refine BackgroundCache.accepted_of_room ?_
    rw [hidle]
    simpa using hroom
  · rw [htaken, ← hend, hdrained hsuccess, List.append_nil]

end TurnCache

namespace Command

/-! ## Runs -/

/-- A run leaves everything as it was, makes no request and prints nothing. -/
structure LeavesNothing (surroundings : Surroundings) (run : Execution) :
    Prop where
  files_eq : run.files = surroundings.files
  caches_eq : run.caches = surroundings.caches
  requests_eq : run.requests = []
  output_eq : run.output = ""

theorem fail_leavesNothing (surroundings : Surroundings)
    (error : CommandError) :
    LeavesNothing surroundings (fail surroundings error) :=
  ⟨rfl, rfl, rfl, rfl⟩

theorem runScript_leavesNothing {surroundings : Surroundings}
    {options : Options} {error : ParseError}
    (hparse : parseScript (options.script.getD surroundings.input) =
      .error error) (transport : Transport) :
    LeavesNothing surroundings (runScript surroundings transport options) := by
  rw [runScript]
  cases setup surroundings options with
  | error fault => exact fail_leavesNothing surroundings fault
  | ok s =>
      simp only [hparse]
      exact fail_leavesNothing surroundings _

/-- What a run leaves that does statements one after the other, whatever the
worker of its cache does meanwhile. The catalog file has the accepted views of
the statements before the first failure, when there are any. The cache was
handed the answers to what was asked, and the stored reports are what its steps
made of those that were there. -/
structure LeavesStatements (surroundings : Surroundings) (transport : Transport)
    (s : Setup) (statements : List Statement) (run : Execution) : Prop where
  leavesInTurn : Session.LeavesInTurn (s.settings.service.fetch transport)
    (fun n cache => cache.next (surroundings.schedule.turn n))
    (openSession surroundings s) statements
    (scriptReply surroundings transport s statements)
  error_eq : run.error =
    (scriptReply surroundings transport s statements).error.map .query
  of_failure : ∀ before failing behind error,
    statements = before ++ failing :: behind →
    (scriptReply surroundings transport s before).error = none →
    (((scriptReply surroundings transport s before).session.mapCache
        fun cache => cache.next (surroundings.schedule.turn before.length)).run
      (s.settings.service.fetch transport) failing).result = .error error →
    run.error = some (.query error) ∧
      (scriptReply surroundings transport s statements).session.catalog =
        s.catalog.addViews (before.filterMap Statement.view?)
  requests_eq : run.requests =
    s.settings.service.requests
      (scriptReply surroundings transport s statements).asked
  files_of_no_view :
    let done := statements.take
      (scriptReply surroundings transport s statements).outcomes.length
    done.filterMap Statement.view? = [] → run.files = surroundings.files
  files_of_view :
    let done := statements.take
      (scriptReply surroundings transport s statements).outcomes.length
    done.filterMap Statement.view? ≠ [] →
      run.files = surroundings.files.write s.catalogPath
        (s.catalog.addViews (done.filterMap Statement.view?)).document
  caches_of_disabled : openCache surroundings s = none →
    run.caches = surroundings.caches
  caches_of_enabled : ∀ cache, openCache surroundings s = some cache →
    ∃ steps files,
      cache.background.Leaves steps
        (Session.answers (s.settings.service.fetch transport)
          s.settings.service.accountId
          (scriptReply surroundings transport s statements).asked)
        run.error.isSome files ∧
      let directory := cacheDirectory surroundings s.settings
      run.caches = (directory, files) ::
        surroundings.caches.filter fun entry => entry.1 != directory

section Statements

variable (surroundings : Surroundings) (transport : Transport) (s : Setup)
  {statements : List Statement}

theorem catalog_of_failure {before : List Statement} {failing : Statement}
    {error : QueryError}
    (hbefore : (scriptReply surroundings transport s before).error = none)
    (hfailing : (((scriptReply surroundings transport s before).session.mapCache
        fun cache => cache.next (surroundings.schedule.turn before.length)).run
      (s.settings.service.fetch transport) failing).result = .error error)
    (behind : List Statement) :
    let reply :=
      scriptReply surroundings transport s (before ++ failing :: behind)
    reply.error = some error ∧
      reply.session.catalog =
        s.catalog.addViews (before.filterMap Statement.view?) := by
  intro reply
  have hreply := Session.runInTurn_of_failure hbefore hfailing behind
  have hfirst := scriptReply_leaves surroundings transport s before
  have hsame := (Session.run_leaves _ _ failing).catalog_of_error error hfailing
  have hdone := hfirst.outcomes_of_success hbefore
  refine ⟨congrArg Session.ScriptReply.error hreply, ?_⟩
  refine (congrArg (fun reply => reply.session.catalog) hreply).trans
    (hsame.trans ?_)
  refine (congrArg Session.catalog hfirst.session_eq).trans ?_
  rw [hdone, List.take_length]
  rfl

theorem caches_of_enabled {cache : TurnCache}
    (hcache : openCache surroundings s = some cache) :
    ∃ steps files,
      cache.background.Leaves steps
        (Session.answers (s.settings.service.fetch transport)
          s.settings.service.accountId
          (scriptReply surroundings transport s statements).asked)
        (scriptReply surroundings transport s statements).error.isSome files ∧
      let directory := cacheDirectory surroundings s.settings
      saveCache surroundings s
          (scriptReply surroundings transport s statements) =
        (directory, files) ::
          surroundings.caches.filter fun entry => entry.1 != directory := by
  have hleaves := scriptReply_leaves surroundings transport s statements
  obtain ⟨later, hlater, htold⟩ := hleaves.cache_of_some hcache
  have hidle : cache.background.queue.waiting = [] := by
    rw [openCache] at hcache
    split at hcache
    · obtain rfl := Option.some.inj hcache
      rfl
    · contradiction
  obtain ⟨steps, hsteps⟩ := TurnCache.exists_leaves_of_told hidle htold
    (scriptReply surroundings transport s statements).error.isSome
    surroundings.now
  refine ⟨steps, _, hsteps, ?_⟩
  rw [saveCache, hlater]

theorem runStatements_leaves (batch : Bool) (statements : List Statement) :
    LeavesStatements surroundings transport s statements
      (runStatements surroundings transport s batch statements) := by
  have hleaves := scriptReply_leaves surroundings transport s statements
  have hstored := any_storedView_eq hleaves.produces
  have hfiles :
      (runStatements surroundings transport s batch statements).files =
        saveCatalog surroundings s
          (scriptReply surroundings transport s statements) := rfl
  have hcaches :
      (runStatements surroundings transport s batch statements).caches =
        saveCache surroundings s
          (scriptReply surroundings transport s statements) := rfl
  have herror :
      (runStatements surroundings transport s batch statements).error =
        (scriptReply surroundings transport s statements).error.map .query :=
    rfl
  refine ⟨hleaves, herror, ?_, rfl, fun hnone => ?_, fun hview => ?_,
    fun hnone => ?_, fun cache hcache => ?_⟩
  · rintro before failing behind error rfl hbefore hfailing
    obtain ⟨hfailed, hcatalog⟩ :=
      catalog_of_failure surroundings transport s hbefore hfailing behind
    exact ⟨herror.trans (congrArg (Option.map CommandError.query) hfailed),
      hcatalog⟩
  · rw [hfiles, saveCatalog, hstored, hnone]
    rfl
  · rw [hfiles, saveCatalog, hstored, if_pos (by simpa using hview),
      hleaves.session_eq]
    rfl
  · rw [hcaches, saveCache, hleaves.cache_of_none hnone]
  · obtain ⟨steps, files, hsteps, hstores⟩ :=
      caches_of_enabled surroundings transport s hcache
    refine ⟨steps, files, ?_, hcaches.trans hstores⟩
    rw [herror, Option.isSome_map]
    exact hsteps

end Statements

/-- A script that cannot be read leaves nothing. One that fails leaves the
accepted views of the statements before the failure, and has handed to the
cache what it downloaded, of which the worker has written a part, whatever
steps it took. The same holds of the statements of any session with any cache:
each asks for one query at most, as a SELECT that is bound and whose records
the cache does not have, and the entries that a cache gains are the answers to
what was asked. -/
theorem runScript_leaves (surroundings : Surroundings) (transport : Transport)
    (options : Options) :
    (∀ error, parseScript (options.script.getD surroundings.input) =
      .error error →
        LeavesNothing surroundings (runScript surroundings transport options)) ∧
      (∀ s statements, setup surroundings options = .ok s →
        parseScript (options.script.getD surroundings.input) = .ok statements →
          LeavesStatements surroundings transport s statements
            (runScript surroundings transport options)) ∧
      ∀ (κ : Type) [ReportCache κ] (source : ReportSource)
        (session : Session κ),
        (∀ statement,
          Session.Leaves source session statement
            (session.run source statement)) ∧
        (∀ statements,
          Session.LeavesAll source session statements
            (session.runAll source statements)) ∧
        (∀ before failing behind error,
          (session.runAll source before).error = none →
          ((session.runAll source before).session.run source failing).result =
              .error error →
            let reply := session.runAll source (before ++ failing :: behind)
            reply.error = some error ∧ reply.outcomes.length = before.length ∧
              reply.session.catalog =
                session.catalog.addViews (before.filterMap Statement.view?)) ∧
        ∀ [LawfulCache κ] (statements : List Statement) (cache : κ),
          session.cache = some cache →
            let reply := session.runAll source statements
            ∃ later, reply.session.cache = some later ∧ ∀ key,
              ReportCache.get? later key =
                (ReportCache.get? cache key).or
                  (Session.kept? (Session.answers source session.account
                    reply.asked) key) := by
  refine ⟨fun error hparse => runScript_leavesNothing hparse transport,
    fun s statements hsetup hparse => ?_, fun κ _ source session =>
    ⟨Session.run_leaves source session, Session.runAll_leaves source session,
      fun before failing behind error hbefore hfailing => ?_,
      fun statements cache hcache => ?_⟩⟩
  · rw [runScript, hsetup]
    simp only [hparse]
    exact runStatements_leaves surroundings transport s options.batch statements
  · have hfirst := Session.runAll_leaves source session before
    have hlength := hfirst.outcomes_of_success hbefore
    have hcatalog :=
      (Session.run_leaves source (session.runAll source before).session
      failing).catalog_of_error error hfailing
    rw [Session.runAll_of_failure hbefore hfailing behind]
    refine ⟨rfl, hlength, hcatalog.trans ?_⟩
    rw [hfirst.session_eq, hlength, List.take_length]
    rfl
  · have hleaves := Session.runAll_leaves source session statements
    refine ⟨_, ?_, Session.get?_keepAnswers_of_mayAskInTurn (fun _ => rfl)
      hleaves.mayAsk hcache⟩
    rw [hleaves.session_eq, Session.after, hcache]
    rfl

/-- A script with a statement that cannot be read behind one that can. -/
def cutScript : String :=
  "SELECT Name FROM SHIPS; SELEC"

/-- A script whose third statement asks for a column that is not there. -/
def lostScript : String :=
  "CREATE VIEW names AS SELECT Name FROM SHIPS; SELECT Name FROM names; " ++
    "SELECT Port FROM SHIPS; CREATE VIEW ids AS SELECT Id FROM SHIPS"

/-- A SELECT of one column. -/
def selectOf (column source : String) (terminator : Terminator) : Select where
  items := [{ column := { name := column } }]
  source := source
  terminator := terminator

/-- A CREATE VIEW without a list of names. -/
def viewOf (name : String) (select : Select) : CreateView where
  replace := false
  name := name
  columns := []
  select := select

/-- The view of the script. -/
def shipNames : CreateView :=
  viewOf "names" (selectOf "Name" "SHIPS" .semicolon)

/-- The statements before the one that fails. -/
def foundStatements : List Statement :=
  [.createView shipNames, .select (selectOf "Name" "names" .semicolon)]

/-- The statement that fails. -/
def lostSelect : Statement :=
  .select (selectOf "Port" "SHIPS" .semicolon)

/-- The statement behind it. -/
def lateView : Statement :=
  .createView (viewOf "ids" (selectOf "Id" "SHIPS" .ending))

/-- A source that knows the names of ships. -/
def shipSource : ReportSource := fun query =>
  if query = "SELECT Name FROM SHIPS" then .ok [["Orca"]] else .error .timeout

/-- A session on the catalog of ships, with an empty cache. -/
def shipSession : Session MemoryCache :=
  ⟨portSetup.catalog, "1", Day.ofCount 0, some {}⟩

/-- A run on a script about ships. -/
def portRun (script : String) : Execution :=
  runScript portSurroundings portTransport
    { portOptions with script := some script }

theorem runScript_leaves_lostScript :
    (∃ error, parseScript cutScript = .error error) ∧
      LeavesNothing portSurroundings (portRun cutScript) ∧
      parseScript lostScript =
        .ok (foundStatements ++ lostSelect :: [lateView]) ∧
      (portRun lostScript).requests.length = 1 ∧
      (portRun lostScript).files = portSurroundings.files.write "/c"
        (portSetup.catalog.addViews [shipNames]).document ∧
      let reply := shipSession.runAll shipSource
        (foundStatements ++ lostSelect :: [lateView])
      reply.error.isSome ∧
        reply.session.catalog = portSetup.catalog.addViews [shipNames] ∧
        ∃ later, reply.session.cache = some later ∧ ∀ key,
          later.get? key =
            if key = cacheKey "1" "SELECT Name FROM SHIPS" then some [["Orca"]]
            else none := by
  obtain ⟨error, hcut⟩ : ∃ error, parseScript cutScript = .error error :=
    ⟨.unexpected .syntaxNear "SELEC", by decide +kernel⟩
  have hlost : parseScript lostScript =
      .ok (foundStatements ++ lostSelect :: [lateView]) := by
    decide +kernel
  have hrun := (runScript_leaves portSurroundings portTransport
    { portOptions with script := some lostScript }).2.1 portSetup _
    setup_portSurroundings hlost
  have hdone : (scriptReply portSurroundings portTransport portSetup
      (foundStatements ++ lostSelect :: [lateView])).outcomes.length = 2 := by
    decide +kernel
  have hfiles := hrun.files_of_view
  rw [hdone] at hfiles
  have hrequests :
      (portSetup.settings.service.requests (scriptReply portSurroundings
      portTransport portSetup (foundStatements ++
        lostSelect :: [lateView])).asked).length = 1 := by
    decide +kernel
  refine ⟨⟨error, hcut⟩, (runScript_leaves portSurroundings portTransport _).1
    error hcut, hlost, (congrArg List.length hrun.requests_eq).trans hrequests,
    hfiles (by decide), ?_⟩
  obtain ⟨-, -, hfailure, hentries⟩ :=
    (runScript_leaves portSurroundings portTransport
    portOptions).2.2 MemoryCache shipSource shipSession
  have hfound : (shipSession.runAll shipSource foundStatements).error =
      none := by decide +kernel
  have hprepare :
      Plan.prepare (shipSession.runAll shipSource
        foundStatements).session.catalog
      (shipSession.runAll shipSource foundStatements).session.today
        (selectOf "Port" "SHIPS" .semicolon) =
      .error (.catalog (.unknownColumn "SHIPS" "Port")) := by
    decide +kernel
  have hfails :=
    congrArg Reply.result (Session.run_select_of_error hprepare shipSource)
  obtain ⟨herror, -, hcatalog⟩ :=
    hfailure foundStatements lostSelect [lateView] _ hfound hfails
  obtain ⟨later, hlater, hget⟩ :=
    hentries (foundStatements ++ lostSelect :: [lateView]) {} rfl
  refine ⟨by rw [herror]; rfl, hcatalog, later, hlater,
    fun key => (hget key).trans ?_⟩
  have hanswers : Session.answers shipSource "1" (shipSession.runAll shipSource
      (foundStatements ++ lostSelect :: [lateView])).asked =
        [⟨cacheKey "1" "SELECT Name FROM SHIPS", [["Orca"]]⟩] := by
    decide +kernel
  rw [show shipSession.account = "1" from rfl, hanswers]
  by_cases hkey : key = cacheKey "1" "SELECT Name FROM SHIPS"
  · simp [Session.kept?, hkey, ReportCache.get?, MemoryCache.get?]
  · simp [Session.kept?, hkey, Ne.symm hkey, ReportCache.get?, MemoryCache.get?]

end Command

end ReportQuery
