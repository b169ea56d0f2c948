import ReportQuery.Catalog.Listing
import ReportQuery.Catalog.ViewStorage
import ReportQuery.Csv
import ReportQuery.Report.Aggregate
import ReportQuery.Statement.Grammar
import ReportQuery.Text.Lowercase

/-!
# Sessions

A session runs the statements of one account against one catalog. A SELECT is
unfolded and bound, its report is taken from the cache or downloaded, and its
rows are aggregated, sorted and cut to a page. What a statement asks of the
report source is part of its reply.
-/

namespace ReportQuery

/-- Where reports come from: the records of a query, or an error. -/
abbrev ReportSource := String → Except FetchError Records

/-- A cache of reports. -/
class ReportCache (κ : Type) where
  /-- The records stored under a key. -/
  get? : κ → String → Option Records
  /-- The cache after it was asked to store records. -/
  set : κ → String → Records → κ

/-- The state of a session. -/
structure Session (κ : Type) where
  catalog : Catalog
  account : String
  today : Day
  /-- The cache, when there is one. -/
  cache : Option κ

/-- What a statement produced. -/
inductive Outcome where
  | rows (set : ResultSet)
  | viewStored (name : String)

/-- What came of a request, the state after it, and the queries that the source
was asked. -/
structure Reply (κ α : Type) where
  result : Except QueryError α
  session : Session κ
  asked : List String

/-- The cache key of a query for an account. -/
def cacheKey (account query : String) : String :=
  Numeral.ofNat (Hash.ofText (Text.lowercase query)).toNat ++ "-" ++ account

namespace BoundSelect

/-- The rows of a statement from the records of its report. -/
def answer (bound : BoundSelect) (records : Records) :
    Except QueryError ResultSet :=
  (bound.aggregate records).map fun rows =>
    let set := ResultSet.withWidths bound.labels rows
      (columnWidths bound.columns.length rows)
    let sorted := { set with vertical := bound.vertical }.sort bound.orderBy
    match bound.limit with
    | some limit => sorted.paginate limit
    | none => sorted

end BoundSelect

namespace Session

variable {κ : Type} [ReportCache κ]

/-- The records that the cache has for a query. -/
def cached? (session : Session κ) (query : String) : Option Records :=
  session.cache.bind fun cache =>
    ReportCache.get? cache (cacheKey session.account query)

/-- The session after the records of a query were downloaded. -/
def remember (session : Session κ) (query : String) (records : Records) :
    Session κ :=
  { session with
    cache := session.cache.map fun cache =>
      ReportCache.set cache (cacheKey session.account query) records }

/-- The records of a query: from the cache, or from the source. -/
def fetch (source : ReportSource) (session : Session κ) (query : String) :
    Reply κ Records :=
  match session.cached? query with
  | some records => ⟨.ok records, session, []⟩
  | none =>
    match source query with
    | .ok records => ⟨.ok records, session.remember query records, [query]⟩
    | .error error => ⟨.error (.fetch error), session, [query]⟩

/-- Run a SELECT. -/
def select (source : ReportSource) (session : Session κ) (statement : Select) :
    Reply κ ResultSet :=
  match Plan.prepare session.catalog session.today statement with
  | .error error => ⟨.error error, session, []⟩
  | .ok bound =>
    let reply := session.fetch source bound.query
    { reply with result := reply.result.bind bound.answer }

/-- Run a CREATE VIEW. -/
def createView (session : Session κ) (statement : CreateView) :
    Reply κ Outcome :=
  match session.catalog.addView statement with
  | .ok catalog =>
    ⟨.ok (.viewStored statement.name), { session with catalog }, []⟩
  | .error error => ⟨.error (.catalog error), session, []⟩

/-- Run a statement. -/
def run (source : ReportSource) (session : Session κ) :
    Statement → Reply κ Outcome
  | .select statement =>
    let reply := session.select source statement
    { reply with result := reply.result.map Outcome.rows }
  | .describe statement =>
    ⟨((session.catalog.describe statement).map Outcome.rows).mapError .catalog,
      session, []⟩
  | .showTables statement =>
    ⟨((session.catalog.showTables statement).map Outcome.rows).mapError
      .catalog, session, []⟩
  | .createView statement => session.createView statement

/-- Run the only statement of a text. -/
def execute (source : ReportSource) (session : Session κ) (text : String) :
    Reply κ Outcome :=
  match parseScript text with
  | .error error => ⟨.error (.parse error), session, []⟩
  | .ok [statement] => session.run source statement
  | .ok statements =>
    ⟨.error (.multipleStatements statements.length), session, []⟩

/-- What running statements one after the other produced, up to the first
error. -/
structure ScriptReply (κ : Type) where
  outcomes : List Outcome
  error : Option QueryError
  session : Session κ
  asked : List String

/-- The session after something happened to its cache. -/
def mapCache (session : Session κ) (change : κ → κ) : Session κ :=
  { session with cache := session.cache.map change }

/-- Run statements one after the other, up to the first error. Others use the
cache as well, and change it before each statement. -/
def runInTurn (source : ReportSource) (change : Nat → κ → κ)
    (session : Session κ) :
    List Statement → ScriptReply κ
  | [] => ⟨[], none, session, []⟩
  | statement :: rest =>
    let reply := (session.mapCache (change 0)).run source statement
    match reply.result with
    | .error error => ⟨[], some error, reply.session, reply.asked⟩
    | .ok outcome =>
      let later := reply.session.runInTurn source (fun n => change (n + 1)) rest
      { later with
        outcomes := outcome :: later.outcomes
        asked := reply.asked ++ later.asked }

/-- Run statements one after the other, up to the first error, with a cache
that nobody else uses. -/
def runAll (source : ReportSource) (session : Session κ)
    (statements : List Statement) : ScriptReply κ :=
  session.runInTurn source (fun _ cache => cache) statements

end Session

end ReportQuery
