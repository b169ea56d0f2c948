import ReportQuery.Cache.WriteQueue
import ReportQuery.Session

/-!
# The cache of a run

The statements of a run and the worker of its cache go on side by side. A
statement reads the store at most once, and hands over at most one report,
which it has downloaded after that. So all that a run can see of the worker is
which requests it takes before a statement reads the store, until the statement
is done, and after the last statement, and whether it still writes the last of
them when the store is read. A run that goes through waits for the worker; one
that fails may end with requests that still wait.
-/

namespace ReportQuery

/-- When a statement reads the store, and when the worker takes requests. -/
structure TurnTimes where
  /-- The times at which requests are written that are taken before the store is
  read. -/
  before : List Int := []
  /-- Whether the last request that was taken is not yet written when the store
  is read. -/
  writing : Bool := false
  /-- The time at which the store is read. -/
  now : Int
  /-- The times at which requests are written that are taken between that and
  the end of the statement's download. -/
  during : List Int := []
deriving DecidableEq, Repr

/-- When the statements and the worker of a run take their steps. -/
structure Schedule where
  /-- The turn of each statement, counted from zero. -/
  turn : Nat → TurnTimes
  /-- The times at which requests are written that are taken after the last
  statement. -/
  last : List Int := []
  /-- Whether a run that fails gives up the requests that still wait. -/
  abandons : Bool := false

/-- A worker that writes a report while the next one is downloaded, all of it
at one time. -/
def Schedule.steady (now : Int) : Schedule :=
  { turn := fun _ => { now, during := [now] } }

/-- A cache at the turn of a statement: the store that the statement reads, the
cache that it hands its report to, and the store of that cache without the last
request that was taken. -/
structure TurnCache where
  found : ReportStore
  now : Int
  settled : ReportStore
  background : BackgroundCache
deriving DecidableEq, Repr

namespace TurnCache

/-- The cache of a run before the first statement. -/
def ofStore (store : ReportStore) (queueSize : Nat) (now : Int) : TurnCache :=
  { found := store, now, settled := store
    background := .ofStore store queueSize }

/-- The worker takes the oldest request, to be written at some time. -/
def work (cache : TurnCache) (time : Int) : TurnCache :=
  if cache.background.queue.waiting = [] then cache
  else
    { cache with
      settled := cache.background.store
      background := cache.background.work time }

/-- The cache when it is the turn of a further statement. -/
def next (cache : TurnCache) (turn : TurnTimes) : TurnCache :=
  let read := turn.before.foldl work cache
  turn.during.foldl work
    { read with
      found := if turn.writing then read.settled else read.background.store
      now := turn.now }

/-- The records that a statement finds under a key. -/
def get? (cache : TurnCache) (key : String) : Option Records :=
  (cache.found.get cache.now key).toOption

/-- The cache after a statement handed over records. -/
def set (cache : TurnCache) (key : String) (records : Records) : TurnCache :=
  { cache with background := cache.background.set key records }

instance : ReportCache TurnCache where
  get? := get?
  set := set

/-- The cache when a run ends. -/
def close (cache : TurnCache) (schedule : Schedule) (failed : Bool)
    (now : Int) : BackgroundCache :=
  let worked := cache.background.run (schedule.last.map .work)
  if failed && schedule.abandons then worked else worked.drain now

end TurnCache

end ReportQuery
