import ReportQuery.Cache.Store

/-!
# Background writes

Records to store wait in a queue of bounded length and are written in the order
of their arrival. A request that finds the queue full is dropped, and one with
an empty key is taken and passed over.
-/

namespace ReportQuery

/-- Records waiting to be stored. -/
structure WriteRequest where
  key : String
  records : Records
deriving DecidableEq, Repr

/-- Requests in the order of their arrival. -/
structure WriteQueue where
  capacity : Nat
  waiting : List WriteRequest := []
deriving DecidableEq, Repr

namespace WriteQueue

/-- An empty queue for at least one request. -/
def ofSize (size : Nat) : WriteQueue :=
  { capacity := max size 1 }

/-- The queue after a request arrives. -/
def offer (queue : WriteQueue) (request : WriteRequest) : WriteQueue :=
  if queue.waiting.length < queue.capacity then
    { queue with waiting := queue.waiting ++ [request] }
  else queue

theorem capacity_offer (queue : WriteQueue) (request : WriteRequest) :
    (queue.offer request).capacity = queue.capacity := by
  unfold offer
  split <;> rfl

theorem length_waiting_offer_le {queue : WriteQueue} (request : WriteRequest)
    (h : queue.waiting.length ≤ queue.capacity) :
    (queue.offer request).waiting.length ≤ queue.capacity := by
  unfold offer
  split
  · rename_i hfree
    simp only [List.length_append, List.length_singleton]
    omega
  · exact h

end WriteQueue

/-- Write one request; a refused one changes nothing. -/
def ReportStore.perform (store : ReportStore) (now : Int)
    (request : WriteRequest) : ReportStore :=
  match store.set now request.key request.records with
  | .ok store => store
  | .error _ => store

/-- A step of a cache: a request comes in, or the worker writes at some time. -/
inductive CacheStep where
  | set (request : WriteRequest)
  | work (now : Int)
deriving DecidableEq, Repr

/-- A store whose writes go through a queue. -/
structure BackgroundCache where
  store : ReportStore
  queue : WriteQueue
deriving DecidableEq, Repr

namespace BackgroundCache

/-- A cache on a store with a queue of some length. -/
def ofStore (store : ReportStore) (queueSize : Nat) : BackgroundCache :=
  { store, queue := WriteQueue.ofSize queueSize }

/-- The records stored under a key; waiting requests do not count. -/
def get (cache : BackgroundCache) (now : Int) (key : String) :
    Except CacheError Records :=
  cache.store.get now key

/-- Ask for records to be stored. -/
def set (cache : BackgroundCache) (key : String) (records : Records) :
    BackgroundCache :=
  { cache with queue := cache.queue.offer { key, records } }

/-- The worker takes the oldest request and writes it. -/
def work (cache : BackgroundCache) (now : Int) : BackgroundCache :=
  match cache.queue.waiting with
  | [] => cache
  | request :: rest =>
    { store := cache.store.perform now request
      queue := { cache.queue with waiting := rest } }

/-- The cache after a step. -/
def step (cache : BackgroundCache) : CacheStep → BackgroundCache
  | .set request => cache.set request.key request.records
  | .work now => cache.work now

/-- The cache after steps. -/
def run (cache : BackgroundCache) (steps : List CacheStep) : BackgroundCache :=
  steps.foldl step cache

/-- The worker writes all requests. -/
def drain (cache : BackgroundCache) (now : Int) : BackgroundCache :=
  { store := cache.queue.waiting.foldl
      (fun store request => store.perform now request) cache.store
    queue := { cache.queue with waiting := [] } }

end BackgroundCache

end ReportQuery
