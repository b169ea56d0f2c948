import Mathlib.Data.List.Induction
import ReportQuery.Cache.WriteQueue
import ReportQuery.Proofs.Cache.FileNames
import ReportQuery.Proofs.Cache.StoredReport

/-!
# Background writes in order

Requests to store records come in while a worker writes what came before, in
any interleaving. A request is accepted as long as fewer wait than the queue
holds; the worker takes the accepted ones in their order, at times of its own.
What was accepted is what was taken and, behind it, what still waits. So
nothing accepted is lost, and once nothing waits the store is what writing the
accepted requests in their order makes of it.

Keys with the same hash share a file. Such a file holds what was accepted last
for any of its keys, which need not be what was accepted last for each of them.
-/

namespace ReportQuery

/-- The request that comes in at a step. -/
def CacheStep.request? : CacheStep → Option WriteRequest
  | .set request => some request
  | .work _ => none

namespace BackgroundCache

/-- The request that a step puts into the queue: one that comes in while there
is room. -/
def accepted? (cache : BackgroundCache) : CacheStep → Option WriteRequest
  | .set request =>
    if cache.queue.waiting.length < cache.queue.capacity then some request
    else none
  | .work _ => none

/-- The request that a step takes from the queue, with the time of the step. -/
def taken? (cache : BackgroundCache) : CacheStep → Option (Int × WriteRequest)
  | .set _ => none
  | .work now => cache.queue.waiting.head?.map fun request => (now, request)

/-- The requests that steps put into the queue, in order. -/
def accepted (cache : BackgroundCache) : List CacheStep → List WriteRequest
  | [] => []
  | step :: rest => (cache.accepted? step).toList ++
      (cache.step step).accepted rest

/-- The requests that steps take from the queue, in order, with their times. -/
def taken (cache : BackgroundCache) : List CacheStep → List (Int × WriteRequest)
  | [] => []
  | step :: rest => (cache.taken? step).toList ++ (cache.step step).taken rest

/-- The store after requests were written at their times. -/
def written (store : ReportStore) (events : List (Int × WriteRequest)) :
    ReportStore :=
  events.foldl (fun store event => store.perform event.1 event.2) store

/-! ## One step -/

variable {cache : BackgroundCache} {steps : List CacheStep}

theorem capacity_step (cache : BackgroundCache) (step : CacheStep) :
    (cache.step step).queue.capacity = cache.queue.capacity := by
  cases step with
  | set request => exact WriteQueue.capacity_offer cache.queue request
  | work now =>
      rw [BackgroundCache.step, work]
      split <;> rfl

theorem length_waiting_step_le
    (h : cache.queue.waiting.length ≤ cache.queue.capacity) (step : CacheStep) :
    (cache.step step).queue.waiting.length ≤
      cache.queue.capacity := by
  cases step with
  | set request => exact WriteQueue.length_waiting_offer_le request h
  | work now =>
      rw [BackgroundCache.step, work]
      split
      · exact h
      · next request rest hwaiting =>
          rw [hwaiting, List.length_cons] at h
          exact Nat.le_of_succ_le h

theorem store_step (cache : BackgroundCache) (step : CacheStep) :
    (cache.step step).store =
      written cache.store (cache.taken? step).toList := by
  cases step with
  | set request => rfl
  | work now =>
      rw [BackgroundCache.step, work, taken?]
      cases cache.queue.waiting <;> rfl

/-- What waits before a step and what it accepts is what it takes and what
waits after it. -/
theorem waiting_append_accepted? (cache : BackgroundCache) (step : CacheStep) :
    cache.queue.waiting ++ (cache.accepted? step).toList =
      (cache.taken? step).toList.map Prod.snd ++
        (cache.step step).queue.waiting := by
  cases step with
  | set request =>
      rw [accepted?, taken?, BackgroundCache.step, set, WriteQueue.offer]
      split <;> simp
  | work now =>
      rw [accepted?, taken?, BackgroundCache.step, work]
      cases hwaiting : cache.queue.waiting <;> simp [hwaiting]

/-! ## All steps -/

theorem run_append (cache : BackgroundCache) (steps more : List CacheStep) :
    cache.run (steps ++ more) = (cache.run steps).run more :=
  List.foldl_append

theorem accepted_append (cache : BackgroundCache)
    (steps more : List CacheStep) :
    cache.accepted (steps ++ more) =
      cache.accepted steps ++ (cache.run steps).accepted more := by
  induction steps generalizing cache with
  | nil => rfl
  | cons step rest ih =>
      rw [List.cons_append, accepted, ih, accepted, List.append_assoc]
      rfl

theorem capacity_run (cache : BackgroundCache) (steps : List CacheStep) :
    (cache.run steps).queue.capacity = cache.queue.capacity := by
  induction steps generalizing cache with
  | nil => rfl
  | cons step rest ih =>
      exact (ih (cache.step step)).trans (capacity_step cache step)

theorem length_waiting_run_le
    (h : cache.queue.waiting.length ≤ cache.queue.capacity)
    (steps : List CacheStep) :
    (cache.run steps).queue.waiting.length ≤ cache.queue.capacity := by
  induction steps generalizing cache with
  | nil => exact h
  | cons step rest ih =>
      have hstep := length_waiting_step_le h step
      rw [← capacity_step cache step] at hstep ⊢
      exact ih hstep

theorem store_run (cache : BackgroundCache) (steps : List CacheStep) :
    (cache.run steps).store = written cache.store (cache.taken steps) := by
  induction steps generalizing cache with
  | nil => rfl
  | cons step rest ih =>
      have hrest := ih (cache.step step)
      rw [store_step] at hrest
      rw [taken, written, List.foldl_append]
      exact hrest

theorem waiting_append_accepted (cache : BackgroundCache)
    (steps : List CacheStep) :
    cache.queue.waiting ++ cache.accepted steps =
      (cache.taken steps).map Prod.snd ++ (cache.run steps).queue.waiting := by
  induction steps generalizing cache with
  | nil => simp [accepted, taken, run]
  | cons step rest ih =>
      rw [accepted, taken, List.map_append, ← List.append_assoc,
        waiting_append_accepted?, List.append_assoc, ih (cache.step step),
        List.append_assoc]
      rfl

/-! ## The worker alone -/

theorem accepted_work (cache : BackgroundCache) (times : List Int) :
    cache.accepted (times.map .work) = [] := by
  induction times generalizing cache with
  | nil => rfl
  | cons now times ih => exact ih (cache.work now)

theorem waiting_work (cache : BackgroundCache) (now : Int) :
    (cache.work now).queue.waiting = cache.queue.waiting.tail := by
  rw [work]
  cases hwaiting : cache.queue.waiting <;> simp [hwaiting]

theorem waiting_run_work (cache : BackgroundCache) (times : List Int) :
    (cache.run (times.map .work)).queue.waiting =
      cache.queue.waiting.drop times.length := by
  induction times generalizing cache with
  | nil => rfl
  | cons now times ih =>
      rw [List.length_cons, ← List.drop_tail, ← waiting_work cache now]
      exact ih (cache.work now)

/-- A worker that goes on for as many steps as requests wait leaves none of
them waiting. -/
theorem waiting_run_append_work {times : List Int}
    (htimes : (cache.run steps).queue.waiting.length ≤ times.length) :
    (cache.run (steps ++ times.map .work)).queue.waiting = [] := by
  rw [run_append, waiting_run_work, List.drop_eq_nil_of_le htimes]

/-- Once nothing waits any more, the requests taken are those that waited at
first and those that were accepted, in this order. -/
theorem taken_append_work {times : List Int}
    (htimes : (cache.run steps).queue.waiting.length ≤ times.length) :
    (cache.taken (steps ++ times.map .work)).map Prod.snd =
      cache.queue.waiting ++ cache.accepted steps := by
  have hall := waiting_append_accepted cache (steps ++ times.map .work)
  rw [accepted_append, accepted_work, List.append_nil,
    waiting_run_append_work htimes, List.append_nil] at hall
  exact hall.symm

/-- Draining is as many steps of the worker as there are requests that wait. -/
theorem drain_eq_run (cache : BackgroundCache) (now : Int) :
    cache.drain now =
      cache.run
        ((List.replicate cache.queue.waiting.length now).map .work) := by
  obtain ⟨store, capacity, waiting⟩ := cache
  induction waiting generalizing store with
  | nil => rfl
  | cons request rest ih => exact ih (store.perform now request)

/-! ## Acceptance -/

/-- A request comes to wait behind those that were accepted before it, unless
the queue is full, and then it changes nothing. -/
theorem accepted_or_full (h : cache.queue.waiting.length ≤ cache.queue.capacity)
    (before : List CacheStep) (request : WriteRequest) :
    cache.accepted (before ++ [.set request]) = cache.accepted
      before ++ [request] ∨
      (cache.run before).queue.waiting.length = cache.queue.capacity ∧
        cache.accepted (before ++ [.set request]) = cache.accepted before ∧
        cache.run (before ++ [.set request]) = cache.run before := by
  have hle := length_waiting_run_le h before
  have hcapacity := capacity_run cache before
  rw [accepted_append, run_append]
  by_cases hroom : (cache.run before).queue.waiting.length <
    (cache.run before).queue.capacity
  · left
    simp [accepted, accepted?, hroom]
  · right
    refine ⟨by omega, by simp [accepted, accepted?, hroom], ?_⟩
    change (cache.run before).set request.key request.records = cache.run before
    rw [set, WriteQueue.offer, if_neg hroom]

/-- While the worker rests, requests are accepted up to the room in the
queue. -/
theorem accepted_sets (cache : BackgroundCache) (requests : List WriteRequest) :
    cache.accepted (requests.map .set) =
      requests.take (cache.queue.capacity - cache.queue.waiting.length) := by
  induction requests generalizing cache with
  | nil => simp [accepted]
  | cons request rest ih =>
      have hrest := ih (cache.step (.set request))
      rw [capacity_step] at hrest
      rw [List.map_cons, accepted, hrest]
      by_cases hroom : cache.queue.waiting.length < cache.queue.capacity
      · obtain ⟨room, hsplit⟩ : ∃ room,
            cache.queue.capacity - cache.queue.waiting.length = room + 1 :=
          ⟨cache.queue.capacity - cache.queue.waiting.length - 1, by omega⟩
        have hleft : cache.queue.capacity - (cache.queue.waiting.length + 1) =
            room := by omega
        rw [hsplit, List.take_succ_cons]
        simp [accepted?, BackgroundCache.step, set, WriteQueue.offer,
          hroom, hleft]
      · have hfull : cache.queue.capacity - cache.queue.waiting.length = 0 := by
          omega
        simp [accepted?, BackgroundCache.step, set, WriteQueue.offer,
          hroom, hfull]

theorem accepted_sublist (cache : BackgroundCache) (steps : List CacheStep) :
    (cache.accepted steps).Sublist (steps.filterMap CacheStep.request?) := by
  induction steps generalizing cache with
  | nil => exact .slnil
  | cons step rest ih =>
      have hrest := ih (cache.step step)
      cases step with
      | work now => exact hrest
      | set request =>
          rw [accepted, accepted?]
          split
          · exact hrest.cons_cons request
          · exact hrest.cons request

/-- No request is dropped while the queue has room for all that come in. -/
theorem accepted_of_room
    (hroom : cache.queue.waiting.length +
      (steps.filterMap CacheStep.request?).length ≤ cache.queue.capacity) :
    cache.accepted steps = steps.filterMap CacheStep.request? := by
  induction steps generalizing cache with
  | nil => rfl
  | cons step rest ih =>
      have hrest := @ih (cache.step step)
      rw [capacity_step] at hrest
      cases step with
      | work now =>
          refine hrest ?_
          change (cache.work now).queue.waiting.length + _ ≤ _
          rw [waiting_work, List.length_tail]
          exact Nat.le_trans
            (Nat.add_le_add_right (Nat.sub_le _ _) _) hroom
      | set request =>
          change _ + ((rest.filterMap CacheStep.request?).length + 1) ≤ _
            at hroom
          have hfree : cache.queue.waiting.length < cache.queue.capacity := by
            omega
          have hoffered : (cache.step (.set request)).queue.waiting =
              cache.queue.waiting ++ [request] := by
            simp [BackgroundCache.step, set, WriteQueue.offer, hfree]
          rw [accepted, accepted?, if_pos hfree, hrest (by
            rw [hoffered, List.length_append, List.length_singleton]
            omega)]
          rfl

/-! ## Files -/

/-- Whether a request writes to the file of a key: its own key is not empty and
has the same hash. -/
def WritesTo (key : String) (request : WriteRequest) : Prop :=
  request.key ≠ "" ∧ Hash.ofText request.key = Hash.ofText key

instance (key : String) (request : WriteRequest) :
    Decidable (WritesTo key request) :=
  inferInstanceAs (Decidable (_ ∧ _))

/-- The last of some requests that write to the file of a key, with its time. -/
def lastTo? (key : String) (events : List (Int × WriteRequest)) :
    Option (Int × WriteRequest) :=
  (events.filter fun event => WritesTo key event.2).getLast?

/-- The file that a request leaves. -/
def fileOf (event : Int × WriteRequest) : StoredFile :=
  ReportStore.reportFile event.1 event.2.key event.2.records

theorem perform_of_empty (store : ReportStore) (now : Int) (records : Records) :
    store.perform now ⟨"", records⟩ = store := rfl

theorem file?_perform (store : ReportStore) (now : Int) (request : WriteRequest)
    (key : String) :
    (store.perform now request).file? (ReportStore.fileName key) =
      if WritesTo key request then some (fileOf (now, request))
      else store.file? (ReportStore.fileName key) := by
  by_cases hempty : request.key = ""
  · obtain ⟨own, records⟩ := request
    obtain rfl : own = "" := hempty
    simp [perform_of_empty, WritesTo]
  · have hwrite : store.perform now request =
        store.write (fileOf (now, request)) := by
      rw [ReportStore.perform, ReportStore.set_of_ne hempty]
      rfl
    rw [hwrite]
    by_cases hname : ReportStore.fileName request.key = ReportStore.fileName key
    · rw [if_pos ⟨hempty, ReportStore.fileName_eq_iff.mp hname⟩, ← hname]
      exact ReportStore.file?_write_same store (fileOf (now, request))
    · have hwrites : ¬ WritesTo key request :=
        fun h => hname (ReportStore.fileName_eq_iff.mpr h.2)
      rw [if_neg hwrites]
      exact ReportStore.file?_write_other store fun hsame => hname hsame.symm

/-- The file of a key is what the last request that writes to it left. -/
theorem file?_written (maxAge : Nat) (events : List (Int × WriteRequest))
    (key : String) :
    (written ⟨maxAge, []⟩ events).file? (ReportStore.fileName key) =
      (lastTo? key events).map fileOf := by
  induction events using List.reverseRecOn with
  | nil => rfl
  | append_singleton earlier event ih =>
      rw [written, List.foldl_append]
      refine (file?_perform _ event.1 event.2 key).trans ?_
      rw [lastTo?, List.filter_append]
      by_cases hwrites : WritesTo key event.2
      · simp [hwrites]
      · have hnone : [event].filter (fun event => WritesTo key event.2) =
            [] := by
          simpa using hwrites
        rw [if_neg hwrites, hnone, List.append_nil]
        exact ih

theorem maxAge_written (store : ReportStore)
    (events : List (Int × WriteRequest)) :
    (written store events).maxAge = store.maxAge := by
  induction events generalizing store with
  | nil => rfl
  | cons event rest ih =>
      refine (ih (store.perform event.1 event.2)).trans ?_
      rw [ReportStore.perform, ReportStore.set]
      cases ReportStore.path event.2.key <;> rfl

/-- A key is read back as what the last request for its hash wrote, while that
is not too old. -/
theorem get_written {maxAge : Nat} {events : List (Int × WriteRequest)}
    {key : String} (hkey : key ≠ "") {event : Int × WriteRequest}
    (hlast : lastTo? key events = some event) {now : Int}
    (hage : now - event.1 ≤ maxAge) {records : Records}
    (hrecords : Csv.decode? (Csv.encode event.2.records) = some records) :
    (written ⟨maxAge, []⟩ events).get now key = .ok records := by
  have hfile := file?_written maxAge events key
  rw [hlast, Option.map_some] at hfile
  refine ReportStore.get_of_file hkey hfile ?_ hrecords
  rw [maxAge_written]
  exact hage

/-! ## A fresh cache -/

/-- After any steps of a fresh cache, the store is what the requests taken so
far make of it, and what was accepted is what was taken and what still waits. A
request that is not accepted finds the queue full, and when the worker rests as
many are accepted as the queue holds. Once the worker has gone on for long
enough, all that was accepted is written, and the file of a key is what the
last request for a key of its hash left. -/
theorem run_ofStore (maxAge size : Nat) (steps : List CacheStep) :
    let cache := ofStore ⟨maxAge, []⟩ size
    (cache.run steps).store = written ⟨maxAge, []⟩ (cache.taken steps) ∧
    cache.accepted steps =
      (cache.taken steps).map Prod.snd ++ (cache.run steps).queue.waiting ∧
    (∀ now records store, ReportStore.perform store now ⟨"", records⟩ = store) ∧
    (∀ request,
      cache.accepted (steps ++ [.set request]) =
          cache.accepted steps ++ [request] ∨
        (cache.run steps).queue.waiting.length = max size 1 ∧
        cache.accepted (steps ++ [.set request]) = cache.accepted steps ∧
        cache.run (steps ++ [.set request]) = cache.run steps) ∧
    (∀ requests : List WriteRequest,
      cache.accepted (requests.map .set) = requests.take (max size 1)) ∧
    (∀ now, (cache.run steps).drain now =
      cache.run (steps ++ (List.replicate
        (cache.run steps).queue.waiting.length now).map .work)) ∧
    ∀ times : List Int, (cache.run steps).queue.waiting.length ≤ times.length →
      let drained := cache.run (steps ++ times.map .work)
      let events := cache.taken (steps ++ times.map .work)
      drained.queue.waiting = [] ∧ events.map Prod.snd = cache.accepted steps ∧
        drained.store = written ⟨maxAge, []⟩ events ∧
        ∀ key, drained.store.file? (ReportStore.fileName key) =
            (lastTo? key events).map fileOf ∧
          (key ≠ "" → ∀ event ∈ lastTo? key events, ∀ now,
            now - event.1 ≤ maxAge →
            ∀ records, Csv.decode? (Csv.encode event.2.records) = some records →
              drained.get now key = .ok records) := by
  intro cache
  have hroom : cache.queue.waiting.length ≤ cache.queue.capacity :=
    Nat.zero_le _
  refine ⟨store_run cache steps, waiting_append_accepted cache steps,
    fun _ _ _ => rfl, accepted_or_full hroom steps, accepted_sets cache, ?_, ?_⟩
  · intro now
    rw [drain_eq_run, run_append]
  · intro times htimes drained events
    have hstore : drained.store = written ⟨maxAge, []⟩ events :=
      store_run cache _
    refine ⟨waiting_run_append_work htimes, taken_append_work htimes, hstore,
      fun key => ⟨?_, ?_⟩⟩
    · rw [hstore]
      exact file?_written maxAge events key
    · intro hkey event hevent now hage records hrecords
      have hread := get_written hkey (Option.mem_def.mp hevent) hage hrecords
      rw [← hstore] at hread
      exact hread

/-- Each key has the records that were accepted last for it, once nothing
waits. -/
def KeepsLast (maxAge size : Nat) (steps : List CacheStep) (now : Int) : Prop :=
  let cache := ofStore ⟨maxAge, []⟩ size
  ∀ key ≠ "", ∀ request,
    ((cache.accepted steps).filter fun request => request.key = key).getLast? =
    some request →
      (((cache.run steps).drain now).store.file? (ReportStore.fileName key)).map
        StoredFile.content = some (Csv.encode request.records)

/-- Requests for two keys of one hash. -/
def twinSteps : List CacheStep :=
  [.set ⟨"8yn0iYCKYHlIj4-BwPqk", [["1"]]⟩,
    .set ⟨"GReLUrM4wMqfg9yzV3KQ", [["2"]]⟩]

/-- The first of the two keys has the records of the second. -/
theorem not_keepsLast_twinSteps : ¬ KeepsLast 3600 2 twinSteps 0 := by
  intro h
  have hfirst := h "8yn0iYCKYHlIj4-BwPqk" (by decide)
    ⟨"8yn0iYCKYHlIj4-BwPqk", [["1"]]⟩ (by decide +kernel)
  revert hfirst
  decide +kernel

/-- Of three requests for a queue of one, the second finds it full, and the
third, without a key, is taken and passed over. -/
def crowdedSteps : List CacheStep :=
  [.set ⟨"a", [["1"]]⟩, .set ⟨"b", [["2"]]⟩, .work 5, .set ⟨"", [["3"]]⟩]

theorem run_ofStore_crowdedSteps :
    let cache := ofStore ⟨10, []⟩ 0
    (cache.run crowdedSteps).queue.waiting.length ≤ [6, 7].length ∧
    cache.accepted crowdedSteps = [⟨"a", [["1"]]⟩, ⟨"", [["3"]]⟩] ∧
    (cache.run (crowdedSteps ++ [6, 7].map .work)).queue.waiting = [] ∧
    (cache.run (crowdedSteps ++ [6, 7].map .work)).get 15 "a" = .ok [["1"]] ∧
    (cache.run (crowdedSteps ++ [6, 7].map .work)).store.file?
      (ReportStore.fileName "b") = none := by
  intro cache
  have htimes : (cache.run crowdedSteps).queue.waiting.length ≤
      [6, 7].length := by decide
  obtain ⟨-, -, -, -, -, -, hdrained⟩ := run_ofStore 10 0 crowdedSteps
  obtain ⟨hempty, hall, -, hfiles⟩ := hdrained [6, 7] htimes
  have hread : Csv.decode? (Csv.encode [["1"]]) = some [["1"]] := by
    decide +kernel
  refine ⟨htimes, by decide, hempty, ?_, ?_⟩
  · exact (hfiles "a").2 (by decide) (5, ⟨"a", [["1"]]⟩) (by decide +kernel) 15
      (by decide) _ hread
  · rw [(hfiles "b").1]
    decide +kernel

end BackgroundCache

end ReportQuery
