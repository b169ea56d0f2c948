import Mathlib.Algebra.Ring.Nat
import ReportQuery.Cache.Schedule
import ReportQuery.Proofs.Plan.Bind
import ReportQuery.Proofs.Plan.Chain
import ReportQuery.Proofs.Session.Scripts

/-!
# Pages of a result

A LIMIT clause of a statement on a report changes neither what is asked of the
source nor how the records are grouped and sorted; it only cuts a window out of
the rows, with the widths that all rows need. Consecutive windows therefore cut
the rows into pieces that fit together, and the pages that are run one after
the other show each row once, as far as the windows reach.

The cut itself is done with words of 64 bits. The end of a window may be beyond
the greatest word, where the sum stops, and so no row is lost and none is taken
that is not there.
-/

namespace ReportQuery

namespace Limit

/-- Windows of given sizes, each beginning where the one before it ends. -/
def consecutive : Nat → List Nat → List Limit
  | _, [] => []
  | offset, count :: counts =>
    ⟨offset, count⟩ :: consecutive (offset + count) counts

theorem length_consecutive (offset : Nat) (counts : List Nat) :
    (consecutive offset counts).length = counts.length := by
  induction counts generalizing offset with
  | nil => rfl
  | cons count counts ih =>
      rw [consecutive, List.length_cons, ih, List.length_cons]

/-- What consecutive windows cut out fits together. -/
theorem flatMap_consecutive {α : Type} (rows : List α) (offset : Nat)
    (counts : List Nat) :
    ((consecutive offset counts).flatMap fun window =>
        (rows.drop window.offset).take window.count) =
          (rows.drop offset).take counts.sum := by
  induction counts generalizing offset with
  | nil => simp [consecutive]
  | cons count counts ih =>
      rw [consecutive, List.flatMap_cons, ih, List.sum_cons, List.take_add,
        List.drop_drop]

/-! ## Windows in words -/

/-- The sum of two words, or the greatest word when the sum is none. -/
def saturatingAdd (a b : UInt64) : UInt64 :=
  let sum := a + b
  if sum < a then .ofNat (Numeral.wordBound - 1) else sum

/-- A window cut out of rows with words only: what stands behind it is left
out, and then what stands before it, which fails when there are not that many
rows. -/
def cut? {α : Type} (offset count : UInt64) (rows : List α) : Option (List α) :=
  let total := UInt64.ofNat rows.length
  let first := min offset total
  let kept := rows.take (min (saturatingAdd first count) total).toNat
  if first.toNat ≤ kept.length then some (kept.drop first.toNat) else none

theorem toNat_ofNat {n : Nat} (h : n < Numeral.wordBound) :
    (UInt64.ofNat n).toNat = n :=
  UInt64.toNat_ofNat_of_lt' h

theorem toNat_min (a b : UInt64) : (min a b).toNat = min a.toNat b.toNat := by
  change (if a ≤ b then a else b).toNat = _
  split
  · next h =>
      have hle := UInt64.le_iff_toNat_le.mp h
      omega
  · next h =>
      have hlt := mt UInt64.le_iff_toNat_le.mpr h
      omega

theorem toNat_saturatingAdd (a b : UInt64) :
    (saturatingAdd a b).toNat =
      min (a.toNat + b.toNat) (Numeral.wordBound - 1) := by
  have ha := a.toNat_lt
  have hb := b.toNat_lt
  have hbound : Numeral.wordBound = 2 ^ 64 := rfl
  simp only [saturatingAdd, UInt64.lt_iff_toNat_lt, UInt64.toNat_add]
  split
  · rw [toNat_ofNat (by omega)]
    omega
  · rw [UInt64.toNat_add]
    omega

/-- Rows that a word can count are cut as they are without bounds on numbers. -/
theorem cut?_eq_some {α : Type} {offset count : Nat} {rows : List α}
    (hoffset : offset < Numeral.wordBound) (hcount : count < Numeral.wordBound)
    (hrows : rows.length < Numeral.wordBound) :
    cut? (.ofNat offset) (.ofNat count) rows =
      some ((rows.drop offset).take count) := by
  have hstop :
      (min (saturatingAdd (min (.ofNat offset) (.ofNat rows.length))
        (.ofNat count))
      (.ofNat rows.length)).toNat =
      min (min offset rows.length + count) rows.length := by
    rw [toNat_min, toNat_saturatingAdd, toNat_min, toNat_ofNat hoffset,
      toNat_ofNat hcount, toNat_ofNat hrows]
    omega
  have hfirst : (min (UInt64.ofNat offset) (.ofNat rows.length)).toNat =
      min offset rows.length := by
    rw [toNat_min, toNat_ofNat hoffset, toNat_ofNat hrows]
  simp only [cut?, hstop, hfirst]
  rw [if_pos (by rw [List.length_take]; omega), List.drop_take]
  rcases Nat.le_total offset rows.length with hle | hge
  · rw [Nat.min_eq_left hle, Option.some.injEq, List.take_eq_take_iff,
      List.length_drop]
    omega
  · rw [Nat.min_eq_right hge, List.drop_length, List.drop_of_length_le hge,
      List.take_nil, List.take_nil]

end Limit

/-- A SELECT that shows a window of its rows. -/
def Select.page (statement : Select) (window : Limit) : Select :=
  { statement with limit := some window }

/-! ## One page -/

namespace Plan

/-- On a report a LIMIT clause is no more than a clause of the bound
statement. -/
theorem prepare_page {catalog : Catalog} {today : Day} {statement : Select}
    {table : Table} (htable : catalog.table? statement.source = some table)
    (hview : table.view = none) {bound : BoundSelect}
    (h : prepare catalog today statement = .ok bound) :
    bound.limit = statement.limit ∧ ∀ window,
      prepare catalog today (statement.page window) =
        .ok { bound with limit := some window } := by
  have hunfold (s : Select) (hsource : s.source = statement.source) :
      unfold catalog today s = .ok s :=
    unfoldWithin_succ_eq_ok_iff.mpr ⟨table, by rw [hsource, htable],
      .inl ⟨hview, rfl⟩⟩
  rw [prepare, hunfold statement rfl] at h
  obtain ⟨report, columns, hreport, hcolumns, hconditions, rfl⟩ :=
    bind_eq_ok_iff.mp h
  refine ⟨rfl, fun window => ?_⟩
  rw [prepare, hunfold (statement.page window) rfl]
  exact bind_eq_ok_iff.mpr ⟨report, columns, hreport, hcolumns,
    hconditions, rfl⟩

end Plan

namespace BoundSelect

theorem addRecord_page (bound : BoundSelect) (limit : Option Limit)
    (record : List String) (groups : List Group) :
    addRecord { bound with limit } record groups =
      bound.addRecord record groups := by
  induction groups with
  | nil => rfl
  | cons group rest ih =>
      rw [addRecord, addRecord, ih]
      rfl

theorem aggregate_page (bound : BoundSelect) (limit : Option Limit)
    (records : Records) :
    aggregate { bound with limit } records = bound.aggregate records := by
  have hfold : fold { bound with limit } records = bound.fold records := by
    rw [fold, fold, funext fun record =>
      funext (bound.addRecord_page limit record)]
    rfl
  rw [aggregate, hfold]
  rfl

/-- The window is cut out of the rows that all of the other clauses give. -/
theorem answer_page {bound : BoundSelect} (h : bound.limit = none)
    (records : Records) (window : Limit) :
    answer { bound with limit := some window } records =
      (bound.answer records).map (ResultSet.paginate window) := by
  rw [answer, answer, aggregate_page, Except.map_map, h]
  rfl

end BoundSelect

/-- A cache in which a key that had no records comes to have those that it is
set to, if any. -/
class FaithfulCache (κ : Type) [ReportCache κ] : Prop where
  eq_of_get?_set : ∀ (cache : κ) (key : String) (records found : Records),
    ReportCache.get? cache key = none →
      ReportCache.get? (ReportCache.set cache key records) key = some found →
      found = records

instance {κ : Type} [ReportCache κ] [LawfulCache κ] : FaithfulCache κ where
  eq_of_get?_set cache key records found _ hfound := by
    rw [LawfulCache.get?_set_same] at hfound
    exact (Option.some.inj hfound).symm

/-- What a statement hands over it does not find. -/
instance : FaithfulCache TurnCache where
  eq_of_get?_set cache key records found hnone hfound := by
    have hsame : ReportCache.get? (ReportCache.set cache key records) key =
        ReportCache.get? cache key := rfl
    simp [hsame, hnone] at hfound

namespace Session

variable {κ : Type} [ReportCache κ] {source : ReportSource}
  {session : Session κ}
  {statement : Select} {bound : BoundSelect} {query : String}
  {records : Records}

/-- A page takes the records of the whole statement, and cuts its window out of
what that gives. -/
theorem select_page {window : Limit}
    (hpage : Plan.prepare session.catalog session.today
      (statement.page window) = .ok { bound with limit := some window })
    (hlimit : bound.limit = none) :
    session.select source (statement.page window) =
      let reply := session.fetch source bound.query
      ⟨(reply.result.bind bound.answer).map (ResultSet.paginate window),
        reply.session, reply.asked⟩ := by
  have hanswer : BoundSelect.answer { bound with limit := some window } =
      fun records => (bound.answer records).map (ResultSet.paginate window) :=
    funext fun records => BoundSelect.answer_page hlimit records window
  have hquery : BoundSelect.query { bound with limit := some window } =
    bound.query := rfl
  simp only [select, hpage, hquery, hanswer]
  cases (session.fetch source bound.query).result <;> rfl

/-! ## All pages -/

/-- A session is given the records that its cache has for a query, or else
those of the source. -/
theorem fetch_eq_ok_iff :
    (session.fetch source query).result = .ok records ↔
      session.cached? query = some records ∨
        session.cached? query = none ∧ source query = .ok records := by
  cases hcached : session.cached? query with
  | some found => simp [fetch, hcached]
  | none => cases hsource : source query <;> simp [fetch, hcached, hsource]

theorem asked_fetch : ∀ asked ∈ (session.fetch source query).asked,
    asked = query := by
  cases hcached : session.cached? query with
  | some found => simp [fetch, hcached]
  | none => cases hsource : source query <;> simp [fetch, hcached, hsource]

/-- The records that a session was given for a query it is given again. -/
theorem fetch_again [FaithfulCache κ]
    (h : (session.fetch source query).result = .ok records) :
    ((session.fetch source query).session.fetch source query).result =
      .ok records := by
  cases hcached : session.cached? query with
  | some found =>
      have hsame : (session.fetch source query).session = session := by
        simp [fetch, hcached]
      rw [hsame, h]
  | none =>
      obtain hsource : source query = .ok records := by
        simpa [hcached] using fetch_eq_ok_iff.mp h
      have hsession : (session.fetch source query).session =
          session.remember query records := by
        simp [fetch, hcached, hsource]
      rw [hsession, fetch_eq_ok_iff]
      obtain ⟨catalog, account, today, cache⟩ := session
      cases cache with
      | none => exact .inr ⟨rfl, hsource⟩
      | some cache =>
          let key := cacheKey account query
          change ReportCache.get? (ReportCache.set cache key records) key =
            some records ∨
            ReportCache.get? (ReportCache.set cache key records) key = none ∧ _
          cases hfound : ReportCache.get? (ReportCache.set cache key records)
            key with
          | none => exact .inr ⟨rfl, hsource⟩
          | some found =>
              rw [FaithfulCache.eq_of_get?_set cache key records found
                hcached hfound]
              exact .inl rfl

theorem fetch_keeps (source : ReportSource) (session : Session κ)
    (query : String) :
    (session.fetch source query).session.catalog = session.catalog ∧
      (session.fetch source query).session.today = session.today ∧
      (session.cache = none →
        (session.fetch source query).session.cache = none) := by
  cases hcached : session.cached? query with
  | some found => simp [fetch, hcached]
  | none =>
      cases hsource : source query <;>
      simp +contextual [fetch, remember, hcached, hsource]

theorem runAll_pages [FaithfulCache κ] {set : ResultSet} (windows : List Limit)
    (hlimit : bound.limit = none) (hset : bound.answer records = .ok set)
    (hpages : ∀ window, Plan.prepare session.catalog session.today
      (statement.page window) = .ok { bound with limit := some window })
    (hrecords : (session.fetch source bound.query).result = .ok records) :
    let run := session.runAll source
      (windows.map fun window => .select (statement.page window))
    run.error = none ∧
      run.outcomes = windows.map (fun window => .rows (set.paginate window)) ∧
      (∀ query ∈ run.asked, query = bound.query) ∧
      (session.cache = none →
        run.asked = List.replicate windows.length bound.query) := by
  induction windows generalizing session with
  | nil => simp [runAll_nil]
  | cons window windows ih =>
      obtain ⟨hcatalog, htoday, hcache⟩ :=
        fetch_keeps source session bound.query
      have hrun : session.run source (.select (statement.page window)) =
          ⟨.ok (.rows (set.paginate window)),
            (session.fetch source bound.query).session,
            (session.fetch source bound.query).asked⟩ := by
        simp [run, select_page (hpages window) hlimit, hrecords, hset]
      obtain ⟨herror, houtcomes, hasked, hplain⟩ :=
        @ih (session.fetch source bound.query).session
          (fun window => by rw [hcatalog, htoday, hpages])
            (fetch_again hrecords)
      simp only [List.map_cons, runAll_cons, hrun]
      refine ⟨herror, by rw [houtcomes], ?_, fun hnone => ?_⟩
      · exact List.forall_mem_append.mpr ⟨asked_fetch, hasked⟩
      · have hmiss : session.cached? bound.query = none := by
          simp [cached?, hnone]
        have hfirst : (session.fetch source bound.query).asked =
            [bound.query] := by
          cases hsource : source bound.query <;> simp [fetch, hmiss, hsource]
        rw [hplain (hcache hnone), hfirst, List.length_cons,
          List.replicate_succ, List.singleton_append]

/-- Consecutive windows cover the rows of a SELECT on a report. Run one after
the other, its pages have the columns of the whole result, and their rows put
together are its first rows, as many as there are and as the windows have room
for. The pages ask for one report only, without a cache once each, and each of
them alone asks for what the whole statement asks for. Where the numbers of a
window and the number of rows are words, the rows of the page are what words
cut out. -/
theorem pages_of_select [FaithfulCache κ] {table : Table} {set : ResultSet}
    (hlimit : statement.limit = none)
    (htable : session.catalog.table? statement.source = some table)
    (hview : table.view = none)
    (hset : (session.select source statement).result = .ok set)
    (counts : List Nat) :
    let windows := Limit.consecutive 0 counts
    let run := session.runAll source
      (windows.map fun window => .select (statement.page window))
    ∃ pages : List ResultSet, run.error = none ∧
      run.outcomes = pages.map Outcome.rows ∧
      pages.flatMap ResultSet.rows = set.rows.take counts.sum ∧
      (∀ page ∈ pages, page.columns = set.columns) ∧
      (∃ query, (∀ asked ∈ run.asked, asked = query) ∧
        (session.cache = none →
          run.asked = List.replicate counts.length query) ∧
        ∀ window, (session.select source (statement.page window)).asked =
          (session.select source statement).asked) ∧
      List.Forall₂ (fun (window : Limit) page =>
        window.offset < Numeral.wordBound → window.count < Numeral.wordBound →
          set.rows.length < Numeral.wordBound →
            Limit.cut? (.ofNat window.offset) (.ofNat window.count) set.rows =
            some page.rows)
        windows pages := by
  intro windows run
  cases hbound : Plan.prepare session.catalog session.today statement with
  | error error => simp [select, hbound] at hset
  | ok bound =>
      obtain ⟨hboundLimit, hpages⟩ := Plan.prepare_page htable hview hbound
      have hwhole : session.select source statement =
          let reply := session.fetch source bound.query
          ⟨reply.result.bind bound.answer, reply.session, reply.asked⟩ := by
        simp [select, hbound]
      rw [hwhole] at hset
      obtain ⟨records, hrecords, hanswer⟩ := Except.bind_eq_ok_iff.mp hset
      have hnone := hboundLimit.trans hlimit
      obtain ⟨herror, houtcomes, hasked, hplain⟩ :=
        runAll_pages windows hnone hanswer hpages hrecords
      refine ⟨windows.map fun window => set.paginate window, herror, ?_, ?_, ?_,
        ⟨bound.query, hasked, ?_, ?_⟩, ?_⟩
      · rw [houtcomes, List.map_map]
        rfl
      · rw [List.flatMap_map]
        exact Limit.flatMap_consecutive set.rows 0 counts
      · intro page hpage
        obtain ⟨window, -, rfl⟩ := List.mem_map.mp hpage
        rfl
      · rw [← Limit.length_consecutive 0 counts]
        exact hplain
      · intro window
        rw [select_page (hpages window) hnone, hwhole]
      · rw [List.forall₂_map_right_iff, List.forall₂_same]
        intro window _ hoffset hcount hrows
        exact Limit.cut?_eq_some hoffset hcount hrows

/-- A session with an empty cache on a report of visits. -/
def visitSession : Session MemoryCache where
  catalog := {
    version := "v1"
    tables := [{
      name := "VISITS"
      aggregateColumn := "Id"
      columns := [{ name := "Id", kind := "LONG" }, { name := "Town" }] }] }
  account := "1"
  today := Day.epoch
  cache := some {}

/-- All visits by town. -/
def visitSelect : Select where
  items := [{ column := { name := "Id" } }, { column := { name := "Town" } }]
  source := "VISITS"
  orderBy := [⟨⟨{ name := "Town" }, 2⟩, false⟩]

/-- Visits to two towns, and one to a town that is not known. -/
def visitSource : ReportSource := fun _ =>
  .ok [["1", "Rome"], ["2", " --"], ["3", "Oslo"], ["4", "Rome"]]

/-- The visits as the report has them. -/
def visits : ResultSet :=
  let row (id : Int) (town : Option String) : List Cell :=
    [{ value := .int (some id) }, { value := .text town }]
  .ofRows ["Id", "Town"] [row 1 (some "Rome"), row 2 none, row 3 (some "Oslo"),
    row 4 (some "Rome")]

/-- The third window ends with the greatest word, and the last one behind it. -/
theorem pages_of_select_visits :
    (visitSession.select visitSource visitSelect).result =
      .ok (visits.sort [⟨1, false⟩]) ∧ ∃ pages : List ResultSet,
        (visitSession.runAll visitSource
          ((Limit.consecutive 0 [3, 0, 2 ^ 64 - 4, 5]).map
          fun window => .select (visitSelect.page window))).outcomes =
            pages.map Outcome.rows ∧
        pages.flatMap ResultSet.rows = (visits.sort [⟨1, false⟩]).rows ∧
        List.Forall₂ (fun (window : Limit) page =>
          Limit.cut? (.ofNat window.offset) (.ofNat window.count)
            (visits.sort [⟨1, false⟩]).rows = some page.rows)
          [⟨0, 3⟩, ⟨3, 0⟩, ⟨3, 2 ^ 64 - 4⟩, ⟨2 ^ 64 - 1, 5⟩] pages := by
  have hset : (visitSession.select visitSource visitSelect).result =
      .ok (visits.sort [⟨1, false⟩]) := by rfl
  have hlength : (visits.sort [⟨1, false⟩]).rows.length = 4 :=
    List.length_mergeSort _
  have htable : visitSession.catalog.table? visitSelect.source =
      some visitSession.catalog.tables[0] := by decide +kernel
  obtain ⟨pages, -, houtcomes, hpages, -, -, hcut⟩ :=
    pages_of_select rfl htable rfl hset [3, 0, 2 ^ 64 - 4, 5]
  refine ⟨hset, pages, houtcomes, ?_, ?_⟩
  · rw [hpages, List.take_of_length_le (by rw [hlength]; decide)]
  · have hwords :
        ∀ window ∈ ([⟨0, 3⟩, ⟨3, 0⟩, ⟨3, 2 ^ 64 - 4⟩, ⟨2 ^ 64 - 1, 5⟩] : List
          Limit), window.offset < Numeral.wordBound ∧
          window.count < Numeral.wordBound := by decide
    refine ((List.forall₂_and_left _ _).mpr ⟨hwords, hcut⟩).imp ?_
    rintro window page ⟨⟨hoffset, hcount⟩, hpage⟩
    exact hpage hoffset hcount (by rw [hlength]; decide)

end Session

end ReportQuery
