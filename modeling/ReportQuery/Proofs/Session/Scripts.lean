import ReportQuery.Proofs.Session.CacheTransparency

/-!
# What statements do to a session

A statement asks for the records of one query, or answers from the catalog, or
stores a view; only the last changes the catalog, and only the first touches
the cache. A script can be cut in two: what comes later runs in the session
that the first part leaves.
-/

namespace ReportQuery.Session

variable {κ : Type} [ReportCache κ]

/-! ## One statement -/

/-- What a statement does, on a catalog and a day, whatever the account and the
cache are. -/
inductive Runs (κ : Type) [ReportCache κ] (source : ReportSource)
    (catalog : Catalog) (today : Day) (statement : Statement) : Prop where
  /-- It makes rows of the records of a query. -/
  | asks (query : String) (answer : Records → Except QueryError ResultSet)
      (run_eq : ∀ (account : String) (cache : Option κ),
        run source ⟨catalog, account, today, cache⟩ statement =
          let reply := fetch source ⟨catalog, account, today, cache⟩ query
          ⟨(reply.result.bind answer).map Outcome.rows,
            reply.session, reply.asked⟩)
  /-- It gives rows or an error, and changes nothing. -/
  | tells (result : Except QueryError ResultSet)
      (run_eq : ∀ (account : String) (cache : Option κ),
        run source ⟨catalog, account, today, cache⟩ statement =
          ⟨result.map Outcome.rows, ⟨catalog, account, today, cache⟩, []⟩)
  /-- It stores a view. -/
  | stores (create : CreateView) (later : Catalog) (statement_eq : statement =
      .createView create) (addView_eq : catalog.addView create = .ok later)
      (run_eq : ∀ (account : String) (cache : Option κ),
        run source ⟨catalog, account, today, cache⟩ statement =
          ⟨.ok (.viewStored create.name), ⟨later, account, today, cache⟩, []⟩)

theorem runs (source : ReportSource) (catalog : Catalog) (today : Day)
    (statement : Statement) : Runs κ source catalog today statement := by
  cases statement with
  | select statement =>
      cases hprepare : Plan.prepare catalog today statement with
      | error error =>
          exact .tells (.error error) fun account cache =>
            run_select_of_error hprepare source
      | ok bound =>
          exact .asks bound.query bound.answer fun account cache => by
            simp [run, select, hprepare]
  | describe statement =>
      refine .tells ((catalog.describe statement).mapError .catalog)
        fun account cache => ?_
      cases h : catalog.describe statement <;> simp [run, h]
  | showTables statement =>
      refine .tells ((catalog.showTables statement).mapError .catalog)
        fun account cache => ?_
      cases h : catalog.showTables statement <;> simp [run, h]
  | createView create =>
      cases hadd : catalog.addView create with
      | error error =>
          exact .tells (.error (.catalog error)) fun account cache => by
            simp [run, createView, hadd]
      | ok later =>
          exact .stores create later rfl hadd fun account cache => by
            simp [run, createView, hadd]

/-! ## Scripts -/

omit [ReportCache κ] in
@[simp] theorem mapCache_id (session : Session κ) :
    session.mapCache (fun cache => cache) = session := by
  obtain ⟨catalog, account, today, cache⟩ := session
  cases cache <;> rfl

theorem runAll_nil (source : ReportSource) (session : Session κ) :
    session.runAll source [] = ⟨[], none, session, []⟩ :=
  rfl

theorem runAll_cons (source : ReportSource) (session : Session κ)
    (statement : Statement) (rest : List Statement) :
    session.runAll source (statement :: rest) =
      let reply := session.run source statement
      match reply.result with
      | .error error => ⟨[], some error, reply.session, reply.asked⟩
      | .ok outcome =>
        let later := reply.session.runAll source rest
        { later with
          outcomes := outcome :: later.outcomes
          asked := reply.asked ++ later.asked } := by
  rw [runAll, runInTurn, mapCache_id]
  rfl

/-- Statements behind others run in the session that these leave. -/
theorem runInTurn_append {source : ReportSource} {change : Nat → κ → κ}
    {session : Session κ} {xs : List Statement}
    (h : (session.runInTurn source change xs).error = none)
    (ys : List Statement) :
    session.runInTurn source change (xs ++ ys) =
      let first := session.runInTurn source change xs
      let later := first.session.runInTurn source
        (fun n => change (n + xs.length)) ys
      { later with
        outcomes := first.outcomes ++ later.outcomes
        asked := first.asked ++ later.asked } := by
  induction xs generalizing session change with
  | nil => rfl
  | cons statement rest ih =>
      simp only [List.cons_append, runInTurn] at h ⊢
      cases hresult :
          ((session.mapCache (change 0)).run source statement).result with
      | error error => simp [hresult] at h
      | ok outcome =>
          simp only [hresult] at h ⊢
          rw [ih h]
          simp [Nat.add_assoc]

theorem runAll_append {source : ReportSource} {session : Session κ}
    {xs : List Statement} (h : (session.runAll source xs).error = none)
    (ys : List Statement) :
    session.runAll source (xs ++ ys) =
      let first := session.runAll source xs
      let later := first.session.runAll source ys
      { later with
        outcomes := first.outcomes ++ later.outcomes
        asked := first.asked ++ later.asked } :=
  runInTurn_append h ys

end ReportQuery.Session
