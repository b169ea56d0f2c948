import ReportQuery.Command
import ReportQuery.Proofs.Catalog.Words
import ReportQuery.Proofs.Files
import ReportQuery.Proofs.Session.LeftBehind
import ReportQuery.Proofs.Settings.CatalogDocuments
import ReportQuery.Proofs.Statement.Script
import ReportQuery.Proofs.Text.Joined

/-!
# Scripts in one run or in two

A run leaves nothing but its catalog file when it has no cache, and the file
always loads back as the catalog of the run. A script may therefore be cut
behind a statement: a run on the first part and a run on the second do together
what one run on both does. A catalog file is in nobody's way, not even where
settings are looked for, because no text is both a catalog and settings.
-/

namespace ReportQuery

/-! ## Settings beside a catalog file -/

/-- Writing over a file that gives no settings with a text that gives none
changes no settings. -/
theorem Settings.load_write {environment : Environment} {files : Files}
    {path text content : String} (hread : files.read path = .ok text)
    (htext : ofDocument? environment text = none)
    (hcontent : ofDocument? environment content = none) :
    load environment (files.write path content) = load environment files := by
  funext other
  rcases Files.read_write_cases hread content other with
    hsame | ⟨hbefore, hafter⟩
  · rw [load, load, hsame]
  · rw [load, load, hbefore, hafter]
    simp only [htext, hcontent]

namespace Command

theorem settings_write {environment : Environment} {files : Files}
    {path text : String} {loaded catalog : Catalog}
    (hread : files.read path = .ok text)
    (htext : Catalog.ofDocument? text = some loaded) (hfits : catalog.FitsWords)
    (options : Options) :
    settings environment (files.write path catalog.document) options =
      settings environment files options := by
  have hload :=
    Settings.load_write hread (Settings.ofDocument?_eq_none htext environment)
    (Settings.ofDocument?_eq_none hfits.loads environment)
  simp only [settings, Settings.loadUsual, Settings.loadOverridden, hload]

/-! ## Setups -/

/-- The catalog in a file. -/
def storedCatalog? (files : Files) (path : String) : Option Catalog :=
  (files.read path).toOption.bind Catalog.ofDocument?

theorem exists_of_storedCatalog? {files : Files} {path : String}
    {catalog : Catalog} (h : storedCatalog? files path = some catalog) :
    ∃ text, files.read path = .ok text ∧
      Catalog.ofDocument? text = some catalog := by
  obtain ⟨text, hread, htext⟩ := Option.bind_eq_some_iff.mp h
  cases hfile : files.read path with
  | error fault => simp [hfile] at hread
  | ok found =>
      obtain rfl : found = text := by simpa [hfile] using hread
      exact ⟨found, rfl, htext⟩

theorem setup_eq_ok_iff {surroundings : Surroundings} {options : Options}
    {s : Setup} :
    setup surroundings options = .ok s ↔
      settings surroundings.environment surroundings.files options =
        .ok s.settings ∧
        s.catalogPath = s.settings.catalog.file surroundings.environment ∧
        storedCatalog? surroundings.files s.catalogPath = some s.catalog ∧
        cacheFault? surroundings s.settings = none := by
  obtain ⟨loaded, path, catalog⟩ := s
  rw [setup, storedCatalog?]
  cases hsettings : settings surroundings.environment surroundings.files
    options with
  | error error => simp
  | ok found =>
      cases hcatalog : (surroundings.files.read
          (found.catalog.file surroundings.environment)).toOption.bind
          Catalog.ofDocument? with
      | none =>
          simp only [hcatalog, Except.ok.injEq, reduceCtorEq,
            false_iff, not_and]
          rintro rfl rfl
          simp [hcatalog]
      | some saved =>
          cases hfault : cacheFault? surroundings found with
          | some fault =>
              simp only [hcatalog, hfault, Except.ok.injEq, reduceCtorEq,
                false_iff, not_and]
              rintro rfl
              simp [hfault]
          | none =>
              simp only [hcatalog, hfault, Except.ok.injEq, Setup.mk.injEq]
              constructor
              · rintro ⟨rfl, rfl, rfl⟩
                exact ⟨rfl, rfl, hcatalog, hfault⟩
              · rintro ⟨rfl, rfl, hsaved, -⟩
                exact ⟨rfl, rfl, Option.some.inj (hcatalog.symm.trans hsaved)⟩

end Command

/-! ## Runs -/

/-- What a later run finds of the files and of the stored reports. -/
def Surroundings.after (surroundings : Surroundings) (run : Execution)
    (now : Int) : Surroundings :=
  { surroundings with files := run.files, caches := run.caches, now }

namespace Command

/-- A run on a text, which stands where the options ask for one: among them, or
in the input. -/
def runText (surroundings : Surroundings) (transport : Transport)
    (options : Options) (text : String) : Execution :=
  runScript { surroundings with input := text } transport
    { options with script := options.script.map fun _ => text }

theorem runText_eq (surroundings : Surroundings) (transport : Transport)
    (options : Options) (text : String) :
    runText surroundings transport options text =
      match setup surroundings options with
      | .error error => fail surroundings error
      | .ok s =>
        match parseScript text with
        | .error error => fail surroundings (.query (.parse error))
        | .ok statements => runStatements surroundings transport s options.batch
            statements := by
  have htext : (options.script.map fun _ => text).getD text = text := by
    cases options.script <;> rfl
  rw [runText, runScript, htext]
  rfl

/-- A run without an error is one on the statements of its text. -/
theorem exists_of_error_runText {surroundings : Surroundings}
    {transport : Transport} {options : Options} {text : String}
    (h : (runText surroundings transport options text).error = none) :
    ∃ s statements, setup surroundings options = .ok s ∧
      parseScript text = .ok statements ∧
      runText surroundings transport options text =
        runStatements surroundings transport s options.batch statements := by
  rw [runText_eq] at h ⊢
  cases hsetup : setup surroundings options with
  | error error => simp [hsetup, fail] at h
  | ok s =>
      cases hparse : parseScript text with
      | error error => simp [hsetup, hparse, fail] at h
      | ok statements => exact ⟨s, statements, rfl, rfl, rfl⟩

theorem scriptReply_leaves (surroundings : Surroundings) (transport : Transport)
    (s : Setup) (statements : List Statement) :
    Session.LeavesInTurn (s.settings.service.fetch transport)
      (fun n cache => cache.next (surroundings.schedule.turn n))
      (openSession surroundings s) statements
      (scriptReply surroundings transport s statements) :=
  Session.runInTurn_leaves _ _ _ _

/-- The setup of a run after one on statements. -/
def setupAfter (surroundings : Surroundings) (transport : Transport) (s : Setup)
    (statements : List Statement) : Setup :=
  { s with catalog :=
    (scriptReply surroundings transport s statements).session.catalog }

/-- A view was stored when there is a CREATE VIEW among the statements that
went through. -/
theorem any_storedView_eq {statements : List Statement}
    {outcomes : List Outcome}
    (h : List.Forall₂ Statement.Produces statements outcomes) :
    outcomes.any storedView =
      !(statements.filterMap Statement.view?).isEmpty := by
  induction h with
  | nil => rfl
  | cons hproduces _ ih =>
      cases hproduces with
      | viewStored create => simp [storedView, Statement.view?]
      | rows set hview => simpa [storedView, hview] using ih

section Uncached

variable {surroundings : Surroundings} {options : Options} {s : Setup}
  (hdisabled : s.settings.cache.enabled = false) (transport : Transport)

include hdisabled

theorem openSession_of_disabled (surroundings : Surroundings) :
    openSession surroundings s =
      ⟨s.catalog, s.settings.service.accountId, surroundings.today, none⟩ := by
  simp [openSession, openCache, hdisabled]

theorem scriptReply_of_disabled (surroundings : Surroundings)
    (statements : List Statement) :
    scriptReply surroundings transport s statements =
      (openSession surroundings s).runAll (s.settings.service.fetch transport)
        statements :=
  Session.runInTurn_of_uncached
    (by rw [openSession_of_disabled hdisabled]) _ _ statements

/-- What is left of a session without a cache is a catalog: the one that was
loaded when no view was saved, and one whose numbers fit a word when they did
before. -/
theorem session_scriptReply (surroundings : Surroundings)
    (statements : List Statement) :
    ∃ later,
      (scriptReply surroundings transport s statements).session =
          ⟨later, s.settings.service.accountId, surroundings.today, none⟩ ∧
        ((scriptReply surroundings transport s statements).outcomes.any
          storedView = false → later = s.catalog) ∧
        (s.catalog.FitsWords → (∀ statement ∈ statements, statement.FitsWords) →
          later.FitsWords) := by
  have hleaves := scriptReply_leaves surroundings transport s statements
  have hopen := openSession_of_disabled hdisabled surroundings
  have hsession := hleaves.session_eq
  rw [hleaves.cache_of_none (by rw [hopen]), hopen] at hsession
  refine ⟨_, hsession, fun hnone => ?_, fun hcatalog hall => ?_⟩
  · rw [any_storedView_eq hleaves.produces, Bool.not_eq_false',
      List.isEmpty_iff] at hnone
    rw [hnone]
    rfl
  · refine Catalog.addViews_induction Catalog.FitsWords
      (fun create => create.select.FitsWords)
      (fun _ _ _ hbefore hcreate hadd => hbefore.addView hcreate hadd)
      hcatalog ?_
    intro create hcreate
    obtain ⟨statement, hmem, hview⟩ := List.mem_filterMap.mp hcreate
    have hfits := hall statement (List.mem_of_mem_take hmem)
    cases statement with
    | createView other =>
        obtain rfl := Option.some.inj hview
        exact hfits
    | select _ | describe _ | showTables _ => simp [Statement.view?] at hview

theorem saveCache_scriptReply (surroundings : Surroundings)
    (statements : List Statement) :
    saveCache surroundings s (scriptReply surroundings transport s statements) =
      surroundings.caches := by
  obtain ⟨later, hsession, -⟩ :=
    session_scriptReply hdisabled transport surroundings statements
  rw [saveCache, hsession]

variable (hsetup : setup surroundings options = .ok s)

include hsetup

/-- The catalog file loads back as the catalog of the session. -/
theorem storedCatalog?_saveCatalog {statements : List Statement}
    (hwords : ∀ statement ∈ statements, statement.FitsWords) :
    storedCatalog?
        (saveCatalog surroundings s
          (scriptReply surroundings transport s statements))
        s.catalogPath =
      some (scriptReply surroundings transport s
        statements).session.catalog := by
  obtain ⟨-, -, hstored, -⟩ := setup_eq_ok_iff.mp hsetup
  obtain ⟨text, hread, htext⟩ := exists_of_storedCatalog? hstored
  obtain ⟨later, hsession, hsame, hfits⟩ :=
    session_scriptReply hdisabled transport surroundings statements
  have hlater := hfits (Catalog.fitsWords_of_ofDocument? htext) hwords
  rw [saveCatalog]
  split
  · rw [hsession, storedCatalog?, Files.read_write hread, Except.ok_toOption,
      Option.bind_some, hlater.loads]
  · next hnone => rw [hstored, hsession, hsame (by simpa using hnone)]

/-- A later run has the setup of the run before, but for the catalog that this
one left. -/
theorem setup_after {statements : List Statement}
    (hwords : ∀ statement ∈ statements, statement.FitsWords) (batch : Bool)
    (now : Int) :
    setup
      (surroundings.after (runStatements surroundings transport s batch
        statements) now) options =
      .ok (setupAfter surroundings transport s statements) := by
  obtain ⟨hsettings, hpath, hstored, -⟩ := setup_eq_ok_iff.mp hsetup
  obtain ⟨text, hread, htext⟩ := exists_of_storedCatalog? hstored
  obtain ⟨later, hsession, -, hfits⟩ :=
    session_scriptReply hdisabled transport surroundings statements
  have hlater := hfits (Catalog.fitsWords_of_ofDocument? htext) hwords
  refine setup_eq_ok_iff.mpr ⟨?_, hpath, ?_, ?_⟩
  · change settings surroundings.environment
      (saveCatalog surroundings s
        (scriptReply surroundings transport s statements)) options = _
    rw [saveCatalog]
    split
    · rw [hsession, settings_write hread htext hlater]
      exact hsettings
    · exact hsettings
  · exact storedCatalog?_saveCatalog hdisabled transport hsetup hwords
  · simp [cacheFault?, setupAfter, hdisabled]

variable {xs : List Statement}
  (hfirst : (scriptReply surroundings transport s xs).error = none)
  (batch : Bool) (now : Int)
  (ys : List Statement)

include hfirst

omit hsetup in
/-- The reply to statements behind others is the one in the setup that these
leave. -/
theorem scriptReply_append :
    scriptReply surroundings transport s (xs ++ ys) =
      let first := scriptReply surroundings transport s xs
      let second := scriptReply
        (surroundings.after (runStatements surroundings transport s batch xs)
          now) transport
        (setupAfter surroundings transport s xs) ys
      { second with
        outcomes := first.outcomes ++ second.outcomes
        asked := first.asked ++ second.asked } := by
  obtain ⟨later, hsession, -⟩ :=
    session_scriptReply hdisabled transport surroundings xs
  have hopen : openSession
      (surroundings.after (runStatements surroundings transport s batch xs) now)
      (setupAfter surroundings transport s xs) =
        (scriptReply surroundings transport s xs).session := by
    rw [setupAfter, hsession]
    exact openSession_of_disabled (s := { s with catalog := later }) hdisabled _
  rw [scriptReply_of_disabled hdisabled] at hfirst hopen
  rw [scriptReply_of_disabled hdisabled, Session.runAll_append hfirst,
    scriptReply_of_disabled hdisabled]
  dsimp only
  rw [scriptReply_of_disabled (s := setupAfter surroundings transport s xs)
    hdisabled, hopen]
  rfl

/-- The files after statements behind others: what is saved last stays. -/
theorem saveCatalog_append :
    saveCatalog surroundings s
      (scriptReply surroundings transport s (xs ++ ys)) =
      let later := surroundings.after
        (runStatements surroundings transport s batch xs) now
      saveCatalog later (setupAfter surroundings transport s xs)
        (scriptReply later transport
          (setupAfter surroundings transport s xs) ys) := by
  obtain ⟨-, -, hstored, -⟩ := setup_eq_ok_iff.mp hsetup
  obtain ⟨text, hread, -⟩ := exists_of_storedCatalog? hstored
  obtain ⟨catalog, hsession, hsame, -⟩ :=
    session_scriptReply (s := setupAfter surroundings transport s xs)
      hdisabled transport
      (surroundings.after (runStatements surroundings transport s batch xs) now)
        ys
  have hfiles :
      (surroundings.after (runStatements surroundings transport s batch xs)
        now).files =
      saveCatalog surroundings s (scriptReply surroundings transport s xs) :=
        rfl
  have hpath : (setupAfter surroundings transport s xs).catalogPath =
      s.catalogPath := rfl
  rw [scriptReply_append hdisabled transport hfirst batch now ys]
  dsimp only
  generalize scriptReply
    (surroundings.after (runStatements surroundings transport s batch xs) now)
    transport (setupAfter surroundings transport s xs) ys =
    second at hsession hsame ⊢
  simp only [saveCatalog, List.any_append, Bool.or_eq_true, hfiles, hpath]
  cases hsecond : second.outcomes.any storedView with
  | true =>
      simp only [or_true, if_true]
      split
      · exact (Files.write_write hread _ _).symm
      · rfl
  | false =>
      have hkept : second.session.catalog =
          (scriptReply surroundings transport s xs).session.catalog := by
        rw [hsession, hsame hsecond]
        rfl
      simp only [Bool.false_eq_true, or_false, if_false, hkept]

/-- A run on statements behind others does what a later run on them does, after
what the run on the others did. -/
theorem runStatements_append :
    let first := runStatements surroundings transport s batch xs
    let second := runStatements (surroundings.after first now) transport
      (setupAfter surroundings transport s xs) batch ys
    runStatements surroundings transport s batch (xs ++ ys) =
      { second with
        output := first.output ++ second.output
        requests := first.requests ++ second.requests } := by
  intro first second
  have hcaches :
      saveCache surroundings s
        (scriptReply surroundings transport s (xs ++ ys)) =
      second.caches := by
    have hsecond : second.caches = first.caches :=
      saveCache_scriptReply (s := setupAfter surroundings transport s xs)
        hdisabled transport _ ys
    have hcaches : first.caches = surroundings.caches :=
      saveCache_scriptReply hdisabled transport surroundings xs
    rw [saveCache_scriptReply hdisabled transport surroundings (xs ++ ys),
      hsecond, hcaches]
  have hfiles :
      saveCatalog surroundings s
        (scriptReply surroundings transport s (xs ++ ys)) =
      second.files :=
    saveCatalog_append hdisabled transport hsetup hfirst batch now ys
  have hreply := scriptReply_append hdisabled transport hfirst batch now ys
  have hwhole : runStatements surroundings transport s batch (xs ++ ys) =
      let reply := scriptReply surroundings transport s (xs ++ ys)
      { code := if reply.error.isSome then failureCode else 0
        output := Text.join "" (reply.outcomes.map (Outcome.print batch))
        error := reply.error.map CommandError.query
        files := second.files
        caches := second.caches
        requests := s.settings.service.requests reply.asked } := by
    rw [← hfiles, ← hcaches]
    rfl
  rw [hwhole, hreply]
  simp only [List.map_append, Text.join_empty_append, ServiceSettings.requests,
    List.filterMap_append]
  rfl

end Uncached

/-- What runs without a cache do is not changed by cutting a script in two
where a statement ends: a run on both parts sends the requests and prints the
output of a run on the first part and of a later run on the second, and leaves
files, error and status as the later run does. After every statement the
catalog file loads back as the catalog of the run. The bound on the length
holds of every text that can be kept in memory. -/
theorem runText_append {surroundings : Surroundings} {options : Options}
    {a b : String} {ys : List Statement} (transport : Transport)
    (hdisabled : ∀ loaded,
      settings surroundings.environment surroundings.files options =
        .ok loaded → loaded.cache.enabled = false)
    (hlength : (a ++ b).length < Numeral.wordBound)
    (hclosed : ∀ word ∈ (Word.ofText a).getLast?, word.token.kind.Closes)
    (hfirst : (runText surroundings transport options a).error = none)
    (hb : parseScript b = .ok ys) (now : Int) :
    (let first := runText surroundings transport options a
      let second := runText (surroundings.after first now) transport options b
      runText surroundings transport options (a ++ b) =
        { second with
          output := first.output ++ second.output
          requests := first.requests ++ second.requests }) ∧
      ∀ s statements, setup surroundings options = .ok s →
        parseScript (a ++ b) = .ok statements → ∀ done, done <+: statements →
          storedCatalog?
              (runStatements surroundings transport s options.batch done).files
              s.catalogPath =
            some
              (scriptReply surroundings transport s done).session.catalog := by
  have hfits : ∀ {statements : List Statement},
      parseScript (a ++ b) = .ok statements →
      ∀ statement ∈ statements, statement.FitsWords := fun hparse _ hmem =>
    fitsWords_of_mem_parseScript hlength hparse hmem
  obtain ⟨s, xs, hsetup, ha, hrun⟩ := exists_of_error_runText hfirst
  have hsettings := hdisabled s.settings (setup_eq_ok_iff.mp hsetup).1
  have hwhole : parseScript (a ++ b) = .ok (xs ++ ys) := by
    obtain ⟨spaced, hwords⟩ := Word.ofText_append hclosed b
    rw [parseScript, hwords,
      scriptOfWords_append (noneOrClosed_ofText hclosed) ha,
      scriptOfWords_ofLexemes]
    exact congrArg (Except.map fun ys => xs ++ ys) hb
  constructor
  · intro first second
    have hxs : ∀ statement ∈ xs, statement.FitsWords := fun statement hmem =>
      hfits hwhole statement (List.mem_append_left ys hmem)
    have hnone : (scriptReply surroundings transport s xs).error = none := by
      rw [hrun] at hfirst
      exact Option.map_eq_none_iff.mp hfirst
    have hlater : setup (surroundings.after first now) options =
        .ok (setupAfter surroundings transport s xs) := by
      rw [show first = _ from hrun]
      exact setup_after hsettings transport hsetup hxs options.batch now
    have hsecond : second =
        runStatements (surroundings.after first now) transport
        (setupAfter surroundings transport s xs) options.batch ys := by
      simp only [second, runText_eq, hlater, hb]
    rw [hsecond, runText_eq, hsetup, hwhole, show first = _ from hrun]
    exact runStatements_append hsettings transport hsetup hnone
      options.batch now ys
  · intro s' statements hsetup' hparse done hfront
    obtain rfl := Except.ok.inj (hsetup.symm.trans hsetup')
    exact storedCatalog?_saveCatalog hsettings transport hsetup
      fun statement hmem => hfits hparse statement (hfront.subset hmem)

/-- A document with a catalog of one report. -/
def portDocument : String :=
  "[\"v1\", [[\"SHIPS\", \"Id\", [[\"Id\"], [\"Name\"]]]]]"

/-- Settings that say where the service is. -/
def portSettings : String :=
  "adwords.endpoint = 'http://A/'"

/-- A directory of a catalog and of settings. -/
def portSurroundings : Surroundings where
  environment := {}
  files :=
    { directory := "/", entries := [("/c", portDocument),
      ("/s", portSettings)] }
  today := Day.ofCount 0
  now := 0

/-- Options that name both files, whom to ask for reports and, where the text
stands, a script. -/
def portOptions : Options where
  script := some ""
  settingsFile := some "/s"
  catalog := some "/c"
  accountId := some "1"
  developerToken := some "token"
  batch := true

/-- What a run with these options works with. -/
def portSetup : Setup where
  settings :=
    { Settings.default {} with
      service := { accountId := "1", developerToken := "token",
                   endpoint := "http://A/" }
      catalog := { path := "/c" } }
  catalogPath := "/c"
  catalog :=
    { version := "v1"
      tables := [{
        name := "SHIPS"
        aggregateColumn := "Id"
        columns := [{ name := "Id" }, { name := "Name" }] }] }

/-- A service that knows one ship. -/
def portTransport : Transport := fun _ => .ok ⟨200, "Orca\n"⟩

/-- A script that stores a view and asks for it, with a blank behind the
semicolon at its end. -/
def portScript : String :=
  "CREATE VIEW names AS SELECT Name FROM SHIPS; SELECT Name FROM names;\n"

/-- A script that asks for the view of the other one. -/
def laterScript : String :=
  "SELECT * FROM names"

/-- The statement of the later script. -/
def laterSelect : Statement :=
  .select { items := [{ column := { name := starName } }], source := "names" }

theorem setup_portSurroundings :
    setup portSurroundings portOptions = .ok portSetup := by
  have hsplit : "/c".splitOn "/" = ["", "c"] ∧
      "/s".splitOn "/" = ["", "s"] := by
    constructor
    all_goals
      rw [String.splitOn, if_neg (by decide)]
      rw [String.splitOnAux, if_neg (by decide), if_pos (by decide),
        if_pos (by decide)]
      rw [String.splitOnAux, if_neg (by decide), if_neg (by decide)]
      rw [String.splitOnAux, if_pos (by decide)]
      rfl
  have hread : portSurroundings.files.read "/c" = .ok portDocument := by
    rw [Files.read, Files.follow, hsplit.1]
    decide +kernel
  have hload : Settings.load portSurroundings.environment portSurroundings.files
      "/s" =
      .ok { Settings.default {} with service :=
        { endpoint := "http://A/" } } := by
    rw [Settings.load, Files.read, Files.follow, hsplit.2]
    decide +kernel
  refine setup_eq_ok_iff.mpr ⟨?_, ?_, ?_, ?_⟩
  · simp only [settings, portOptions, Settings.loadOverridden, hload]
    rfl
  · decide +kernel
  · rw [storedCatalog?, show portSetup.catalogPath = "/c" from rfl, hread]
    decide +kernel
  · decide +kernel

theorem runText_append_portScript :
    (∀ loaded, settings portSurroundings.environment portSurroundings.files
      portOptions = .ok loaded → loaded.cache.enabled = false) ∧
      (portScript ++ laterScript).length < Numeral.wordBound ∧
      (∀ word ∈ (Word.ofText portScript).getLast?, word.token.kind.Closes) ∧
      (runText portSurroundings portTransport portOptions portScript).error =
        none ∧
      parseScript laterScript = .ok [laterSelect] ∧
      (let first :=
          runText portSurroundings portTransport portOptions portScript
        let second := runText (portSurroundings.after first 1) portTransport
          portOptions laterScript
        first.output ++ second.output =
            "View names stored\nName\nOrca\nName\nOrca\n" ∧
          first.requests.length + second.requests.length = 2) := by
  have hdisabled : ∀ loaded,
      settings portSurroundings.environment portSurroundings.files portOptions =
      .ok loaded → loaded.cache.enabled = false := by
    intro loaded h
    obtain rfl :=
      Except.ok.inj ((setup_eq_ok_iff.mp setup_portSurroundings).1.symm.trans h)
    decide +kernel
  have hlength : (portScript ++ laterScript).length < Numeral.wordBound := by
    decide +kernel
  have hclosed : ∀ word ∈ (Word.ofText portScript).getLast?,
      word.token.kind.Closes := by
    decide +kernel
  have hfirst :
      (runText portSurroundings portTransport portOptions portScript).error =
      none := by
    rw [runText_eq, setup_portSurroundings]
    decide +kernel
  have hlater : parseScript laterScript = .ok [laterSelect] := by decide +kernel
  refine ⟨hdisabled, hlength, hclosed, hfirst, hlater, ?_⟩
  have hwhole :=
    (runText_append portTransport hdisabled hlength hclosed hfirst hlater 1).1
  have houtput := congrArg Execution.output hwhole
  have hrequests := congrArg (fun run => run.requests.length) hwhole
  dsimp only at houtput hrequests
  rw [List.length_append] at hrequests
  refine ⟨houtput.symm.trans ?_, hrequests.symm.trans ?_⟩
  · rw [runText_eq, setup_portSurroundings]
    decide +kernel
  · rw [runText_eq, setup_portSurroundings]
    decide +kernel

end Command

end ReportQuery
