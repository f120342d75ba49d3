import Bluewave.Accounting
import Bluewave.CsvFile
import Bluewave.DateRange
import Bluewave.Download
import Bluewave.Probes

/-! From the bytes of the reports to the audit table, over any history of runs, deaths of the
process and reaps at boot: what arrived are rows of records of the files that the runs' scrapes
returned, each under its run, and a run closed as `ok` has left no record of its file out. A
file is the run's own download, asked for with its report date, where the disk and the page of the
run are such that it can be. -/
namespace Bluewave.Provenance
open Lib Bluewave.Exceptions Bluewave.Tables Bluewave.Sink Bluewave.Runs
open Bluewave.RunJob Bluewave.RunOutcome Bluewave.Accounting Bluewave.Transform Bluewave.CsvFile
open Bluewave.SafeDriver Bluewave.ReportFlow Bluewave.Selectors
open Bluewave.DateInputs (Page formatDateForBlueweb)
open Bluewave.DateRange (KeepsStart PadsYear mmDdYyyy)
open Bluewave.Download (Wipe Wait OwnDownload awaited joined wipeFault)

/-! ## A run with its browser and its file -/

/-- What one `run_job` meets: the site, the files that it can open with their bytes in the pieces
they are read in, and in `world` everything but login, scrape and transform. -/
structure Trip where
  world : World
  visit : Visit
  repr : String → String
  strftimeYear : Nat → String
  downloadDir : String
  className : WebDriverException → String
  openFile : String → Except Exn (List (List UInt8))
  runtime : Runtime

/-- The exception that leaves the driver's code. -/
def Trip.exn (t : Trip) : Raised → Exn
  | .webDriver e => .other (t.className e) e.text
  | .exn e => e

def Trip.returns {α : Type} (t : Trip) (m : Driven α) : Except Exn α :=
  (Logged.outcome m []).1.mapError t.exn

def Trip.surroundings (t : Trip) : World :=
  { t.world with
    login := fun url user password => t.returns (loginAndNavigate t.visit url user password 30 15)
    scrape := fun reportDate => t.returns (scrapeEventReport t.repr t.visit
      (formatDateForBlueweb t.strftimeYear reportDate) t.downloadDir)
    transform := fun csvPath timezone =>
      transform t.runtime ((t.openFile csvPath).map readCsv) csvPath timezone "Bluewave" }

/-- The row of a record of the file at this path. -/
def RecordOf (t : Trip) (csvPath : String) (row : Row) : Prop :=
  ∃ cfg tz pieces fields, t.world.load = .ok (some cfg) ∧
    t.runtime.zoneInfo cfg.operatorTimezone = .ok tz ∧
    t.openFile csvPath = .ok pieces ∧ Readable pieces.flatten ∧
    fields ∈ (readCsv pieces).records.tail ∧
    RowOf t.runtime tz "Bluewave" (fields.take 7) row

/-! ## Where the file comes from -/

/-- The wipe and the poll of the trip meet this disk, and what the browser does on it. -/
def Trip.Downloads (t : Trip) (w : Wipe) (wait : Wait) : Prop :=
  t.visit.wipe = wipeFault t.repr w t.downloadDir ∧
    t.visit.download =
      (awaited t.repr w wait t.downloadDir).map fun seen => joined t.downloadDir seen.name

/-- The trip sets its dates on this page. -/
def Trip.Shows {σ : Type} (t : Trip) (page : Page σ) (s : σ) (reportDate : Date) : Prop :=
  t.visit = DateRange.visit page t.repr s t.visit (formatDateForBlueweb t.strftimeYear reportDate)

/-- The path is what the scrape for the date returned. On the disk of the trip it leads to the
trip's own download, unless something was left there under its name, and on the page of the trip
both dates were the report date, unless the end date cost the start date. -/
structure Fetched (t : Trip) (reportDate : Date) (csvPath : String) : Prop where
  returned : t.surroundings.scrape reportDate = .ok (some csvPath)
  own : ∀ w wait, t.Downloads w wait → ∃ seen, awaited t.repr w wait t.downloadDir = some seen ∧
    csvPath = joined t.downloadDir seen.name ∧ (OwnDownload seen ↔ ¬ w.Stale)
  dated : ∀ {σ : Type} (page : Page σ) s, t.Shows page s reportDate →
    PadsYear t.strftimeYear reportDate →
    ∃ u, Stateful.Returns (DateInputs.setDateRange page t.repr t.strftimeYear reportDate) s () u ∧
      page.value u endDateInput = some (mmDdYyyy reportDate) ∧
      (page.value u startDateInput = some (mmDdYyyy reportDate) ↔
        KeepsStart page (mmDdYyyy reportDate) s)

theorem Trip.returns_eq_ok {α : Type} {t : Trip} {m : Driven α} {a : α} (h : t.returns m = .ok a) :
    (Logged.outcome m []).1 = .ok a := by
  unfold Trip.returns at h
  cases hm : (Logged.outcome m []).1 with
  | error raised =>
    rw [hm] at h
    cases h
  | ok b =>
    rw [hm] at h
    cases h
    rfl

theorem fetched_of_scrape {t : Trip} {reportDate : Date} {csvPath : String}
    (h : t.surroundings.scrape reportDate = .ok (some csvPath)) : Fetched t reportDate csvPath where
  returned := h
  own w wait hdisk := by
    obtain ⟨-, hdownload⟩ := Download.scrapeEventReport_path (Trip.returns_eq_ok h)
    obtain ⟨seen, hseen, hjoined⟩ := Option.map_eq_some_iff.mp (hdisk.2.symm.trans hdownload)
    exact ⟨seen, hseen, hjoined.symm, (Download.awaited_ready hseen).2.ownDownload_iff⟩
  dated page s hshows hyear := by
    obtain ⟨u, hreturns⟩ := DateRange.returns_of_scrape hshows (Trip.returns_eq_ok h)
    exact ⟨u, hreturns, DateRange.dates_of_returns hyear hreturns⟩

/-! ## The rows of a run -/

theorem exists_related {α β : Type} {R : α → β → Prop} {as : List α} {bs : List β}
    (h : List.Forall₂ R as bs) {b : β} (hb : b ∈ bs) : ∃ a ∈ as, R a b := by
  induction h with
  | nil => cases hb
  | cons hab _ ih =>
    rcases List.mem_cons.mp hb with rfl | hb
    · exact ⟨_, List.mem_cons_self, hab⟩
    · obtain ⟨a, ha, hab⟩ := ih hb
      exact ⟨a, List.mem_cons_of_mem _ ha, hab⟩

section
variable {t : Trip} {cfg : Config} {reportDate : Date}

/-- A run without a file has no rows, one with a file those that `transform` returns. -/
theorem acquire_eq_ok {w : World} {report : Option (List Row)}
    (h : acquire w cfg reportDate = .ok report) :
    (report = none ∧ w.scrape reportDate = .ok none) ∨
      ∃ csvPath rows, report = some rows ∧ w.scrape reportDate = .ok (some csvPath) ∧
        w.transform csvPath cfg.operatorTimezone = .ok rows := by
  obtain ⟨_, _, h⟩ := Result.bind_eq_ok.mp h
  obtain ⟨_, _, h⟩ := Result.bind_eq_ok.mp h
  obtain ⟨path, hscrape, h⟩ := Result.bind_eq_ok.mp h
  cases path with
  | none => exact .inl ⟨(Except.ok.inj h).symm, hscrape⟩
  | some csvPath =>
    obtain ⟨rows, htransform, h⟩ := Result.bind_eq_ok.mp h
    exact .inr ⟨csvPath, rows, (Except.ok.inj h).symm, hscrape, htransform⟩

/-- A file that breaks off gives no rows. -/
theorem rowsOf_whole {rt : Runtime} {key source : String} {tz : Zone} {failure : Option Exn}
    {i : Nat} {records : List (List String)} {rows : List Row}
    (h : rowsOf rt key tz source failure i records = .ok rows) : failure = none := by
  induction records generalizing i rows with
  | nil =>
    cases failure with
    | none => rfl
    | some e => cases h
  | cons fields records ih =>
    obtain ⟨row, _, h⟩ := Result.bind_eq_ok.mp h
    obtain ⟨rest, hrest, _⟩ := Result.bind_eq_ok.mp h
    exact ih hrest

theorem transform_whole {rt : Runtime} {opened : Except Exn Reading} {csvPath timezone source : String}
    {rows : List Row} (h : transform rt opened csvPath timezone source = .ok rows) :
    ∃ tz records, rt.zoneInfo timezone = .ok tz ∧ opened = .ok ⟨records, none⟩ := by
  unfold transform at h
  cases hzone : rt.zoneInfo timezone with
  | error text =>
    rw [hzone] at h
    cases h
  | ok tz =>
    rw [hzone] at h
    obtain ⟨⟨records, failure⟩, hopened, h⟩ := Result.bind_eq_ok.mp h
    cases records with
    | nil => cases failure <;> cases h
    | cons header records =>
      simp only at h
      split at h
      · cases h
      · obtain rfl := rowsOf_whole h
        exact ⟨tz, _, rfl, hopened⟩

/-- What a run has in hand are the rows of the records of its file, and all of them. -/
theorem mem_report_iff (hload : t.world.load = .ok (some cfg)) {report : Option (List Row)}
    (h : acquire t.surroundings cfg reportDate = .ok report) (row : Row) :
    row ∈ report.getD [] ↔ ∃ csvPath,
      t.surroundings.scrape reportDate = .ok (some csvPath) ∧ RecordOf t csvPath row := by
  rcases acquire_eq_ok h with ⟨rfl, hscrape⟩ | ⟨csvPath, rows, rfl, hscrape, htransform⟩
  · refine iff_of_false List.not_mem_nil ?_
    rintro ⟨csvPath, hscrape', -⟩
    cases hscrape.symm.trans hscrape'
  · obtain ⟨tz, records, hzone, hopened⟩ := transform_whole htransform
    cases hfile : t.openFile csvPath with
    | error e =>
      rw [hfile] at hopened
      cases hopened
    | ok pieces =>
      rw [hfile] at hopened
      have hreading : readCsv pieces = ⟨records, none⟩ := Except.ok.inj hopened
      have hreadable : Readable pieces.flatten :=
        readCsv_failure_eq_none.mp (congrArg Reading.failure hreading)
      have hrows : List.Forall₂
          (fun fields row => RowOf t.runtime tz "Bluewave" (fields.take 7) row) records.tail rows := by
        refine (transform_exact t.runtime hzone csvPath "Bluewave" records).2.1 rows ?_
        rw [← hreading, show Except.ok (readCsv pieces) = (t.openFile csvPath).map readCsv by
          rw [hfile]; rfl]
        exact htransform
      constructor
      · intro hrow
        obtain ⟨fields, hfields, hof⟩ := exists_related hrows hrow
        exact ⟨csvPath, hscrape, cfg, tz, pieces, fields, hload, hzone, hfile, hreadable,
          hreading ▸ hfields, hof⟩
      · rintro ⟨csvPath', hscrape', cfg', tz', pieces', fields, hload', hzone', hfile', -, hfields,
          hof⟩
        cases hscrape.symm.trans hscrape'
        cases hload.symm.trans hload'
        cases hzone.symm.trans hzone'
        cases hfile.symm.trans hfile'
        rw [hreading] at hfields
        obtain ⟨row', hrow', hof'⟩ := exists_related hrows.flip hfields
        exact hof.unique hof' ▸ hrow'

end

/-! ## One run -/

/-- What a run that got as far as its run row has left. -/
structure Left (w : World) (reportDate : Date) (manual : Bool) (db db' : Db) (rows : List AuditRow)
    (run : RunRow) : Prop where
  audit : db'.audit = db.audit.insertAll rows
  runs : db'.runs.rows = db.runs.rows ++ [run]
  nextId : db'.runs.nextId = db.runs.nextId + 1
  id : run.id = db.runs.nextId
  dated : run.reportDate = reportDate
  asked : run.manual = manual
  offered : ∀ r ∈ rows, ∃ cfg, w.load = .ok (some cfg) ∧ Offered w cfg reportDate run.id r
  complete : run.status = .ok → ∃ cfg report, w.load = .ok (some cfg) ∧
    acquire w cfg reportDate = .ok report ∧ ∀ row ∈ report.getD [], params row run.id ∈ rows

section
variable {w : World} {cfg : Config} {reportDate : Date} {manual : Bool} {db : Db}

theorem left_started : Left w reportDate manual db
    { db with runs := db.runs.insertRun "Bluewave" reportDate w.startedAt manual } []
    (RunsTable.runningRow db.runs.nextId "Bluewave" reportDate w.startedAt manual) where
  audit := rfl
  runs := rfl
  nextId := rfl
  id := rfl
  dated := rfl
  asked := rfl
  offered _ hr := absurd hr List.not_mem_nil
  complete hok := nomatch hok

theorem left_finished {stmts : List (List AuditRow)} {cols : Terminal}
    (hload : w.load = .ok (some cfg))
    (hacc : ∃ runs, (db.runs.insertRun "Bluewave" reportDate w.startedAt manual).finalize?
      db.runs.nextId cols = some runs)
    (hoffered : ∀ r ∈ stmts.flatten, Offered w cfg reportDate db.runs.nextId r)
    (hcomplete : cols.status = .ok → ∃ report, acquire w cfg reportDate = .ok report ∧
      ∀ row ∈ report.getD [], params row db.runs.nextId ∈ stmts.flatten) :
    Left w reportDate manual db (finished w reportDate manual db stmts cols).durable stmts.flatten
      (cols.applyTo
        (RunsTable.runningRow db.runs.nextId "Bluewave" reportDate w.startedAt manual)) := by
  obtain ⟨runs, hruns⟩ := hacc
  obtain ⟨hrows, hnext⟩ := finalize?_rows hruns
  have hfinal := @finished_runs w reportDate manual db stmts cols runs hruns
  exact {
    audit := finished_audit stmts cols
    runs := hfinal ▸ hrows
    nextId := hfinal ▸ hnext
    id := rfl
    dated := rfl
    asked := rfl
    offered := fun r hr => ⟨cfg, hload, hoffered r hr⟩
    complete := fun hok =>
      have ⟨report, hacquire, hrows⟩ := hcomplete hok
      ⟨cfg, report, hload, hacquire, hrows⟩ }

/-- The states that the COMMITs of a run pass, up to its last one. -/
theorem left_passed {stmts : List (List AuditRow)} {cols : Terminal} {rows : List AuditRow}
    {run : RunRow} (h : Left w reportDate manual db (finished w reportDate manual db stmts cols).durable
      rows run) (commits : Nat) :
    replay db ((finished w reportDate manual db stmts cols).journal.take commits).flatten = db ∨
      ∃ rows run, Left w reportDate manual db
        (replay db ((finished w reportDate manual db stmts cols).journal.take commits).flatten)
        rows run := by
  rcases commits with _ | _ | n
  · exact .inl rfl
  · exact .inr ⟨_, _, left_started⟩
  · have htake : (finished w reportDate manual db stmts cols).journal.take (n + 1 + 1) =
        (finished w reportDate manual db stmts cols).journal := by simp [finished]
    rw [htake]
    exact .inr ⟨rows, run, h⟩

/-- A run that fails nowhere has a report, and all of it in its INSERTs. -/
theorem whole_allStatements {runId : Nat} {rejected : Bool}
    (h : firstFailure w cfg reportDate runId rejected = none) :
    ∃ report, acquire w cfg reportDate = .ok report ∧
      ∀ row ∈ report.getD [], params row runId ∈ (allStatements w cfg reportDate runId).flatten := by
  unfold firstFailure at h
  unfold allStatements
  rcases hacquire : acquire w cfg reportDate with e | _ | rows
  · rw [hacquire] at h
    cases h
  · exact ⟨none, rfl, fun _ hrow => absurd hrow List.not_mem_nil⟩
  · refine ⟨some rows, rfl, fun row hrow => ?_⟩
    simp only [statements_flatten w.executemany rows runId defaultBatchSize_pos]
    exact List.mem_map_of_mem hrow

/-- A process that dies in a run leaves the database as it was, or a run row. -/
theorem left_of_run (w : World) (reportDate : Date) (manual : Bool) (commits : Nat) (db : Db) :
    (Event.run w reportDate manual commits).after db = db ∨
      ∃ rows run, Left w reportDate manual db ((Event.run w reportDate manual commits).after db)
        rows run := by
  rw [Event.after]
  by_cases hstart : ∃ cfg, Starts w cfg
  · obtain ⟨cfg, h⟩ := hstart
    cases hf : firstFailure w cfg reportDate db.runs.nextId
        (repeatsScheduled db reportDate manual) with
    | none =>
      obtain ⟨cols, hok, -, hrun⟩ := runJob_ok h hf
      have hrefuses : Refuses (abandoned w reportDate manual db) db.runs.nextId
          (repeatsScheduled db reportDate manual) := refuses_abandoned
      rw [not_repeats_of_ok hf] at hrefuses
      have hacc := Option.ne_none_iff_exists'.mp fun hn =>
        Bool.false_ne_true ((hrefuses cols hok).mpr hn)
      rw [hrun]
      exact left_passed (left_finished h.load hacc (fun r hr => offered_allStatements hr)
        fun _ => whole_allStatements hf) commits
    | some e =>
      obtain ⟨s, cols, hs, hc, hrun⟩ := runJob_failed h hf
      obtain ⟨s', hs', hne, _⟩ := failureStatus_terminal e
      rw [Option.some.inj (hs.symm.trans hs')] at hc
      cases hk : w.failFinal.statement.or w.failFinal.commit with
      | none =>
        simp only [hk] at hrun
        rw [hrun]
        exact left_passed (left_finished h.load (finalize?_accepted _ _ (hc ▸ hne))
          (fun r hr => offered_leftBehind hr) fun hok => (hne (hc.symm.trans hok)).elim) commits
      | some e' =>
        simp only [hk] at hrun
        rw [hrun]
        rcases commits with _ | n
        · exact .inl rfl
        · refine .inr ⟨[], RunsTable.runningRow db.runs.nextId "Bluewave" reportDate w.startedAt
            manual, ?_⟩
          simp only [abandoned, List.take_succ_cons, List.take_nil]
          exact left_started
  · obtain ⟨e, he⟩ := @runJob_not_started w reportDate manual db hstart
    rw [he, Conn.opened, List.take_nil]
    exact .inl rfl

end

/-! ## A history -/

/-- What writes to the database over the life of the worker, runs with their browsers and files. -/
inductive Happening where
  | run (t : Trip) (reportDate : Date) (manual : Bool) (commits : Nat)
  | reap (f : TxnFaults) (now : Timestamp) (source : String)

def Happening.event : Happening → Accounting.Event
  | .run t reportDate manual commits => .run t.surroundings reportDate manual commits
  | .reap f now source => .reap f now source

/-- The audit table since `start`, against the files of the runs of the past. -/
structure Traced (start db : Db) (past : List Happening) : Prop where
  grown : start.runs.nextId ≤ db.runs.nextId
  /-- the old rows are in place, and each new one holds a record of the file of its run -/
  added : ∃ added, db.audit.rows = start.audit.rows ++ added ∧
    ∀ r ∈ added, ∃ t commits csvPath row, ∃ run ∈ db.runs.rows, start.runs.nextId ≤ run.id ∧
      .run t run.reportDate run.manual commits ∈ past ∧ Fetched t run.reportDate csvPath ∧
      RecordOf t csvPath row ∧ Records row run.id r
  /-- each record of the file of a run that is closed as `ok` is in the table, by its hash -/
  complete : ∀ run ∈ db.runs.rows, start.runs.nextId ≤ run.id → run.status = .ok →
    ∃ t commits, .run t run.reportDate run.manual commits ∈ past ∧
      ∀ csvPath, t.surroundings.scrape run.reportDate = .ok (some csvPath) →
        ∀ row, RecordOf t csvPath row → db.audit.Holds row.dedupHash

section
variable {start db : Db} {past : List Happening}

theorem Traced.later {past' : List Happening} (h : Traced start db past) (hpast : past ⊆ past') :
    Traced start db past' where
  grown := h.grown
  added := by
    obtain ⟨added, hrows, hadded⟩ := h.added
    refine ⟨added, hrows, fun r hr => ?_⟩
    obtain ⟨t, commits, csvPath, row, run, hrun, hid, hmem, hrest⟩ := hadded r hr
    exact ⟨t, commits, csvPath, row, run, hrun, hid, hpast hmem, hrest⟩
  complete run hrun hid hok := by
    obtain ⟨t, commits, hmem, hholds⟩ := h.complete run hrun hid hok
    exact ⟨t, commits, hpast hmem, hholds⟩

/-- A run adds its run row, and rows of its file. -/
theorem Traced.left {db' : Db} {t : Trip} {reportDate : Date} {manual : Bool} {commits : Nat}
    {rows : List AuditRow} {run : RunRow} (h : Traced start db past)
    (hmem : .run t reportDate manual commits ∈ past)
    (hleft : Left t.surroundings reportDate manual db db' rows run) : Traced start db' past := by
  obtain ⟨added, hrows, hadded⟩ := h.added
  have hstart : start.runs.nextId ≤ run.id := hleft.id ▸ h.grown
  have hmine : .run t run.reportDate run.manual commits ∈ past := by
    rw [hleft.dated, hleft.asked]
    exact hmem
  refine ⟨hleft.nextId ▸ Nat.le_succ_of_le h.grown,
    ⟨added ++ db.audit.firsts rows, ?_, fun r hr => ?_⟩, fun run' hrun' hid hok => ?_⟩
  · rw [hleft.audit, AuditTable.insertAll_rows, hrows, List.append_assoc]
  · rcases List.mem_append.mp hr with hr | hr
    · obtain ⟨t', commits', csvPath, row, run', hrun', hrest⟩ := hadded r hr
      exact ⟨t', commits', csvPath, row, run', hleft.runs ▸ List.mem_append_left _ hrun', hrest⟩
    · obtain ⟨cfg, hload, report, hacquire, row, hrow, rfl⟩ :=
        hleft.offered r (AuditTable.mem_firsts hr).1
      obtain ⟨csvPath, hscrape, hrecord⟩ := (mem_report_iff hload hacquire row).mp hrow
      refine ⟨t, commits, csvPath, row, run,
        hleft.runs ▸ List.mem_append_right _ (List.mem_singleton_self _), hstart, hmine, ?_, hrecord,
        params_records row run.id⟩
      rw [hleft.dated]
      exact fetched_of_scrape hscrape
  · rw [hleft.runs] at hrun'
    rcases List.mem_append.mp hrun' with hrun' | hrun'
    · obtain ⟨t', commits', hmem', hholds⟩ := h.complete run' hrun' hid hok
      refine ⟨t', commits', hmem', fun csvPath hscrape row hrecord => ?_⟩
      rw [hleft.audit]
      exact AuditTable.holds_insertAll.mpr (.inl (hholds csvPath hscrape row hrecord))
    · obtain rfl := List.mem_singleton.mp hrun'
      obtain ⟨cfg, report, hload, hacquire, hall⟩ := hleft.complete hok
      refine ⟨t, commits, hmine, fun csvPath hscrape row hrecord => ?_⟩
      rw [hleft.dated] at hscrape
      have hin := hall row ((mem_report_iff hload hacquire row).mpr ⟨csvPath, hscrape, hrecord⟩)
      rw [hleft.audit]
      exact AuditTable.holds_insertAll.mpr (.inr ⟨_, hin, rfl⟩)

/-- A reap closes run rows under a failure status, and leaves what they say of their runs. -/
theorem Traced.reaped {runs : RunsTable} {source : String} {now : Timestamp}
    (h : Traced start db past) (hreap : db.runs.reap? source now reapError = some runs) :
    Traced start { db with runs } past := by
  obtain ⟨hruns, hnext⟩ := RunsTable.updateWhere?_some hreap
  obtain ⟨added, hrows, hadded⟩ := h.added
  refine ⟨hnext ▸ h.grown, ⟨added, hrows, fun r hr => ?_⟩, fun run hrun hid hok => ?_⟩
  · obtain ⟨t, commits, csvPath, row, run, hrun, hid, hmem, hfetched, hrecord, hrecords⟩ :=
      hadded r hr
    refine ⟨t, commits, csvPath, row, _, hruns ▸ List.mem_map_of_mem hrun, ?_⟩
    split <;> exact ⟨hid, hmem, hfetched, hrecord, hrecords⟩
  · rw [hruns] at hrun
    obtain ⟨run, hold, rfl⟩ := List.mem_map.mp hrun
    by_cases hp : decide (run.source = source ∧ run.status = .running) = true
    · rw [if_pos hp] at hok
      cases hok
    · rw [if_neg hp] at hid hok ⊢
      exact h.complete run hold hid hok

theorem Traced.step (h : Traced start db past) (e : Happening) :
    Traced start (e.event.after db) (past ++ [e]) := by
  have hlater : Traced start db (past ++ [e]) := h.later (List.subset_append_left _ _)
  cases e with
  | run t reportDate manual commits =>
    rcases left_of_run t.surroundings reportDate manual commits db with heq | ⟨rows, run, hleft⟩
    · rw [Happening.event, heq]
      exact hlater
    · exact hlater.left (List.mem_append_right _ (List.mem_singleton_self _)) hleft
  | reap f now source =>
    rw [Happening.event]
    rcases after_reap f now source db with heq | ⟨runs, hreap, heq⟩ <;> rw [heq]
    · exact hlater
    · exact hlater.reaped hreap

theorem Traced.run_all {history : List Happening} (h : Traced start db past) :
    Traced start (runAll db (history.map Happening.event)) (past ++ history) := by
  induction history generalizing db past with
  | nil =>
    rw [List.append_nil]
    exact h
  | cons e history ih =>
    have hrest := ih (h.step e)
    rwa [List.append_assoc, List.singleton_append] at hrest

end

/-- The same trip, with other credentials of the site in the config that it loads. -/
def Trip.signedInAs (t : Trip) (user password : String) : Trip :=
  { t with
    world := { t.world with
      load := t.world.load.map (Option.map (Probes.signedInAs · user password)) } }

def Happening.signedIn (credentials : Trip → String × String) : Happening → Happening
  | .run t reportDate manual commits =>
    .run (t.signedInAs (credentials t).1 (credentials t).2) reportDate manual commits
  | .reap f now source => .reap f now source

section
variable {t : Trip} {reportDate : Date} {manual : Bool}

theorem login_alike (url user password user' password' : String) :
    t.surroundings.login url user password = t.surroundings.login url user' password' := by
  show (Logged.outcome _ []).1.mapError t.exn = (Logged.outcome _ []).1.mapError t.exn
  rw [(Credentials.loginAndNavigate_alike t.visit url user password user' password' 30 15 [] []
    .nil).1]

theorem runJob_signedInAs (user password : String) (db : Db) :
    runJob (t.signedInAs user password).surroundings reportDate manual db =
      runJob t.surroundings reportDate manual db := by
  have hconnection : ∀ cfg, runOnConnection (t.signedInAs user password).surroundings
      (Probes.signedInAs cfg user password) reportDate manual =
        runOnConnection t.surroundings cfg reportDate manual := by
    intro cfg
    show runOnConnection t.surroundings (Probes.signedInAs cfg user password) reportDate manual = _
    unfold runOnConnection pipeline
    simp only [Probes.signedInAs,
      login_alike cfg.bluewebUrl user password cfg.bluewebUser cfg.bluewebPassword]
  have hload : (t.signedInAs user password).surroundings.load =
      t.surroundings.load.map (Option.map (Probes.signedInAs · user password)) := rfl
  unfold runJob
  rw [hload]
  rcases t.surroundings.load with e | _ | cfg
  · rfl
  · rfl
  · simp only [Except.map, Option.map_some, hconnection]
    rfl

end

/-- Neither a history's run rows nor its audit rows depend on the credentials of the site. -/
theorem credentials_not_recorded (start : Db) (history : List Happening)
    (credentials : Trip → String × String) :
    runAll start ((history.map (Happening.signedIn credentials)).map Happening.event) =
      runAll start (history.map Happening.event) := by
  have hevent : ∀ e : Happening, ∀ db,
      ((e.signedIn credentials).event).after db = e.event.after db := by
    intro e db
    cases e with
    | run t reportDate manual commits =>
      show replay db ((runJob _ reportDate manual db).2.journal.take commits).flatten = _
      rw [runJob_signedInAs]
      rfl
    | reap f now source => rfl
  unfold runAll
  induction history generalizing start with
  | nil => rfl
  | cons e history ih =>
    simp only [List.map_cons, List.foldl_cons, hevent]
    exact ih _

end Bluewave.Provenance
