import Bluewave.CsvFile
import Bluewave.DryRun

/-! `dry_run` with what it reads and what it leaves behind: the file it downloads is read by
three readers, one after the other, and only the third of them inside a `try`. -/
namespace Bluewave.DryRunSafety
open Lib Bluewave.Exceptions Bluewave.Tables Bluewave.Dedup Bluewave.Transform
open Bluewave.CsvFile Bluewave.Sink Bluewave.RunJob Bluewave.DryRun

/-- `sum(1 for _ in reader)` behind the header. -/
def countRows (reading : Reading) : Except Exn Nat :=
  match reading.failure with
  | some e => .error e
  | none => .ok (countCsvRows reading.records)

/-- The preview stops at the first record past the limit, and sees nothing behind it. -/
def preview (reading : Reading) (limit : Nat) : Except Exn (List (List (String × String))) :=
  if limit < (reading.records.drop 1).length then .ok (csvPreview reading.records limit)
  else
    match reading.failure with
    | some e => .error e
    | none => .ok (csvPreview reading.records limit)

/-- The surroundings of a dry run whose readers all see the same file. -/
structure Surroundings extends DryWorld where
  runtime : Runtime
  /-- the bytes behind a path, as an open file hands them out -/
  file : String → List (List UInt8)
  /-- whether `shutil.rmtree(ignore_errors=True)` clears the directory -/
  rmtree : Bool
  readCsv_file : ∀ csvPath, readCsv csvPath = match (CsvFile.readCsv (file csvPath)).failure with
    | some e => .error e
    | none => .ok (CsvFile.readCsv (file csvPath)).records
  transform_file : ∀ csvPath timezone, transform csvPath timezone =
    Transform.transform runtime (.ok (CsvFile.readCsv (file csvPath))) csvPath timezone
      dedupSourceBluewave
  strftimeYear_runtime : strftimeYear = runtime.strftimeYear

/-- The loop of `_existing_hashes` over the chunks. -/
def selectChunks (fault : Nat → Option Exn) : Nat → List (List Row) → Session Db Stmt Exn (List String)
  | _, [] => pure []
  | k, batch :: batches => do
    let found ← Session.query (fault k) fun db => selectHashes db.audit (batch.map Row.dedupHash)
    let rest ← selectChunks fault (k + 1) batches
    pure (found ++ rest)

/-- `_existing_hashes`. -/
def lookup (w : Surroundings) (cfg : MysqlConfig) (rows : List Row) :
    Session Db Stmt Exn (List String) :=
  if rows = [] then pure []
  else do
    Session.lift (w.connect cfg)
    selectChunks w.select 0 (chunks rows existingHashChunk)

/-- The body of the outer `try`. -/
def body (w : Surroundings) (cfg : Config) (reportDate : Date) : Session Db Stmt Exn DryRunResult :=
  match scraped w.toDryWorld cfg reportDate with
  | .error e => pure { reportDate, status := "failed", error := some (scrapeError e) }
  | .ok none => pure { reportDate, status := "empty" }
  | .ok (some csvPath) => do
    let csvRowsTotal ← Session.lift (countRows (CsvFile.readCsv (w.file csvPath)))
    let csvPreview ← Session.lift (preview (CsvFile.readCsv (w.file csvPath)) previewLimit)
    match w.transform csvPath cfg.operatorTimezone with
    | .error e =>
      pure { reportDate, status := "failed", error := some ("transform failed: " ++ message e)
             csvRowsTotal, csvPreview }
    | .ok rows => do
      let existing ← Session.tryExcept (lookup w cfg.mysql rows) fun _ => pure []
      let wouldSkip := rows.countP fun r => r.dedupHash ∈ existing
      pure { reportDate, status := "ok", csvRowsTotal, csvPreview, transformedRowsTotal := rows.length
             transformedPreview := (rows.take previewLimit).map (rowToPreview w.strftimeYear)
             wouldInsert := rows.length - wouldSkip, wouldSkipDuplicate := wouldSkip }

/-- What a dry run comes to: its result, the connection it looked up on and whether its
download directory is there. -/
structure Aftermath where
  result : Except Exn DryRunResult
  conn : Conn Db Stmt
  directory : Bool

/-- `dry_run`. The `finally` removes the file and then the directory, and does not raise. -/
def dryRun (w : Surroundings) (reportDate : Date) (db : Db) : Aftermath :=
  match w.load with
  | .error e => ⟨.error e, .opened db, false⟩
  | .ok none =>
    ⟨.ok { reportDate, status := "failed", error := some "worker is not configured" },
      .opened db, false⟩
  | .ok (some cfg) =>
    match w.mkdtemp with
    | .error e => ⟨.error e, .opened db, false⟩
    | .ok () =>
      let (result, conn) := (body w cfg reportDate).run (.opened db)
      ⟨result, conn, !w.rmtree⟩

/-- A result of one of three kinds, nothing written, no directory left; the counts of an `ok`
add up. -/
structure Answers (a : Aftermath) (db : Db) : Prop where
  answer : ∃ res, a.result = .ok res ∧ res.status ∈ ["ok", "empty", "failed"] ∧
    (res.status = "ok" → res.csvRowsTotal = res.transformedRowsTotal ∧
      res.wouldInsert + res.wouldSkipDuplicate = res.csvRowsTotal)
  conn : a.conn = .opened db
  directory : a.directory = false

/-- What it takes for that: a config that loads, a directory that comes and goes, and a report
that can be read to its end. -/
def Sound (w : Surroundings) (reportDate : Date) : Prop :=
  ∃ stored, w.load = .ok stored ∧ ∀ cfg, stored = some cfg →
    w.mkdtemp = .ok () ∧ w.rmtree = true ∧
      ∀ csvPath, scraped w.toDryWorld cfg reportDate = .ok (some csvPath) →
        Readable (w.file csvPath).flatten

/-! ## The lookup writes nothing -/

section
variable {w : Surroundings} {cfg : Config} {reportDate : Date} {db : Db}

theorem selectChunks_run (fault : Nat → Option Exn) (k : Nat) (batches : List (List Row)) :
    (selectChunks fault k batches).run (.opened db) =
      (selectAll fault db.audit k batches, .opened db) := by
  induction batches generalizing k with
  | nil => rfl
  | cons batch batches ih =>
    simp only [selectChunks, selectAll]
    cases fault k with
    | some e => exact Session.bind_error rfl
    | none =>
      rw [Session.bind_ok (Session.query_ok _ _)]
      cases hrest : selectAll fault db.audit (k + 1) batches with
      | error e => exact Session.bind_error ((ih (k + 1)).trans (by rw [hrest]))
      | ok rest =>
        rw [Session.bind_ok ((ih (k + 1)).trans (by rw [hrest]))]
        rfl

theorem lookup_run (cfg : MysqlConfig) (rows : List Row) :
    (lookup w cfg rows).run (.opened db) =
      (existingHashes w.toDryWorld cfg db.audit rows, .opened db) := by
  unfold lookup existingHashes
  split
  · rfl
  · cases hconnect : w.connect cfg with
    | error e => exact Session.bind_error (Session.run_lift ..)
    | ok u =>
      rw [Session.bind_ok (Session.run_lift ..)]
      exact selectChunks_run ..

/-! ## The three readers -/

/-- A file that breaks off stops the first reader. -/
theorem body_unreadable {csvPath : String} {e : Exn}
    (hscrape : scraped w.toDryWorld cfg reportDate = .ok (some csvPath))
    (hfailure : (CsvFile.readCsv (w.file csvPath)).failure = some e) (c : Conn Db Stmt) :
    (body w cfg reportDate).run c = (.error e, c) := by
  have hcount : countRows (CsvFile.readCsv (w.file csvPath)) = .error e := by
    simp only [countRows, hfailure]
  simp only [body, hscrape]
  exact Session.bind_error (by rw [hcount]; rfl)

/-- The second one goes on where the first one came to the end. -/
theorem body_readable {csvPath : String}
    (hscrape : scraped w.toDryWorld cfg reportDate = .ok (some csvPath))
    (hfailure : (CsvFile.readCsv (w.file csvPath)).failure = none) :
    (body w cfg reportDate).run (.opened db) =
      (match w.transform csvPath cfg.operatorTimezone with
        | .error e =>
          .ok { reportDate, status := "failed", error := some ("transform failed: " ++ message e)
                csvRowsTotal := countCsvRows (CsvFile.readCsv (w.file csvPath)).records
                csvPreview := csvPreview (CsvFile.readCsv (w.file csvPath)).records previewLimit }
        | .ok rows => .ok (countAgainst w.toDryWorld cfg reportDate db.audit
            (CsvFile.readCsv (w.file csvPath)).records rows), .opened db) := by
  have hcount : countRows (CsvFile.readCsv (w.file csvPath)) =
      .ok (countCsvRows (CsvFile.readCsv (w.file csvPath)).records) := by
    simp only [countRows, hfailure]
  have hpreview : preview (CsvFile.readCsv (w.file csvPath)) previewLimit =
      .ok (csvPreview (CsvFile.readCsv (w.file csvPath)).records previewLimit) := by
    simp only [preview, hfailure, ite_self]
  simp only [body, hscrape, hcount, hpreview]
  rw [Session.bind_ok (Session.run_lift ..), Session.bind_ok (Session.run_lift ..)]
  cases w.transform csvPath cfg.operatorTimezone with
  | error e => rfl
  | ok rows =>
    simp only [countAgainst]
    cases hexisting : existingHashes w.toDryWorld cfg.mysql db.audit rows with
    | ok existing =>
      rw [Session.bind_ok (Session.tryExcept_ok ((lookup_run ..).trans (by rw [hexisting])))]
      rfl
    | error e =>
      rw [Session.bind_ok (Session.tryExcept_error ((lookup_run ..).trans (by rw [hexisting])))]
      rfl

/-- The result is the one of the dry run without its surroundings, and the connection is as it
was opened. -/
theorem dryRun_eq (w : Surroundings) (reportDate : Date) (db : Db) :
    (dryRun w reportDate db).result = DryRun.dryRun w.toDryWorld reportDate db.audit ∧
      (dryRun w reportDate db).conn = .opened db := by
  unfold dryRun DryRun.dryRun
  cases w.load with
  | error e => exact ⟨rfl, rfl⟩
  | ok stored =>
    cases stored with
    | none => exact ⟨rfl, rfl⟩
    | some cfg =>
      simp only [bind, Except.bind]
      cases w.mkdtemp with
      | error e => exact ⟨rfl, rfl⟩
      | ok u =>
        simp only
        cases hscrape : scraped w.toDryWorld cfg reportDate with
        | error e =>
          simp only [body, hscrape, Session.run_pure]
          exact ⟨rfl, trivial⟩
        | ok path =>
          cases path with
          | none =>
            simp only [body, hscrape, Session.run_pure]
            exact ⟨rfl, trivial⟩
          | some csvPath =>
            simp only [w.readCsv_file csvPath]
            cases hfailure : (CsvFile.readCsv (w.file csvPath)).failure with
            | some e =>
              simp only [body_unreadable hscrape hfailure, and_self]
            | none =>
              simp only [body_readable hscrape hfailure]
              cases w.transform csvPath cfg.operatorTimezone with
              | error e => exact ⟨rfl, trivial⟩
              | ok rows => exact ⟨rfl, trivial⟩

/-! ## The counts -/

/-- There is a row for each record behind the header. -/
theorem transform_length {rt : Runtime} {records : List (List String)} {rows : List Row}
    {csvPath timezone source : String}
    (h : Transform.transform rt (.ok ⟨records, none⟩) csvPath timezone source = .ok rows) :
    countCsvRows records = rows.length := by
  cases hzone : rt.zoneInfo timezone with
  | error text =>
    simp only [Transform.transform, hzone] at h
    cases h
  | ok tz =>
    rw [countCsvRows, List.drop_one]
    exact ((transform_exact rt hzone csvPath source records).2.1 rows h).length_eq

theorem countAgainst_adds (records : List (List String)) (rows : List Row)
    (h : countCsvRows records = rows.length) :
    (countAgainst w.toDryWorld cfg reportDate db.audit records rows).csvRowsTotal =
        (countAgainst w.toDryWorld cfg reportDate db.audit records rows).transformedRowsTotal ∧
      (countAgainst w.toDryWorld cfg reportDate db.audit records rows).wouldInsert +
          (countAgainst w.toDryWorld cfg reportDate db.audit records rows).wouldSkipDuplicate =
        (countAgainst w.toDryWorld cfg reportDate db.audit records rows).csvRowsTotal := by
  refine ⟨h, ?_⟩
  simp only [countAgainst, h]
  omega

/-- With a directory, the dry run answers exactly when what it downloads can be read. -/
theorem answers_of_config (hload : w.load = .ok (some cfg)) (hdir : w.mkdtemp = .ok ()) :
    (∃ res, DryRun.dryRun w.toDryWorld reportDate db.audit = .ok res ∧
      res.status ∈ ["ok", "empty", "failed"] ∧
      (res.status = "ok" → res.csvRowsTotal = res.transformedRowsTotal ∧
        res.wouldInsert + res.wouldSkipDuplicate = res.csvRowsTotal)) ↔
      ∀ csvPath, scraped w.toDryWorld cfg reportDate = .ok (some csvPath) →
        Readable (w.file csvPath).flatten := by
  simp only [DryRun.dryRun, hload, hdir, bind, Except.bind]
  cases scraped w.toDryWorld cfg reportDate with
  | error e => exact iff_of_true ⟨_, rfl, by simp, by simp⟩ (by simp)
  | ok path =>
    cases path with
    | none => exact iff_of_true ⟨_, rfl, by simp, by simp⟩ (by simp)
    | some csvPath =>
      simp only [Except.ok.injEq, Option.some.injEq, forall_eq', ← readCsv_failure_eq_none,
        w.readCsv_file csvPath, w.transform_file csvPath]
      generalize CsvFile.readCsv (w.file csvPath) = reading
      obtain ⟨records, failure⟩ := reading
      cases failure with
      | some e => simp
      | none =>
        refine iff_of_true ?_ rfl
        simp only
        cases hrows : Transform.transform w.runtime (.ok ⟨records, none⟩) csvPath
            cfg.operatorTimezone dedupSourceBluewave with
        | error e => exact ⟨_, rfl, by simp, by simp⟩
        | ok rows =>
          exact ⟨_, rfl, by simp [countAgainst], fun _ =>
            countAgainst_adds records rows (transform_length hrows)⟩

end

/-- A dry run answers, writes nothing and leaves no directory exactly when it has a config and
a directory of its own and the report, if it gets one, can be read to its end. -/
theorem answers_iff (w : Surroundings) (reportDate : Date) (db : Db) :
    Answers (dryRun w reportDate db) db ↔ Sound w reportDate := by
  obtain ⟨hresult, hconn⟩ := dryRun_eq w reportDate db
  cases hload : w.load with
  | error e =>
    refine iff_of_false ?_ ?_
    · intro h
      obtain ⟨res, hres, -⟩ := h.answer
      simp only [dryRun, hload] at hres
      cases hres
    · intro h
      obtain ⟨stored, hstored, -⟩ := h
      rw [hload] at hstored
      cases hstored
  | ok stored =>
    cases stored with
    | none =>
      refine iff_of_true ⟨?_, hconn, ?_⟩ ⟨none, hload, fun _ h => nomatch h⟩
      · simp only [dryRun, hload]
        exact ⟨_, rfl, by simp, by simp⟩
      · simp only [dryRun, hload]
    | some cfg =>
      have hsound : Sound w reportDate ↔ w.mkdtemp = .ok () ∧ w.rmtree = true ∧
          ∀ csvPath, scraped w.toDryWorld cfg reportDate = .ok (some csvPath) →
            Readable (w.file csvPath).flatten := by
        simp [Sound, hload]
      rw [hsound]
      cases hdir : w.mkdtemp with
      | error e =>
        refine iff_of_false ?_ (by simp)
        intro h
        obtain ⟨res, hres, -⟩ := h.answer
        simp only [dryRun, hload, hdir] at hres
        cases hres
      | ok u =>
        have hdirectory : (dryRun w reportDate db).directory = !w.rmtree := by
          simp only [dryRun, hload, hdir]
        simp only [true_and, ← @answers_of_config w cfg reportDate db hload hdir, ← hresult]
        constructor
        · intro h
          have hleft := h.directory
          rw [hdirectory] at hleft
          exact ⟨by simpa using hleft, h.answer⟩
        · intro h
          obtain ⟨hremoved, hanswer⟩ := h
          exact ⟨hanswer, hconn, by rw [hdirectory, hremoved]; rfl⟩

/-- Nothing fails, and the report is a file with these bytes. -/
def downloading (pieces : List (List UInt8)) : Surroundings where
  toDryWorld :=
    { calm with
      scrape := fun _ => .ok (some "report.csv")
      transform := fun csvPath timezone => Transform.transform knowingNewYork
        (.ok (CsvFile.readCsv pieces)) csvPath timezone dedupSourceBluewave
      mkdtemp := .ok ()
      readCsv := fun _ => match (CsvFile.readCsv pieces).failure with
        | some e => .error e
        | none => .ok (CsvFile.readCsv pieces).records
      select := fun _ => none
      strftimeYear := knowingNewYork.strftimeYear }
  runtime := knowingNewYork
  file _ := pieces
  rmtree := true
  readCsv_file _ := rfl
  transform_file _ _ := rfl
  strftimeYear_runtime := rfl

theorem not_answers_latin1 :
    (dryRun (downloading latin1) someDay emptyDb).result = .error (.other "UnicodeDecodeError"
        "'utf-8' codec can't decode byte 0xe9 in position 3: invalid continuation byte") ∧
      ¬ Answers (dryRun (downloading latin1) someDay emptyDb) emptyDb := by
  have hresult : (dryRun (downloading latin1) someDay emptyDb).result =
      .error (.other "UnicodeDecodeError"
        "'utf-8' codec can't decode byte 0xe9 in position 3: invalid continuation byte") := by
    decide
  refine ⟨hresult, fun h => ?_⟩
  obtain ⟨res, hres, -⟩ := h.answer
  rw [hresult] at hres
  cases hres

end Bluewave.DryRunSafety
