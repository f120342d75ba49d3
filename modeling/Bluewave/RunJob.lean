import Bluewave.Config
import Bluewave.Sink
import Bluewave.Runs

/-! `run_job`: one pull of one report date over one MySQL connection. Everything
it calls that is not MySQL is an outcome of `World`; the INSERTs, the success
finalizer and the failure finalizer share the connection's one transaction. -/
namespace Bluewave.RunJob
open Lib Bluewave.Exceptions Bluewave.Tables Bluewave.Sink Bluewave.Runs

/-- How the surroundings of one `run_job` behave. -/
structure World where
  load : Except Exn (Option Config)
  connect : MysqlConfig → Except Exn Unit
  startBrowser : Except Exn Unit
  setDownloadBehavior : Except Exn Unit
  quit : Except Exn Unit
  login : String → String → String → Except Exn Unit
  scrape : Date → Except Exn (Option String)
  transform : String → String → Except Exn (List Row)
  unlink : Except Exn Unit
  traceback : Exn → String
  startedAt : Timestamp
  finishedAt : Timestamp
  executemany : ExecuteMany
  start : TxnFaults
  sink : SinkFaults
  okFinal : TxnFaults
  failFinal : TxnFaults

/-- `with build_driver(...)`: what happens before the yield may raise, the CDP
call and the clean-up behind it may not. -/
def buildDriver {β : Type} (w : World) (body : Session Db Stmt Exn β) : Session Db Stmt Exn β := do
  Session.lift w.startBrowser
  Session.tryFinally
    (do Session.swallow w.setDownloadBehavior
        body)
    (Session.swallow w.quit)

/-- An empty report is a success with zero rows. -/
def finishEmpty (w : World) (runId : Nat) : Session Db Stmt Exn String := do
  finalizeRun w.okFinal w.finishedAt runId "ok"
    { rowsInCsv := some 0, rowsInserted := some 0, rowsDuplicate := some 0 }
  pure "ok"

/-- From the rows to the success finalizer; the CSV is removed behind it. -/
def ingest (w : World) (runId : Nat) (rows : List Row) : Session Db Stmt Exn String := do
  let (inserted, duplicate) ← insertRows w.executemany w.sink rows runId defaultBatchSize
  finalizeRun w.okFinal w.finishedAt runId "ok"
    { rowsInCsv := some rows.length, rowsInserted := some inserted
      rowsDuplicate := some duplicate }
  Session.swallow w.unlink
  pure "ok"

/-- The body of the `try`. -/
def pipeline (w : World) (cfg : Config) (reportDate : Date) (runId : Nat) :
    Session Db Stmt Exn String :=
  buildDriver w do
    Session.lift (w.login cfg.bluewebUrl cfg.bluewebUser cfg.bluewebPassword)
    match ← Session.lift (w.scrape reportDate) with
    | none => finishEmpty w runId
    | some csvPath => do
      let rows ← Session.lift (w.transform csvPath cfg.operatorTimezone)
      ingest w runId rows

/-- The two `except` clauses. `screenshot_path` stays `None` throughout. -/
def recordFailure (w : World) (runId : Nat) : Exn → Session Db Stmt Exn String
  | .runFailure cls message => do
    finalizeRun w.failFinal w.finishedAt runId cls.status { errorExcerpt := some (clip message) }
    pure cls.status
  | e => do
    finalizeRun w.failFinal w.finishedAt runId "ingest_failed"
      { errorExcerpt := some (clip (w.traceback e)) }
    pure "ingest_failed"

/-- The body of `with connect(...)`. -/
def runOnConnection (w : World) (cfg : Config) (reportDate : Date) (manual : Bool) :
    Session Db Stmt Exn String := do
  let runId ← startRun w.start w.startedAt "Bluewave" reportDate manual
  Session.tryExcept (pipeline w cfg reportDate runId) (recordFailure w runId)

/-- `run_job`, with the connection as it is after closing: closing drops the
open transaction. -/
def runJob (w : World) (reportDate : Date) (manual : Bool) (db : Db) :
    Except Exn String × Conn Db Stmt :=
  match w.load with
  | .error e => (.error e, .opened db)
  | .ok none =>
    (.error (.other "RuntimeError" "run_job invoked without a saved config"), .opened db)
  | .ok (some cfg) =>
    match w.connect cfg.mysql with
    | .error e => (.error e, .opened db)
    | .ok () =>
      (((runOnConnection w cfg reportDate manual).run (.opened db)).1,
        ((runOnConnection w cfg reportDate manual).run (.opened db)).2.rollback)

/-! ## The first failing step -/

/-- The steps up to the rows: browser, login, scrape, transform. -/
def acquire (w : World) (cfg : Config) (reportDate : Date) : Except Exn (Option (List Row)) := do
  w.startBrowser
  w.login cfg.bluewebUrl cfg.bluewebUser cfg.bluewebPassword
  match ← w.scrape reportDate with
  | none => pure none
  | some csvPath => do
    let rows ← w.transform csvPath cfg.operatorTimezone
    pure (some rows)

/-- What the first failing step of the `try` body raises. `rejected` says that
`uk_ok_scheduled_date` refuses the UPDATE to `ok`. -/
def firstFailure (w : World) (cfg : Config) (reportDate : Date) (runId : Nat) (rejected : Bool) :
    Option Exn :=
  match acquire w cfg reportDate with
  | .error e => some e
  | .ok none => finalizeFailure w.okFinal rejected
  | .ok (some rows) =>
    (insertFailure w.executemany w.sink rows runId defaultBatchSize).or
      (finalizeFailure w.okFinal rejected)

/-- The INSERT statements standing in the open transaction when the failure
finalizer starts: those that succeeded, unless a failing COMMIT took them along. -/
def leftBehind (w : World) (cfg : Config) (reportDate : Date) (runId : Nat) (rejected : Bool) :
    List (List AuditRow) :=
  match acquire w cfg reportDate with
  | .ok (some rows) =>
    if insertFailure w.executemany w.sink rows runId defaultBatchSize = none ∧
        w.okFinal.statement = none ∧ rejected = false then []
    else landedStatements w.executemany w.sink rows runId defaultBatchSize
  | _ => []

/-- The INSERT statements of a run that fails nowhere. -/
def allStatements (w : World) (cfg : Config) (reportDate : Date) (runId : Nat) :
    List (List AuditRow) :=
  match acquire w cfg reportDate with
  | .ok (some rows) => statements w.executemany rows runId defaultBatchSize
  | _ => []

/-- The second scheduled `ok` of a date is the one that is refused. -/
def repeatsScheduled (db : Db) (reportDate : Date) (manual : Bool) : Bool :=
  manual = false ∧ db.runs.rows.any (okScheduled "Bluewave" reportDate) = true

/-! ## Spec of the `try` body -/

/-- The counts of a finalizing UPDATE add up. -/
def Balanced (cols : Terminal) : Prop :=
  ∃ n i d : Int, cols.rowsInCsv = some n ∧ cols.rowsInserted = some i ∧
    cols.rowsDuplicate = some d ∧ n = i + d

section
variable {w : World} {cfg : Config} {reportDate : Date} {runId : Nat}

theorem buildDriver_run {β : Type} (w : World) (body : Session Db Stmt Exn β) (c : Conn Db Stmt) :
    (buildDriver w body).run c =
      match w.startBrowser with
      | .error e => (.error e, c)
      | .ok () => body.run c := by
  rw [buildDriver]
  cases w.startBrowser with
  | error e => exact Session.bind_error (Session.run_lift ..)
  | ok u => exact Session.bind_ok (Session.run_lift ..)

/-- Nothing before the rows touches the connection. -/
theorem pipeline_run (w : World) (cfg : Config) (reportDate : Date) (runId : Nat)
    (c : Conn Db Stmt) :
    (pipeline w cfg reportDate runId).run c =
      match acquire w cfg reportDate with
      | .error e => (.error e, c)
      | .ok none => (finishEmpty w runId).run c
      | .ok (some rows) => (ingest w runId rows).run c := by
  rw [pipeline, buildDriver_run, acquire]
  cases w.startBrowser with
  | error e => rfl
  | ok u =>
    simp only
    cases hl : w.login cfg.bluewebUrl cfg.bluewebUser cfg.bluewebPassword with
    | error e => exact Session.bind_error (Session.run_lift ..)
    | ok u =>
      rw [Session.bind_ok (Session.run_lift ..)]
      cases hs : w.scrape reportDate with
      | error e => exact Session.bind_error (Session.run_lift ..)
      | ok path =>
        rw [Session.bind_ok (Session.run_lift ..)]
        cases path with
        | none => rfl
        | some csvPath =>
          simp only [bind, Except.bind]
          cases w.transform csvPath cfg.operatorTimezone with
          | error e => rfl
          | ok rows => rfl

/-- Whether the UPDATE to `ok` of this run is refused, on the connection as it stands. -/
def Refuses (c : Conn Db Stmt) (runId : Nat) (rejected : Bool) : Prop :=
  ∀ cols : Terminal, cols.status = .ok →
    (rejected = true ↔ c.working.runs.finalize? runId cols = none)

/-- INSERTs into the audit table have no say in it. -/
theorem Refuses.push {c : Conn Db Stmt} {rejected : Bool} (h : Refuses c runId rejected)
    (stmts : List (List AuditRow)) : Refuses (c.push (stmts.map .insertAudit)) runId rejected := by
  intro cols hok
  rw [Conn.working_push, replay_insertAudit]
  exact h cols hok

/-- The success finalizer, whatever counts it writes. -/
theorem finalizeOk_run {c : Conn Db Stmt} {rejected : Bool} (h : Refuses c runId rejected)
    (d : Details) :
    (finalizeRun w.okFinal w.finishedAt runId "ok" d).run c =
      match finalizeFailure w.okFinal rejected with
      | none => (.ok (), (c.push [.updateRun runId (finalColumns w.finishedAt .ok d)]).commit)
      | some e =>
        (.error e, if w.okFinal.statement = none ∧ rejected = false then c.rollback else c) := by
  have hst : terminal? "ok" = some .ok := by decide
  cases hf : finalizeFailure w.okFinal rejected with
  | some e => exact finalizeRun_error hst (h _ rfl) hf
  | none =>
    have hrej : rejected = false := by
      cases rejected with
      | false => rfl
      | true => simp [finalizeFailure] at hf
    subst hrej
    obtain ⟨runs, hruns⟩ := Option.ne_none_iff_exists'.mp
      fun hn => Bool.false_ne_true ((h (finalColumns w.finishedAt .ok d) rfl).mpr hn)
    exact finalizeRun_ok hst hruns hf

theorem finishEmpty_run {c : Conn Db Stmt} {rejected : Bool} (h : Refuses c runId rejected)
    (hclean : c.pending = []) :
    ∃ cols : Terminal, cols.status = .ok ∧ Balanced cols ∧
      (finishEmpty w runId).run c =
        match finalizeFailure w.okFinal rejected with
        | none => (.ok "ok", (c.push [.updateRun runId cols]).commit)
        | some e => (.error e, c) := by
  refine ⟨finalColumns w.finishedAt .ok { rowsInCsv := some 0, rowsInserted := some 0
                                          rowsDuplicate := some 0 }, rfl,
    ⟨0, 0, 0, rfl, rfl, rfl, rfl⟩, ?_⟩
  have hrun := finalizeOk_run (w := w) h { rowsInCsv := some 0, rowsInserted := some 0
                                           rowsDuplicate := some 0 }
  have hroll : c.rollback = c := by simpa using Conn.rollback_push [] hclean
  rw [finishEmpty]
  cases hf : finalizeFailure w.okFinal rejected with
  | none => rw [hf] at hrun; rw [Session.bind_ok hrun, Session.run_pure]
  | some e =>
    rw [hf, hroll, ite_self] at hrun
    rw [Session.bind_error hrun]

theorem ingest_run {c : Conn Db Stmt} {rejected : Bool} (h : Refuses c runId rejected)
    (hclean : c.pending = []) (rows : List Row) :
    ∃ cols : Terminal, cols.status = .ok ∧ Balanced cols ∧
      (ingest w runId rows).run c =
        match (insertFailure w.executemany w.sink rows runId defaultBatchSize).or
            (finalizeFailure w.okFinal rejected) with
        | none => (.ok "ok", (c.push ((statements w.executemany rows runId defaultBatchSize).map
            .insertAudit ++ [.updateRun runId cols])).commit)
        | some e => (.error e, c.push ((
            if insertFailure w.executemany w.sink rows runId defaultBatchSize = none ∧
                w.okFinal.statement = none ∧ rejected = false then []
            else landedStatements w.executemany w.sink rows runId defaultBatchSize).map
              .insertAudit)) := by
  obtain ⟨inserted, hins⟩ := insertRows_run w.executemany w.sink rows runId defaultBatchSize_pos c
  let d : Details := { rowsInCsv := some rows.length, rowsInserted := some inserted
                       rowsDuplicate := some (rows.length - inserted) }
  refine ⟨finalColumns w.finishedAt .ok d, rfl,
    ⟨rows.length, inserted, rows.length - inserted, rfl, rfl, rfl, by omega⟩, ?_⟩
  rw [ingest]
  cases hf : insertFailure w.executemany w.sink rows runId defaultBatchSize with
  | some e =>
    rw [hf] at hins
    rw [Session.bind_error hins]
    simp
  | none =>
    rw [hf] at hins
    rw [Session.bind_ok hins]
    -- every statement landed, so the finalizer starts behind all of them
    have hall := landedStatements_of_ok hf
    have hfin := finalizeOk_run (w := w)
      (h.push (landedStatements w.executemany w.sink rows runId defaultBatchSize)) d
    cases hk : finalizeFailure w.okFinal rejected with
    | none =>
      rw [hk] at hfin
      rw [Session.bind_ok hfin, Session.bind_ok (Session.run_swallow ..), Session.run_pure, hall,
        Conn.push_push]
      rfl
    | some e =>
      rw [hk] at hfin
      rw [Session.bind_error hfin]
      by_cases hc : w.okFinal.statement = none ∧ rejected = false
      · simp [hc, Conn.rollback_push _ hclean]
      · simp [hc]

/-- A `try` body that fails nowhere has committed its INSERTs and one UPDATE to `ok`. -/
theorem pipeline_ok {c : Conn Db Stmt} {rejected : Bool} (h : Refuses c runId rejected)
    (hclean : c.pending = []) (hf : firstFailure w cfg reportDate runId rejected = none) :
    ∃ cols : Terminal, cols.status = .ok ∧ Balanced cols ∧
      (pipeline w cfg reportDate runId).run c = (.ok "ok",
        (c.push ((allStatements w cfg reportDate runId).map .insertAudit ++
          [.updateRun runId cols])).commit) := by
  rw [pipeline_run]
  unfold firstFailure at hf
  unfold allStatements
  match ha : acquire w cfg reportDate with
  | .error e => rw [ha] at hf; cases hf
  | .ok none =>
    simp only [ha] at hf
    obtain ⟨cols, hok, hbal, hrun⟩ := finishEmpty_run h hclean
    rw [hf] at hrun
    exact ⟨cols, hok, hbal, hrun⟩
  | .ok (some rows) =>
    simp only [ha] at hf
    obtain ⟨cols, hok, hbal, hrun⟩ := ingest_run h hclean rows
    rw [hf] at hrun
    exact ⟨cols, hok, hbal, hrun⟩

/-- One that fails has committed nothing. -/
theorem pipeline_error {c : Conn Db Stmt} {rejected : Bool} {e : Exn}
    (h : Refuses c runId rejected) (hclean : c.pending = [])
    (hf : firstFailure w cfg reportDate runId rejected = some e) :
    (pipeline w cfg reportDate runId).run c = (.error e,
      c.push ((leftBehind w cfg reportDate runId rejected).map .insertAudit)) := by
  rw [pipeline_run]
  unfold firstFailure at hf
  unfold leftBehind
  match ha : acquire w cfg reportDate with
  | .error e' =>
    simp only [ha, Option.some.injEq] at hf
    simp [hf]
  | .ok none =>
    simp only [ha] at hf
    obtain ⟨cols, _, _, hrun⟩ := finishEmpty_run h hclean
    rw [hf] at hrun
    simpa using hrun
  | .ok (some rows) =>
    simp only [ha] at hf
    obtain ⟨cols, _, _, hrun⟩ := ingest_run h hclean rows
    rw [hf] at hrun
    exact hrun

end

/-! ## Fixed surroundings -/

def someConfig : Config where
  siteLabel := "site"
  bluewebUrl := "http://blueweb/"
  bluewebUser := "operator"
  bluewebPassword := "secret"
  operatorTimezone := "UTC"
  mysqlHost := "db"
  mysqlPort := 3306
  mysqlDatabase := "bluewave"
  mysqlUser := "worker"
  mysqlPassword := "secret"
  scheduleLocal := "06:00"
  catchUpCapDays := 7

/-- 2026-05-01. -/
def someDay : Date := ⟨739737, by decide, by decide⟩

def emptyDb : Db := ⟨.empty foldCase, .empty⟩

/-- The row of a report line with a time, a door and a description. -/
def someRow : Row where
  timestamp := 1777622400000000
  source := "Bluewave"
  operation := "Valid Access"
  instance_ := "Door 1"
  userName := none
  userId := none
  extraDataStr := none
  dedupHash := "5c08ccf4881de95db908c6355d7dc4a34d0176a54a95133e7990c1471c040978"

/-- Nothing fails, the report is empty, a batch is one statement. -/
def calm : World where
  load := .ok (some someConfig)
  connect := fun _ => .ok ()
  startBrowser := .ok ()
  setDownloadBehavior := .ok ()
  quit := .ok ()
  login := fun _ _ _ => .ok ()
  scrape := fun _ => .ok none
  transform := fun _ _ => .ok []
  unlink := .ok ()
  traceback := fun _ => "Traceback (most recent call last)"
  startedAt := 0
  finishedAt := 1
  executemany := ⟨fun rows => [rows], by simp⟩
  start := ⟨none, none⟩
  sink := ⟨fun _ => none, none⟩
  okFinal := ⟨none, none⟩
  failFinal := ⟨none, none⟩

def World.loginFails (w : World) (message : String) : World :=
  { w with login := fun _ _ _ => .error (.runFailure .authFailed message) }

/-- The scraped report holds these rows. -/
def World.reporting (w : World) (rows : List Row) : World :=
  { w with scrape := fun _ => .ok (some "report.csv"), transform := fun _ _ => .ok rows }

end Bluewave.RunJob
