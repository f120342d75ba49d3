import Bluewave.Atomicity
import Bluewave.Schema

/-! Runs against a shared table that has drifted. `validate` can tell, and
`exceptions.py` has a class and a status for it, but nothing on the way from
`run_job` to the INSERT asks: `run_job` has no argument for what
`information_schema` says, and `SchemaDriftError` is raised nowhere. -/
namespace Bluewave.Drift
open Lib Bluewave.Exceptions Bluewave.Tables Bluewave.Sink Bluewave.Runs
open Bluewave.RunJob Bluewave.RunOutcome Bluewave.Atomicity Bluewave.Schema

/-- The database server: its content, and what it says of the shared table. -/
structure Server where
  schema : InformationSchema
  db : Db

/-- With a drifted table a run inserts nothing and ends as `schema_drift`. -/
def StopsOnDrift (repr : String → String) (w : World) (reportDate : Date) (manual : Bool)
    (server : Server) (database : String) : Prop :=
  Drifted repr server.schema database →
    (runJob w reportDate manual server.db).1 = .ok "schema_drift" ∧
      (runJob w reportDate manual server.db).2.durable.audit = server.db.audit

/-- A step of the run raises `SchemaDriftError` by itself, and the failure finalizer
commits no new row. -/
def RaisesDrift (w : World) (reportDate : Date) (manual : Bool) (db : Db) : Prop :=
  ∃ cfg message, Starts w cfg ∧ w.failFinal.statement = none ∧ w.failFinal.commit = none ∧
    firstFailure w cfg reportDate db.runs.nextId (repeatsScheduled db reportDate manual) =
      some (.runFailure .schemaDriftError message) ∧
    ∀ row ∈ (leftBehind w cfg reportDate db.runs.nextId
        (repeatsScheduled db reportDate manual)).flatten,
      db.audit.Holds row.dedupHash

theorem failureStatus_drift {e : Exn} :
    failureStatus e = "schema_drift" ↔ ∃ message, e = .runFailure .schemaDriftError message := by
  constructor
  · intro h
    cases e with
    | runFailure cls message =>
      have hcls : cls = .schemaDriftError := by cases cls <;> simp_all [failureStatus, RunFailure.status]
      exact ⟨message, hcls ▸ rfl⟩
    | other type text => simp [failureStatus] at h
  · intro h
    obtain ⟨message, rfl⟩ := h
    rfl

/-- The status and the untouched audit table, read off the first failing step. -/
theorem runJob_drift_iff {w : World} {reportDate : Date} {manual : Bool} {db : Db} :
    ((runJob w reportDate manual db).1 = .ok "schema_drift" ∧
        (runJob w reportDate manual db).2.durable.audit = db.audit) ↔
      RaisesDrift w reportDate manual db := by
  constructor
  · intro h
    obtain ⟨hrun, haudit⟩ := h
    obtain ⟨cfg, e, hstart, hstmt, hcommit, hf⟩ := runJob_not_ok hrun (by decide)
    obtain ⟨hstatus, hleft⟩ := runJob_failed_audit hstart hstmt hcommit hf
    have hdrift : failureStatus e = "schema_drift" := by
      rw [hrun] at hstatus
      exact (Except.ok.inj hstatus).symm
    obtain ⟨message, rfl⟩ := failureStatus_drift.mp hdrift
    rw [hleft] at haudit
    exact ⟨cfg, message, hstart, hstmt, hcommit, hf, AuditTable.insertAll_eq_self_iff.mp haudit⟩
  · intro h
    obtain ⟨cfg, message, hstart, hstmt, hcommit, hf, hkeys⟩ := h
    obtain ⟨hstatus, hleft⟩ := runJob_failed_audit hstart hstmt hcommit hf
    exact ⟨hstatus, hleft.trans (AuditTable.insertAll_eq_self_iff.mpr hkeys)⟩

/-- A run stops on drift exactly when there is none to stop on, or when a step
raises the error of its own accord, which none does. -/
theorem stopsOnDrift_iff (repr : String → String) (w : World) (reportDate : Date) (manual : Bool)
    (server : Server) (database : String) :
    StopsOnDrift repr w reportDate manual server database ↔
      ¬ Drifted repr server.schema database ∨ RaisesDrift w reportDate manual server.db := by
  rw [StopsOnDrift, runJob_drift_iff]
  exact imp_iff_not_or

/-- A column someone added to the shared table. -/
def tenantColumn : ColumnRow :=
  ⟨"tenant", "varchar(32)", "YES", some "utf8mb4", some "utf8mb4_unicode_ci", some ""⟩

def driftedServer : Server := ⟨serving (createdColumns ++ [tenantColumn]), emptyDb⟩

/-- With one column too many, a run of one event inserts its row and ends as `ok`. -/
theorem not_stopsOnDrift :
    ¬ StopsOnDrift id (calm.reporting [someRow]) someDay false driftedServer
        someConfig.mysqlDatabase ∧
      (runJob (calm.reporting [someRow]) someDay false driftedServer.db).1 = .ok "ok" ∧
      (runJob (calm.reporting [someRow]) someDay false
        driftedServer.db).2.durable.audit.rows.length = 1 := by
  have hok : (runJob (calm.reporting [someRow]) someDay false driftedServer.db).1 = .ok "ok" := by
    decide
  refine ⟨fun h => ?_, hok, by decide⟩
  have hdrift : Drifted id driftedServer.schema someConfig.mysqlDatabase :=
    drifted_of_unexpected id (r := tenantColumn)
      (List.mem_append_right _ (List.mem_singleton_self _)) (by decide) _
  have hstatus := (h hdrift).1
  rw [hok] at hstatus
  exact absurd hstatus (by decide)

end Bluewave.Drift
