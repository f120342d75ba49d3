import Bluewave.RunOutcome

/-! Whether a failed run leaves audit rows behind. The statements before the
failing one share a transaction with the failure finalizer, and its COMMIT
covers them too: a failed run is all-or-nothing exactly when what stands there
adds no row. -/
namespace Bluewave.Atomicity
open Lib Bluewave.Exceptions Bluewave.Tables Bluewave.Sink Bluewave.Runs
open Bluewave.RunJob Bluewave.RunOutcome

/-- A run that ends in another status than `ok` leaves the audit table as it was,
with no row under its id. -/
def Atomic (w : World) (reportDate : Date) (manual : Bool) (db : Db) : Prop :=
  ∀ s, (runJob w reportDate manual db).1 = .ok s → s ≠ "ok" →
    (runJob w reportDate manual db).2.durable.audit = db.audit ∧
      (db.audit.tagged db.runs.nextId = [] →
        (runJob w reportDate manual db).2.durable.audit.tagged db.runs.nextId = [])

/-- When a step fails behind some INSERTs and the failure finalizer can commit,
these INSERTs hold only hashes the table had. -/
def StrandsNothing (w : World) (reportDate : Date) (manual : Bool) (db : Db) : Prop :=
  ∀ cfg, Starts w cfg → w.failFinal.statement = none → w.failFinal.commit = none →
    ∀ e, firstFailure w cfg reportDate db.runs.nextId
        (repeatsScheduled db reportDate manual) = some e →
      ∀ row ∈ (leftBehind w cfg reportDate db.runs.nextId
          (repeatsScheduled db reportDate manual)).flatten,
        db.audit.Holds row.dedupHash

section
variable {w : World} {cfg : Config} {reportDate : Date} {manual : Bool} {db : Db}

/-- A failed run leaves the audit table with what stood in its transaction. -/
theorem runJob_failed_audit (h : Starts w cfg) (hstmt : w.failFinal.statement = none)
    (hcommit : w.failFinal.commit = none) {e : Exn}
    (hf : firstFailure w cfg reportDate db.runs.nextId
      (repeatsScheduled db reportDate manual) = some e) :
    (runJob w reportDate manual db).1 = .ok (failureStatus e) ∧
      (runJob w reportDate manual db).2.durable.audit =
        db.audit.insertAll (leftBehind w cfg reportDate db.runs.nextId
          (repeatsScheduled db reportDate manual)).flatten := by
  obtain ⟨_, cols, _, _, hrun⟩ := runJob_failed h hf
  simp only [hstmt, hcommit, Option.or_none] at hrun
  rw [hrun]
  exact ⟨rfl, finished_audit _ cols⟩

/-- A status other than `ok` is the failure finalizer's. -/
theorem runJob_not_ok {s : String} (hrun : (runJob w reportDate manual db).1 = .ok s)
    (hs : s ≠ "ok") :
    ∃ cfg e, Starts w cfg ∧ w.failFinal.statement = none ∧ w.failFinal.commit = none ∧
      firstFailure w cfg reportDate db.runs.nextId
        (repeatsScheduled db reportDate manual) = some e := by
  by_cases hstart : ∃ cfg, Starts w cfg
  · obtain ⟨cfg, h⟩ := hstart
    cases hf : firstFailure w cfg reportDate db.runs.nextId
        (repeatsScheduled db reportDate manual) with
    | none =>
      obtain ⟨_, _, _, hok⟩ := runJob_ok h hf
      rw [hok] at hrun
      cases hrun
      exact (hs rfl).elim
    | some e =>
      obtain ⟨_, _, _, _, hfail⟩ := runJob_failed h hf
      cases hk : w.failFinal.statement.or w.failFinal.commit with
      | none =>
        obtain ⟨hstmt, hcommit⟩ := Option.or_eq_none_iff.mp hk
        exact ⟨cfg, e, h, hstmt, hcommit, hf⟩
      | some e' =>
        simp only [hk] at hfail
        rw [hfail] at hrun
        cases hrun
  · obtain ⟨e, he⟩ := @runJob_not_started w reportDate manual db hstart
    rw [he] at hrun
    cases hrun

end

/-- A failed run is all-or-nothing exactly when it strands nothing. -/
theorem atomic_iff (w : World) (reportDate : Date) (manual : Bool) (db : Db) :
    Atomic w reportDate manual db ↔ StrandsNothing w reportDate manual db := by
  constructor
  · intro h cfg hstart hstmt hcommit e hf
    obtain ⟨hrun, haudit⟩ := runJob_failed_audit hstart hstmt hcommit hf
    have hsame := (h _ hrun (failureStatus_ne_ok e)).1
    rw [haudit] at hsame
    exact AuditTable.insertAll_eq_self_iff.mp hsame
  · intro h s hrun hs
    obtain ⟨cfg, e, hstart, hstmt, hcommit, hf⟩ := runJob_not_ok hrun hs
    obtain ⟨_, haudit⟩ := runJob_failed_audit hstart hstmt hcommit hf
    have hkept := h cfg hstart hstmt hcommit e hf
    rw [haudit, AuditTable.insertAll_eq_self_iff.mpr hkept]
    exact ⟨rfl, id⟩

/-- The database behind a first, empty `ok` of the day. -/
def dayDone : Db := (runJob calm someDay false emptyDb).2.durable

/-- The second scheduled run of the day inserts a row, is refused its `ok` and
leaves the row behind. -/
theorem not_atomic : ¬ ∀ w reportDate manual db, Atomic w reportDate manual db := by
  intro h
  have hsame := (h (calm.reporting [someRow]) someDay false dayDone "ingest_failed" (by decide)
    (by decide)).1
  have hrows := congrArg (fun t : AuditTable => t.rows.length) hsame
  revert hrows
  decide

end Bluewave.Atomicity
