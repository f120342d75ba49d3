import Bluewave.Atomicity

/-! A scheduled run of a date that has its scheduled `ok`. `uk_ok_scheduled_date`
refuses the second `ok`, the refusal is an exception like any other, and the
ladder of `run_job` has no clause that tells a repeat from a failure. -/
namespace Bluewave.ScheduledRepeat
open Lib Bluewave.Exceptions Bluewave.Tables Bluewave.Sink Bluewave.Runs
open Bluewave.RunJob Bluewave.RunOutcome Bluewave.Atomicity

/-- The new run row of a scheduled run is finalized as `skipped`. -/
def SkipsRepeat (w : World) (reportDate : Date) (db : Db) : Prop :=
  ∃ row ∈ (runJob w reportDate false db).2.durable.runs.rows,
    row.id = db.runs.nextId ∧ row.status = .skipped

/-- Outside failures other than the refusal: none. -/
def Undisturbed (w : World) (rows : List Row) (runId : Nat) : Prop :=
  insertFailure w.executemany w.sink rows runId defaultBatchSize = none ∧
    w.okFinal.statement = none ∧ w.failFinal.statement = none ∧ w.failFinal.commit = none

section
variable {w : World} {cfg : Config} {reportDate : Date} {manual : Bool} {db : Db}

theorem abandoned_durable : (abandoned w reportDate manual db).durable =
    { db with runs := db.runs.insertRun "Bluewave" reportDate w.startedAt manual } := rfl

/-- The one row a started run adds, in whatever state the run leaves it. -/
theorem row_of_nextId {runs : RunsTable} {row : RunRow} {s : Status} (hrow : row ∈ runs.rows)
    (hid : row.id = db.runs.nextId) {r : RunRow} (hr : r ∈ runs.rows)
    (hrid : r.id = db.runs.nextId) (hs : r.status = s) : row.status = s := by
  rw [RunsTable.eq_of_id hrow hr (hid.trans hrid.symm), hs]

/-- A repeat is refused, so some step of it fails. -/
theorem firstFailure_repeat (hrep : repeatsScheduled db reportDate manual = true) :
    ∃ e, firstFailure w cfg reportDate db.runs.nextId
      (repeatsScheduled db reportDate manual) = some e := by
  refine Option.ne_none_iff_exists'.mp fun hn => ?_
  rw [not_repeats_of_ok hn] at hrep
  cases hrep

/-- With no other failure, what fails is the refusal. -/
theorem firstFailure_undisturbed {rows : Option (List Row)}
    (hrep : repeatsScheduled db reportDate manual = true)
    (hacq : acquire w cfg reportDate = .ok rows)
    (hcalm : Undisturbed w (rows.getD []) db.runs.nextId) :
    firstFailure w cfg reportDate db.runs.nextId (repeatsScheduled db reportDate manual) =
      some (duplicateEntry "uk_ok_scheduled_date") := by
  obtain ⟨hins, hstmt, _⟩ := hcalm
  have hfin : finalizeFailure w.okFinal (repeatsScheduled db reportDate manual) =
      some (duplicateEntry "uk_ok_scheduled_date") := by
    simp [finalizeFailure, hstmt, hrep]
  cases rows with
  | none => simp only [firstFailure, hacq, hfin]
  | some rows =>
    have hins' : insertFailure w.executemany w.sink rows db.runs.nextId defaultBatchSize = none :=
      hins
    simp only [firstFailure, hacq, hins', hfin, Option.none_or]

end

/-- A repeated scheduled run that gets its rows is never skipped: its row gets a
failure status or, when the failure finalizer fails too, stays `running`. With no
failure beside the refusal the status is `ingest_failed`. -/
theorem repeat_not_skipped (w : World) (cfg : Config) (reportDate : Date) (db : Db)
    {rows : Option (List Row)} (hstart : Starts w cfg)
    (hacq : acquire w cfg reportDate = .ok rows)
    (hrep : db.runs.rows.any (okScheduled "Bluewave" reportDate) = true) :
    ¬ SkipsRepeat w reportDate db ∧
      (Undisturbed w (rows.getD []) db.runs.nextId →
        (runJob w reportDate false db).1 = .ok "ingest_failed" ∧
          ∃ row ∈ (runJob w reportDate false db).2.durable.runs.rows,
            row.id = db.runs.nextId ∧ row.status = .ingestFailed) := by
  have hrepeats : repeatsScheduled db reportDate false = true := by simp [repeatsScheduled, hrep]
  obtain ⟨e, he⟩ := @firstFailure_repeat w cfg _ _ _ hrepeats
  obtain ⟨s, hs, hne, hns⟩ := failureStatus_terminal e
  obtain ⟨s', cols, hs', hc, hrun⟩ := runJob_failed hstart he
  have hcs : cols.status = s := hc.trans (Option.some.inj (hs'.symm.trans hs))
  have hacc := finalize?_accepted (db.runs.insertRun "Bluewave" reportDate w.startedAt false)
    db.runs.nextId (hcs ▸ hne)
  constructor
  · rintro ⟨row, hrow, hid, hskip⟩
    rw [hrun] at hrow
    cases hk : w.failFinal.statement.or w.failFinal.commit with
    | none =>
      simp only [hk] at hrow
      have := row_of_nextId hrow hid (finished_row hacc) rfl hcs
      exact hns (this.symm.trans hskip)
    | some e' =>
      simp only [hk, abandoned_durable] at hrow
      have hnew : RunsTable.runningRow db.runs.nextId "Bluewave" reportDate w.startedAt false ∈
          (db.runs.insertRun "Bluewave" reportDate w.startedAt false).rows :=
        List.mem_append_right _ (List.mem_singleton_self _)
      have := row_of_nextId hrow hid hnew rfl rfl
      rw [hskip] at this
      cases this
  · intro hcalm
    have hdup := firstFailure_undisturbed hrepeats hacq hcalm
    obtain ⟨_, _, hstmt, hcommit⟩ := hcalm
    cases Option.some.inj (he.symm.trans hdup)
    simp only [hstmt, hcommit, Option.or_none] at hrun
    have hs : s = .ingestFailed := by
      have hfs : terminal? (failureStatus (duplicateEntry "uk_ok_scheduled_date")) =
          some .ingestFailed := by decide
      exact Option.some.inj (hs.symm.trans hfs)
    rw [hrun]
    exact ⟨rfl, _, finished_row hacc, rfl, hcs.trans hs⟩

/-- The daily fire on a day the boot catch-up has ingested. -/
theorem repeat_not_skipped_dayDone :
    ¬ SkipsRepeat calm someDay dayDone ∧
      (runJob calm someDay false dayDone).1 = .ok "ingest_failed" := by
  have hstart : Starts calm someConfig := ⟨rfl, rfl, rfl, rfl⟩
  have hacq : acquire calm someConfig someDay = .ok none := rfl
  obtain ⟨hnot, hfail⟩ := repeat_not_skipped calm someConfig someDay dayDone hstart hacq
    (by decide)
  exact ⟨hnot, (hfail ⟨rfl, rfl, rfl, rfl⟩).1⟩

/-- Not every repeat is skipped. -/
theorem not_skipsRepeat : ¬ ∀ (w : World) (cfg : Config) (reportDate : Date) (db : Db)
    (rows : Option (List Row)), Starts w cfg → acquire w cfg reportDate = .ok rows →
      db.runs.rows.any (okScheduled "Bluewave" reportDate) = true →
      SkipsRepeat w reportDate db := by
  intro h
  have hstart : Starts calm someConfig := ⟨rfl, rfl, rfl, rfl⟩
  obtain ⟨row, hrow, hid, hskip⟩ := h calm someConfig someDay dayDone none hstart rfl (by decide)
  revert row
  decide

end Bluewave.ScheduledRepeat
