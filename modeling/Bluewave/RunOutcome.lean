import Bluewave.RunJob

/-! How a run ends. Behind `start_run` a run that returns has committed exactly
one more transaction: its INSERTs with the UPDATE to `ok`, or what the failing
step left in the open transaction with the UPDATE to a failure status. Closing
the run row, the status it gets and what reaches the audit table all follow. -/
namespace Bluewave.RunOutcome
open Lib Bluewave.Exceptions Bluewave.Tables Bluewave.Sink Bluewave.Runs
open Bluewave.RunJob

/-- The status a failure is recorded under. -/
def failureStatus : Exn → String
  | .runFailure cls _ => cls.status
  | .other .. => "ingest_failed"

theorem failureStatus_terminal (e : Exn) :
    ∃ s, terminal? (failureStatus e) = some s ∧ s ≠ .ok ∧ s ≠ .skipped := by
  cases e with
  | runFailure cls message => cases cls <;> exact ⟨_, rfl, by decide, by decide⟩
  | other type text => exact ⟨.ingestFailed, rfl, by decide, by decide⟩

theorem failureStatus_ne_ok (e : Exn) : failureStatus e ≠ "ok" := by
  intro h
  obtain ⟨s, hs, hne, _⟩ := failureStatus_terminal e
  have hok : terminal? "ok" = some .ok := by decide
  rw [h, hok] at hs
  exact hne (Option.some.inj hs).symm

/-- The connection of a finished run: the start, then one transaction of INSERTs
and the terminal UPDATE. -/
def finished (w : World) (reportDate : Date) (manual : Bool) (db : Db)
    (stmts : List (List AuditRow)) (cols : Terminal) : Conn Db Stmt :=
  ⟨db, [[.insertRun "Bluewave" reportDate w.startedAt manual],
    stmts.map .insertAudit ++ [.updateRun db.runs.nextId cols]], []⟩

/-- The connection of a run whose row stays `running`. -/
def abandoned (w : World) (reportDate : Date) (manual : Bool) (db : Db) : Conn Db Stmt :=
  ⟨db, [[.insertRun "Bluewave" reportDate w.startedAt manual]], []⟩

section
variable {w : World} {cfg : Config} {reportDate : Date} {manual : Bool} {db : Db}

/-- Right after `start_run`, `has_successful_scheduled_run` decides the fate of
an UPDATE to `ok`. -/
theorem refuses_abandoned : Refuses (abandoned w reportDate manual db) db.runs.nextId
    (repeatsScheduled db reportDate manual) := by
  intro cols hok
  simp only [repeatsScheduled, decide_eq_true_eq]
  exact (finalize?_fresh_eq_none hok).symm

/-- The failure finalizer closes the row and commits what it finds in the open
transaction, or raises and leaves the row as `start_run` wrote it. -/
theorem recordFailure_run (e : Exn) (stmts : List (List AuditRow)) :
    ∃ s cols, terminal? (failureStatus e) = some s ∧ cols.status = s ∧
      (recordFailure w db.runs.nextId e).run
          ((abandoned w reportDate manual db).push (stmts.map .insertAudit)) =
        match w.failFinal.statement.or w.failFinal.commit with
        | none => (.ok (failureStatus e), finished w reportDate manual db stmts cols)
        | some e' => (.error e', if w.failFinal.statement = none
            then abandoned w reportDate manual db
            else (abandoned w reportDate manual db).push (stmts.map .insertAudit)) := by
  obtain ⟨s, hs, hne, _⟩ := failureStatus_terminal e
  have hbody : ∀ d : Details, ∃ cols : Terminal, cols.status = s ∧
      (do finalizeRun w.failFinal w.finishedAt db.runs.nextId (failureStatus e) d
          pure (failureStatus e) : Session Db Stmt Exn String).run
          ((abandoned w reportDate manual db).push (stmts.map .insertAudit)) =
        match w.failFinal.statement.or w.failFinal.commit with
        | none => (.ok (failureStatus e), finished w reportDate manual db stmts cols)
        | some e' => (.error e', if w.failFinal.statement = none
            then abandoned w reportDate manual db
            else (abandoned w reportDate manual db).push (stmts.map .insertAudit)) := by
    intro d
    refine ⟨finalColumns w.finishedAt s d, rfl, ?_⟩
    have hacc : (finalColumns w.finishedAt s d).status ≠ .ok := hne
    obtain ⟨runs, hruns⟩ := finalize?_accepted
      ((abandoned w reportDate manual db).push (stmts.map .insertAudit)).working.runs
      db.runs.nextId hacc
    have hf : finalizeFailure w.failFinal false = w.failFinal.statement.or w.failFinal.commit := by
      simp [finalizeFailure]
    cases hk : w.failFinal.statement.or w.failFinal.commit with
    | none =>
      rw [Session.bind_ok (finalizeRun_ok hs hruns (hf.trans hk)), Session.run_pure]
      rfl
    | some e' =>
      have hrej : false = true ↔ ((abandoned w reportDate manual db).push
          (stmts.map .insertAudit)).working.runs.finalize? db.runs.nextId
            (finalColumns w.finishedAt s d) = none := by simp only [hruns, reduceCtorEq]
      rw [Session.bind_error (finalizeRun_error hs hrej (hf.trans hk))]
      by_cases hst : w.failFinal.statement = none
      · simp only [hst, and_self, if_true]
        rfl
      · simp [hst]
  cases e with
  | runFailure cls message =>
    obtain ⟨cols, hc, hrun⟩ := hbody { errorExcerpt := some (clip message) }
    exact ⟨s, cols, hs, hc, hrun⟩
  | other type text =>
    obtain ⟨cols, hc, hrun⟩ := hbody { errorExcerpt := some (clip (w.traceback (.other type text))) }
    exact ⟨s, cols, hs, hc, hrun⟩

/-- A run that gets as far as its run row. -/
structure Starts (w : World) (cfg : Config) : Prop where
  load : w.load = .ok (some cfg)
  connect : w.connect cfg.mysql = .ok ()
  statement : w.start.statement = none
  commit : w.start.commit = none

theorem runJob_started (h : Starts w cfg) :
    runJob w reportDate manual db =
      (((Session.tryExcept (pipeline w cfg reportDate db.runs.nextId)
          (recordFailure w db.runs.nextId)).run (abandoned w reportDate manual db)).1,
        ((Session.tryExcept (pipeline w cfg reportDate db.runs.nextId)
          (recordFailure w db.runs.nextId)).run (abandoned w reportDate manual db)).2.rollback) := by
  have hstart := startRun_ok h.statement h.commit w.startedAt "Bluewave" reportDate manual
    (Conn.opened db)
  have hrun : (runOnConnection w cfg reportDate manual).run (.opened db) =
      (Session.tryExcept (pipeline w cfg reportDate db.runs.nextId)
        (recordFailure w db.runs.nextId)).run (abandoned w reportDate manual db) :=
    Session.bind_ok hstart
  simp only [runJob, h.load, h.connect, hrun]

/-- A run that does not get that far raises and writes nothing. -/
theorem runJob_not_started (h : ¬ ∃ cfg, Starts w cfg) :
    ∃ e, runJob w reportDate manual db = (.error e, .opened db) := by
  unfold runJob
  match hl : w.load with
  | .error e => exact ⟨e, rfl⟩
  | .ok none => exact ⟨_, rfl⟩
  | .ok (some cfg) =>
    match hc : w.connect cfg.mysql with
    | .error e => exact ⟨e, by simp [hc]⟩
    | .ok () =>
      obtain ⟨e, he⟩ : ∃ e, w.start.statement.or w.start.commit = some e := by
        refine Option.ne_none_iff_exists'.mp fun hn => h ⟨cfg, hl, hc, ?_, ?_⟩
        · exact (Option.or_eq_none_iff.mp hn).1
        · exact (Option.or_eq_none_iff.mp hn).2
      have hrun : (runOnConnection w cfg reportDate manual).run (.opened db) =
          (.error e, .opened db) :=
        Session.bind_error (startRun_error he _ _ _ _ rfl)
      exact ⟨e, by simp [hc, hrun]; rfl⟩

/-- Nothing fails: `ok`, with everything in one transaction. -/
theorem runJob_ok (h : Starts w cfg) (hf : firstFailure w cfg reportDate db.runs.nextId
      (repeatsScheduled db reportDate manual) = none) :
    ∃ cols : Terminal, cols.status = .ok ∧ Balanced cols ∧
      runJob w reportDate manual db = (.ok "ok",
        finished w reportDate manual db (allStatements w cfg reportDate db.runs.nextId) cols) := by
  have hrefuses : Refuses (abandoned w reportDate manual db) db.runs.nextId
      (repeatsScheduled db reportDate manual) := refuses_abandoned
  obtain ⟨cols, hok, hbal, hrun⟩ := pipeline_ok hrefuses rfl hf
  refine ⟨cols, hok, hbal, ?_⟩
  rw [runJob_started h, Session.tryExcept_ok hrun]
  rfl

/-- Something fails: the failure finalizer has the last word. -/
theorem runJob_failed (h : Starts w cfg) {e : Exn} (hf : firstFailure w cfg reportDate
      db.runs.nextId (repeatsScheduled db reportDate manual) = some e) :
    ∃ s cols, terminal? (failureStatus e) = some s ∧ cols.status = s ∧
      runJob w reportDate manual db =
        match w.failFinal.statement.or w.failFinal.commit with
        | none => (.ok (failureStatus e), finished w reportDate manual db
            (leftBehind w cfg reportDate db.runs.nextId (repeatsScheduled db reportDate manual))
            cols)
        | some e' => (.error e', abandoned w reportDate manual db) := by
  have hrefuses : Refuses (abandoned w reportDate manual db) db.runs.nextId
      (repeatsScheduled db reportDate manual) := refuses_abandoned
  have hrun := pipeline_error hrefuses rfl hf
  obtain ⟨s, cols, hs, hc, hrec⟩ := @recordFailure_run w reportDate manual db e
    (leftBehind w cfg reportDate db.runs.nextId (repeatsScheduled db reportDate manual))
  refine ⟨s, cols, hs, hc, ?_⟩
  rw [runJob_started h, Session.tryExcept_error hrun, hrec]
  cases w.failFinal.statement.or w.failFinal.commit with
  | none => rfl
  | some e' =>
    simp only
    split <;> rfl

/-- The transactions of a run: the start, and at most one that ends in a terminal
UPDATE of its row. -/
theorem runJob_commits (h : Starts w cfg) :
    (runJob w reportDate manual db).2 = abandoned w reportDate manual db ∨
      ∃ stmts cols, cols.status ∈ terminal ∧
        (runJob w reportDate manual db).2 = finished w reportDate manual db stmts cols := by
  cases hf : firstFailure w cfg reportDate db.runs.nextId
      (repeatsScheduled db reportDate manual) with
  | none =>
    obtain ⟨cols, hok, _, hrun⟩ := runJob_ok h hf
    exact Or.inr ⟨_, cols, hok ▸ by decide, congrArg Prod.snd hrun⟩
  | some e =>
    obtain ⟨s, cols, hs, hc, hrun⟩ := runJob_failed h hf
    cases hk : w.failFinal.statement.or w.failFinal.commit with
    | none =>
      simp only [hk] at hrun
      exact Or.inr ⟨_, cols, hc ▸ (terminal?_eq_some hs).1, congrArg Prod.snd hrun⟩
    | some e' =>
      simp only [hk] at hrun
      exact Or.inl (congrArg Prod.snd hrun)

/-! ## What is durable afterwards -/

theorem effect_updateRun_audit (db : Db) (id : Nat) (cols : Terminal) :
    (effect db (Stmt.updateRun id cols)).audit = db.audit := by
  cases h : db.runs.finalize? id cols with
  | none => simp only [effect, apply_updateRun_none h]
  | some runs =>
    obtain ⟨r, hr⟩ := apply_updateRun_some h
    rw [effect_of_apply hr]

/-- The UPDATE at the end takes every row of the transaction's INSERTs along. -/
theorem finished_audit (stmts : List (List AuditRow)) (cols : Terminal) :
    (finished w reportDate manual db stmts cols).durable.audit =
      db.audit.insertAll stmts.flatten := by
  simp only [finished, Conn.durable, List.flatten_cons, List.flatten_nil, List.append_nil,
    List.singleton_append, replay_cons, replay_append, effect_insertRun, replay_insertAudit,
    replay_nil, effect_updateRun_audit]

theorem finished_runs {stmts : List (List AuditRow)} {cols : Terminal} {runs : RunsTable}
    (h : (db.runs.insertRun "Bluewave" reportDate w.startedAt manual).finalize? db.runs.nextId
      cols = some runs) :
    (finished w reportDate manual db stmts cols).durable.runs = runs := by
  let db' : Db := { audit := db.audit.insertAll stmts.flatten
                    runs := db.runs.insertRun "Bluewave" reportDate w.startedAt manual }
  have hfin : db'.runs.finalize? db.runs.nextId cols = some runs := h
  obtain ⟨r, hr⟩ := apply_updateRun_some hfin
  simp only [finished, Conn.durable, List.flatten_cons, List.flatten_nil, List.append_nil,
    List.singleton_append, replay_cons, replay_append, effect_insertRun, replay_insertAudit,
    replay_nil]
  exact congrArg Db.runs (effect_of_apply hr)

/-- The run row of a finished run carries what the terminal UPDATE set. -/
theorem finished_row {stmts : List (List AuditRow)} {cols : Terminal}
    (h : ∃ runs, (db.runs.insertRun "Bluewave" reportDate w.startedAt manual).finalize?
      db.runs.nextId cols = some runs) :
    cols.applyTo (RunsTable.runningRow db.runs.nextId "Bluewave" reportDate w.startedAt manual) ∈
      (finished w reportDate manual db stmts cols).durable.runs.rows := by
  obtain ⟨runs, hruns⟩ := h
  rw [finished_runs hruns, (RunsTable.updateWhere?_some hruns).1]
  refine List.mem_map.mpr ⟨RunsTable.runningRow db.runs.nextId "Bluewave" reportDate w.startedAt
    manual, List.mem_append_right _ (List.mem_singleton_self _), ?_⟩
  simp [RunsTable.runningRow]

/-- A run that fails nowhere repeats no scheduled `ok`. -/
theorem not_repeats_of_ok (hf : firstFailure w cfg reportDate db.runs.nextId
    (repeatsScheduled db reportDate manual) = none) :
    repeatsScheduled db reportDate manual = false := by
  have hfin : finalizeFailure w.okFinal (repeatsScheduled db reportDate manual) = none := by
    unfold firstFailure at hf
    split at hf
    · cases hf
    · exact hf
    · exact (Option.or_eq_none_iff.mp hf).2
  cases hr : repeatsScheduled db reportDate manual with
  | false => rfl
  | true => simp [hr, finalizeFailure] at hfin

def closing? (runId : Nat) : Stmt → Option Terminal
  | .updateRun id cols => if id = runId then some cols else none
  | _ => none

/-- The terminal UPDATEs of a run that its connection has committed. -/
def closings (c : Conn Db Stmt) (runId : Nat) : List Terminal :=
  c.journal.flatten.filterMap (closing? runId)

theorem closings_finished (stmts : List (List AuditRow)) (cols : Terminal) :
    closings (finished w reportDate manual db stmts cols) db.runs.nextId = [cols] := by
  have hins : (stmts.map Stmt.insertAudit).filterMap (closing? db.runs.nextId) = [] := by
    rw [List.filterMap_map]
    exact List.filterMap_eq_nil_iff.mpr fun _ _ => rfl
  simp [closings, finished, List.filterMap_cons, hins, closing?]

/-- Whatever the steps behind `start_run` do, the run is closed once, under the
status its first failing step calls for. -/
theorem runJob_closes (h : Starts w cfg) (hstmt : w.failFinal.statement = none)
    (hcommit : w.failFinal.commit = none) :
    ∃ s row cols, (runJob w reportDate manual db).1 = .ok s ∧ s ∈ terminalStatuses ∧
      row ∈ (runJob w reportDate manual db).2.durable.runs.rows ∧ row.id = db.runs.nextId ∧
      row.status.text = s ∧ row.finishedAt ≠ none ∧
      closings (runJob w reportDate manual db).2 db.runs.nextId = [cols] ∧
      cols.status = row.status ∧
      match firstFailure w cfg reportDate db.runs.nextId
          (repeatsScheduled db reportDate manual) with
      | some (.runFailure cls _) => s = cls.status
      | some (.other ..) => s = "ingest_failed"
      | none => s = "ok" ∧ ∃ n i d : Int, row.rowsInCsv = some n ∧ row.rowsInserted = some i ∧
          row.rowsDuplicate = some d ∧ n = i + d := by
  cases hf : firstFailure w cfg reportDate db.runs.nextId
      (repeatsScheduled db reportDate manual) with
  | none =>
    obtain ⟨cols, hok, hbal, hrun⟩ := runJob_ok h hf
    have hacc : ∃ runs, (db.runs.insertRun "Bluewave" reportDate w.startedAt manual).finalize?
        db.runs.nextId cols = some runs := by
      have hrefuses : Refuses (abandoned w reportDate manual db) db.runs.nextId
          (repeatsScheduled db reportDate manual) := refuses_abandoned
      rw [not_repeats_of_ok hf] at hrefuses
      exact Option.ne_none_iff_exists'.mp fun hn => by cases (hrefuses cols hok).mpr hn
    rw [hrun]
    exact ⟨"ok", _, cols, rfl, by decide, finished_row hacc, rfl, congrArg Status.text hok,
      Option.some_ne_none _, closings_finished _ cols, rfl, rfl, hbal⟩
  | some e =>
    obtain ⟨s, cols, hs, hc, hrun⟩ := runJob_failed h hf
    obtain ⟨s', hs', hne, _⟩ := failureStatus_terminal e
    have hss : s = s' := Option.some.inj (hs.symm.trans hs')
    have hacc := finalize?_accepted (db.runs.insertRun "Bluewave" reportDate w.startedAt manual)
      db.runs.nextId (hc.trans hss ▸ hne)
    simp only [hstmt, hcommit, Option.or_none] at hrun
    rw [hrun]
    obtain ⟨hterm, htext⟩ := terminal?_eq_some hs
    refine ⟨failureStatus e, _, cols, rfl, ?_, finished_row hacc, rfl,
      (congrArg Status.text hc).trans htext, Option.some_ne_none _, closings_finished _ cols, rfl,
      ?_⟩
    · rw [← htext]
      exact List.mem_map_of_mem hterm
    · cases e <;> rfl

end

/-- A login that is turned away, on an empty database. -/
theorem runJob_closes_authFailed :
    ∃ s cols, (runJob (calm.loginFails "no such user") someDay false emptyDb).1 = .ok s ∧
      s = "auth_failed" ∧
      closings (runJob (calm.loginFails "no such user") someDay false emptyDb).2 1 = [cols] := by
  have hstart : Starts (calm.loginFails "no such user") someConfig := ⟨rfl, rfl, rfl, rfl⟩
  obtain ⟨s, _, cols, hs, _, _, _, _, _, hclose, _, hstatus⟩ :=
    @runJob_closes _ _ someDay false emptyDb hstart rfl rfl
  exact ⟨s, cols, hs, hstatus, hclose⟩

end Bluewave.RunOutcome
