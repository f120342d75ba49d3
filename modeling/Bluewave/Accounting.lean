import Bluewave.RunOutcome

/-! The runs table keeps the books of the audit table. Over any history of runs,
deaths of the process in the middle of one and reaps at boot, every row that
arrived is tagged with a run that is closed, and a run closed as `ok` has counted
its rows right. The counts are read off the table once, before the COMMIT; that
they stay right is because ids are never used twice and rows never leave. -/
namespace Bluewave.Accounting
open Lib Bluewave.Exceptions Bluewave.Tables Bluewave.Sink Bluewave.Runs
open Bluewave.RunJob Bluewave.RunOutcome

/-- What writes to the database over the life of the worker. -/
inductive Event where
  /-- a `run_job` whose process lives until its `commits`-th COMMIT, or to the end -/
  | run (w : World) (reportDate : Date) (manual : Bool) (commits : Nat)
  /-- `reap_stuck_runs` on a connection of its own -/
  | reap (f : TxnFaults) (now : Timestamp) (source : String)

def Event.after (db : Db) : Event → Db
  | .run w reportDate manual commits =>
    replay db ((runJob w reportDate manual db).2.journal.take commits).flatten
  | .reap f now source => ((reapStuckRuns f now source).run (.opened db)).2.durable

def runAll (db : Db) (history : List Event) : Db := history.foldl Event.after db

/-- The next id is on no row yet. -/
def Fresh (db : Db) : Prop :=
  ∀ r ∈ db.audit.rows, ∀ id, r.ingestRunId = some id → id < db.runs.nextId

/-- The counts of a run are those of the `n` rows it added. -/
def Counts (csv inserted duplicate : Option Int) (n : Nat) : Prop :=
  inserted = some (n : Int) ∧
    ∃ d : Nat, duplicate = some (d : Int) ∧ csv = some ((n : Int) + d)

/-- The books since `start`. -/
structure Ledger (start db : Db) : Prop where
  fresh : Fresh db
  grown : start.runs.nextId ≤ db.runs.nextId
  /-- the old rows are in place, and each new one belongs to a closed run -/
  added : ∃ added, db.audit.rows = start.audit.rows ++ added ∧
    ∀ r ∈ added, ∃ run ∈ db.runs.rows, start.runs.nextId ≤ run.id ∧
      r.ingestRunId = some run.id ∧ run.status ∈ terminal
  counted : ∀ run ∈ db.runs.rows, start.runs.nextId ≤ run.id → run.status = .ok →
    Counts run.rowsInCsv run.rowsInserted run.rowsDuplicate (db.audit.tagged run.id).length

/-! ## What one run writes -/

section
variable {w : World} {cfg : Config} {reportDate : Date} {manual : Bool} {db : Db}

theorem tagged_eq_nil (h : Fresh db) : db.audit.tagged db.runs.nextId = [] := by
  rw [AuditTable.tagged, List.filter_eq_nil_iff]
  intro r hr htag
  exact Nat.lt_irrefl _ (h r hr _ (of_decide_eq_true htag))

/-- The rows that a list tagged with `runId` adds to a table. -/
def addedBy (db : Db) (rows : List AuditRow) : Nat :=
  (db.audit.firsts rows).length

/-- An ingestion that fails nowhere writes the number of the rows it added. -/
theorem ingest_ok {runId : Nat} {c : Conn Db Stmt} {rejected : Bool} {rows : List Row}
    (hr : Refuses c runId rejected) (hfresh : c.working.audit.tagged runId = [])
    (hf : (insertFailure w.executemany w.sink rows runId defaultBatchSize).or
      (finalizeFailure w.okFinal rejected) = none) :
    ∃ cols : Terminal, cols.status = .ok ∧
      Counts cols.rowsInCsv cols.rowsInserted cols.rowsDuplicate
        (addedBy c.working (rows.map (params · runId))) ∧
      (ingest w runId rows).run c = (.ok "ok",
        (c.push ((statements w.executemany rows runId defaultBatchSize).map .insertAudit ++
          [.updateRun runId cols])).commit) := by
  obtain ⟨hins, hfin⟩ := Option.or_eq_none_iff.mp hf
  obtain ⟨n, hn⟩ : ∃ n, n = addedBy c.working (rows.map (params · runId)) := ⟨_, rfl⟩
  have hle : n ≤ rows.length := by
    have hfirsts := c.working.audit.length_firsts_le (rows.map (params · runId))
    rwa [List.length_map, ← addedBy, ← hn] at hfirsts
  have hrun := insertRows_ok defaultBatchSize_pos hins hfresh
  rw [← addedBy, ← hn] at hrun
  let d : Details := { rowsInCsv := some rows.length, rowsInserted := some (n : Int)
                       rowsDuplicate := some (rows.length - n) }
  have hclose := finalizeOk_run (w := w)
    (hr.push (statements w.executemany rows runId defaultBatchSize)) d
  rw [hfin] at hclose
  refine ⟨finalColumns w.finishedAt .ok d, rfl, ⟨hn ▸ rfl, rows.length - n, ?_, ?_⟩, ?_⟩
  · show some ((rows.length : Int) - n) = _
    rw [Int.ofNat_sub hle]
  · show some (rows.length : Int) = _
    rw [← hn, Int.ofNat_sub hle, Int.add_comm, Int.sub_add_cancel]
  · rw [ingest, Session.bind_ok hrun, Session.bind_ok hclose,
      Session.bind_ok (Session.run_swallow ..), Session.run_pure, Conn.push_push]

theorem finishEmpty_ok {runId : Nat} {c : Conn Db Stmt} {rejected : Bool}
    (hr : Refuses c runId rejected) (hf : finalizeFailure w.okFinal rejected = none) :
    ∃ cols : Terminal, cols.status = .ok ∧
      Counts cols.rowsInCsv cols.rowsInserted cols.rowsDuplicate 0 ∧
      (finishEmpty w runId).run c = (.ok "ok", (c.push [.updateRun runId cols]).commit) := by
  let d : Details := { rowsInCsv := some 0, rowsInserted := some 0, rowsDuplicate := some 0 }
  have hclose := finalizeOk_run (w := w) hr d
  rw [hf] at hclose
  refine ⟨finalColumns w.finishedAt .ok d, rfl, ⟨rfl, 0, rfl, rfl⟩, ?_⟩
  rw [finishEmpty, Session.bind_ok hclose, Session.run_pure]

/-- A run that ends `ok` has committed its INSERTs with their count. -/
theorem runJob_counts (h : Starts w cfg) (hfresh : Fresh db)
    (hf : firstFailure w cfg reportDate db.runs.nextId
      (repeatsScheduled db reportDate manual) = none) :
    ∃ cols : Terminal, cols.status = .ok ∧
      Counts cols.rowsInCsv cols.rowsInserted cols.rowsDuplicate
        (addedBy db (allStatements w cfg reportDate db.runs.nextId).flatten) ∧
      (runJob w reportDate manual db).2 =
        finished w reportDate manual db (allStatements w cfg reportDate db.runs.nextId) cols := by
  have hrefuses : Refuses (abandoned w reportDate manual db) db.runs.nextId
      (repeatsScheduled db reportDate manual) := refuses_abandoned
  have haudit : (abandoned w reportDate manual db).working.audit = db.audit := rfl
  -- the body of the `try`, on the connection behind `start_run`
  obtain ⟨cols, hok, hcounts, hrun⟩ : ∃ cols : Terminal, cols.status = .ok ∧
      Counts cols.rowsInCsv cols.rowsInserted cols.rowsDuplicate
        (addedBy db (allStatements w cfg reportDate db.runs.nextId).flatten) ∧
      (pipeline w cfg reportDate db.runs.nextId).run (abandoned w reportDate manual db) =
        (.ok "ok", ((abandoned w reportDate manual db).push
          ((allStatements w cfg reportDate db.runs.nextId).map .insertAudit ++
            [.updateRun db.runs.nextId cols])).commit) := by
    rw [pipeline_run]
    unfold firstFailure at hf
    unfold allStatements
    rcases ha : acquire w cfg reportDate with e | _ | rows
    · rw [ha] at hf
      cases hf
    · rw [ha] at hf
      exact finishEmpty_ok hrefuses hf
    · rw [ha] at hf
      obtain ⟨cols, hok, hcounts, hrun⟩ :=
        ingest_ok hrefuses (by rw [haudit]; exact tagged_eq_nil hfresh) hf
      refine ⟨cols, hok, ?_, hrun⟩
      simp only [statements_flatten w.executemany rows db.runs.nextId defaultBatchSize_pos]
      exact hcounts
  refine ⟨cols, hok, hcounts, ?_⟩
  rw [runJob_started h, Session.tryExcept_ok hrun]
  rfl

/-- So it has where the id is on some row already, but for the count. -/
theorem runJob_commits (h : Starts w cfg)
    (hf : firstFailure w cfg reportDate db.runs.nextId
      (repeatsScheduled db reportDate manual) = none) :
    ∃ cols : Terminal, cols.status = .ok ∧
      (Fresh db → Counts cols.rowsInCsv cols.rowsInserted cols.rowsDuplicate
        (addedBy db (allStatements w cfg reportDate db.runs.nextId).flatten)) ∧
      (runJob w reportDate manual db).2 =
        finished w reportDate manual db (allStatements w cfg reportDate db.runs.nextId) cols := by
  by_cases hfresh : Fresh db
  · obtain ⟨cols, hok, hcounts, hrun⟩ := runJob_counts h hfresh hf
    exact ⟨cols, hok, fun _ => hcounts, hrun⟩
  · obtain ⟨cols, hok, -, hrun⟩ := runJob_ok h hf
    exact ⟨cols, hok, fun hfresh' => absurd hfresh' hfresh, congrArg Prod.snd hrun⟩

theorem mem_statements {rows : List Row} {runId : Nat} {stmt : List AuditRow} {r : AuditRow}
    (hs : stmt ∈ statements w.executemany rows runId defaultBatchSize) (hr : r ∈ stmt) :
    ∃ row ∈ rows, r = params row runId := by
  have hall : r ∈ (statements w.executemany rows runId defaultBatchSize).flatten :=
    List.mem_flatten.mpr ⟨stmt, hs, hr⟩
  rw [statements_flatten w.executemany rows runId (by decide)] at hall
  obtain ⟨row, hrow, rfl⟩ := List.mem_map.mp hall
  exact ⟨row, hrow, rfl⟩

/-- A row of the report that a run has in hand, under the id of the run. -/
def Offered (w : World) (cfg : Config) (reportDate : Date) (runId : Nat) (r : AuditRow) : Prop :=
  ∃ rows, acquire w cfg reportDate = .ok (some rows) ∧ ∃ row ∈ rows, r = params row runId

theorem Offered.tag {runId : Nat} {r : AuditRow} (h : Offered w cfg reportDate runId r) :
    r.ingestRunId = some runId := by
  obtain ⟨_, _, row, _, rfl⟩ := h
  rfl

/-- The INSERTs of a run hold rows of its report, also those a failure leaves behind. -/
theorem offered_allStatements {runId : Nat} {r : AuditRow}
    (hr : r ∈ (allStatements w cfg reportDate runId).flatten) :
    Offered w cfg reportDate runId r := by
  obtain ⟨stmt, hs, hr⟩ := List.mem_flatten.mp hr
  unfold allStatements at hs
  split at hs
  · rename_i rows hacquire
    exact ⟨rows, hacquire, mem_statements hs hr⟩
  · cases hs

theorem offered_leftBehind {runId : Nat} {rejected : Bool} {r : AuditRow}
    (hr : r ∈ (leftBehind w cfg reportDate runId rejected).flatten) :
    Offered w cfg reportDate runId r := by
  obtain ⟨stmt, hs, hr⟩ := List.mem_flatten.mp hr
  unfold leftBehind at hs
  split at hs
  · rename_i rows hacquire
    split at hs
    · cases hs
    · exact ⟨rows, hacquire, mem_statements ((Session.landed_initial ..).subset hs) hr⟩
  · cases hs

end

/-! ## One event -/

/-- What an event leaves of the database. -/
inductive Change (db : Db) : Db → Prop
  | nothing : Change db db
  /-- the process died behind `start_run`, or the failure finalizer raised -/
  | started (w : World) (reportDate : Date) (manual : Bool) :
      Change db { db with runs := db.runs.insertRun "Bluewave" reportDate w.startedAt manual }
  /-- one transaction with rows of the run and the UPDATE that closes it -/
  | closed {w : World} {reportDate : Date} {manual : Bool} {rows : List AuditRow}
      {cols : Terminal} {runs : RunsTable} :
      (db.runs.insertRun "Bluewave" reportDate w.startedAt manual).finalize? db.runs.nextId cols =
        some runs →
      (∀ r ∈ rows, r.ingestRunId = some db.runs.nextId) → cols.status ∈ terminal →
      (Fresh db → cols.status = .ok → Counts cols.rowsInCsv cols.rowsInserted cols.rowsDuplicate
        (addedBy db rows)) →
      Change db { audit := db.audit.insertAll rows, runs }
  | reaped {source : String} {now : Timestamp} {runs : RunsTable} :
      db.runs.reap? source now reapError = some runs → Change db { db with runs }

section
variable {w : World} {reportDate : Date} {manual : Bool} {db : Db}

/-- A closed run, whatever its transaction held. -/
theorem Change.of_finished {stmts : List (List AuditRow)} {cols : Terminal}
    (hacc : ∃ runs, (db.runs.insertRun "Bluewave" reportDate w.startedAt manual).finalize?
      db.runs.nextId cols = some runs)
    (htag : ∀ r ∈ stmts.flatten, r.ingestRunId = some db.runs.nextId)
    (hterm : cols.status ∈ terminal)
    (hcounts : Fresh db → cols.status = .ok → Counts cols.rowsInCsv cols.rowsInserted
      cols.rowsDuplicate (addedBy db stmts.flatten)) :
    Change db (finished w reportDate manual db stmts cols).durable := by
  obtain ⟨runs, hruns⟩ := hacc
  have hdb : (finished w reportDate manual db stmts cols).durable =
      { audit := db.audit.insertAll stmts.flatten, runs } := by
    have ha : (finished w reportDate manual db stmts cols).durable.audit =
        db.audit.insertAll stmts.flatten := finished_audit stmts cols
    have hr : (finished w reportDate manual db stmts cols).durable.runs = runs :=
      finished_runs hruns
    cases hd : (finished w reportDate manual db stmts cols).durable with
    | mk audit runs' => rw [hd] at ha hr; cases ha; cases hr; rfl
  rw [hdb]
  exact .closed hruns htag hterm hcounts

/-- The connection of a run: nothing, its start, or its start and its end. -/
theorem runJob_journal :
    (runJob w reportDate manual db).2.journal = [] ∨
      (runJob w reportDate manual db).2 = abandoned w reportDate manual db ∨
      ∃ stmts cols, (runJob w reportDate manual db).2 = finished w reportDate manual db stmts cols ∧
        Change db (finished w reportDate manual db stmts cols).durable := by
  by_cases hstart : ∃ cfg, Starts w cfg
  · obtain ⟨cfg, h⟩ := hstart
    refine Or.inr ?_
    cases hf : firstFailure w cfg reportDate db.runs.nextId
        (repeatsScheduled db reportDate manual) with
    | none =>
      obtain ⟨cols, hok, hcounts, hrun⟩ := runJob_commits h hf
      have hrefuses : Refuses (abandoned w reportDate manual db) db.runs.nextId
          (repeatsScheduled db reportDate manual) := refuses_abandoned
      rw [not_repeats_of_ok hf] at hrefuses
      have hacc := Option.ne_none_iff_exists'.mp fun hn =>
        Bool.false_ne_true ((hrefuses cols hok).mpr hn)
      exact Or.inr ⟨_, cols, hrun, .of_finished hacc (fun r hr => (offered_allStatements hr).tag)
        (hok ▸ List.mem_cons_self) fun hfresh _ => hcounts hfresh⟩
    | some e =>
      obtain ⟨s, cols, hs, hc, hrun⟩ := runJob_failed h hf
      obtain ⟨s', hs', hne, _⟩ := failureStatus_terminal e
      rw [Option.some.inj (hs.symm.trans hs')] at hc
      cases hk : w.failFinal.statement.or w.failFinal.commit with
      | none =>
        simp only [hk] at hrun
        refine Or.inr ⟨_, cols, congrArg Prod.snd hrun, .of_finished
          (finalize?_accepted _ _ (hc ▸ hne)) (fun r hr => (offered_leftBehind hr).tag)
          (hc ▸ (terminal?_eq_some hs').1) fun _ hok => (hne (hc.symm.trans hok)).elim⟩
      | some e' =>
        simp only [hk] at hrun
        exact Or.inl (congrArg Prod.snd hrun)
  · obtain ⟨e, he⟩ := @runJob_not_started w reportDate manual db hstart
    exact Or.inl (congrArg (fun p => p.2.journal) he)

/-- A reap marks the rows that are `running`, or fails. -/
theorem after_reap (f : TxnFaults) (now : Timestamp) (source : String) (db : Db) :
    (Event.reap f now source).after db = db ∨
      ∃ runs, db.runs.reap? source now reapError = some runs ∧
        (Event.reap f now source).after db = { db with runs } := by
  obtain ⟨runs, hreap⟩ := reap?_accepted db.runs source now reapError
  obtain ⟨r, hr⟩ := apply_reapRuns hreap
  rw [Event.after, reapStuckRuns]
  cases hs : f.statement with
  | some e =>
    rw [Session.bind_error (Session.execute_fault ..)]
    exact .inl rfl
  | none =>
    rw [Session.bind_ok (Session.execute_ok hr)]
    cases hc : f.commit with
    | some e => exact .inl rfl
    | none =>
      have hdb : ((Conn.opened db).push [Stmt.reapRuns source now reapError]).commit.durable =
          { db with runs } := by
        rw [Conn.durable_commit, Conn.working_push, Conn.working_opened, replay_cons, replay_nil,
          effect_of_apply hr]
      exact .inr ⟨runs, hreap, hdb⟩

/-- A process that dies in a run leaves one of the states its COMMITs pass. -/
theorem Event.change (e : Event) : Change db (e.after db) := by
  cases e with
  | run w reportDate manual commits =>
    rw [Event.after]
    rcases @runJob_journal w reportDate manual db with h | h | ⟨stmts, cols, h, hchange⟩
    · rw [h, List.take_nil]
      exact .nothing
    · rw [h]
      rcases commits with _ | n
      · exact .nothing
      · simp only [abandoned, List.take_succ_cons, List.take_nil]
        exact .started w reportDate manual
    · rw [h]
      rcases commits with _ | _ | n
      · exact .nothing
      · exact .started w reportDate manual
      · have htake : (finished w reportDate manual db stmts cols).journal.take (n + 1 + 1) =
            (finished w reportDate manual db stmts cols).journal := by simp [finished]
        rw [htake]
        exact hchange
  | reap f now source =>
    rcases after_reap f now source db with h | ⟨runs, hreap, h⟩ <;> rw [h]
    · exact .nothing
    · exact .reaped hreap

end

/-! ## The books over a history -/

theorem ledger_refl {db : Db} (h : Fresh db) : Ledger db db where
  fresh := h
  grown := Nat.le_refl _
  added := ⟨[], by simp, by simp⟩
  counted := fun run hrun hid => absurd (db.runs.ids_lt run hrun) (Nat.not_lt.mpr hid)

section
variable {start db : Db}

/-- The run just started is the only one that the closing UPDATE touches. -/
theorem finalize?_rows {source : String} {d : Date} {now : Timestamp} {manual : Bool}
    {cols : Terminal} {runs : RunsTable}
    (h : (db.runs.insertRun source d now manual).finalize? db.runs.nextId cols = some runs) :
    runs.rows = db.runs.rows ++
        [cols.applyTo (RunsTable.runningRow db.runs.nextId source d now manual)] ∧
      runs.nextId = db.runs.nextId + 1 := by
  obtain ⟨hrows, hnext⟩ := RunsTable.updateWhere?_some h
  refine ⟨?_, hnext⟩
  have hold : (db.runs.rows.map fun r =>
      if decide (r.id = db.runs.nextId) = true then cols.applyTo r else r) = db.runs.rows := by
    refine (List.map_congr_left fun r hr => ?_).trans (List.map_id _)
    have hlt := db.runs.ids_lt r hr
    rw [if_neg (by simp; omega), id]
  rw [hrows, RunsTable.insertRun, List.map_append, hold]
  simp [RunsTable.runningRow]

/-- Rows of another run change nothing in what a run has tagged. -/
theorem tagged_insertAll_other {rows : List AuditRow} {id other : Nat}
    (h : ∀ r ∈ rows, r.ingestRunId = some other) (hne : id ≠ other) :
    AuditTable.tagged (db.audit.insertAll rows) id = db.audit.tagged id := by
  rw [AuditTable.tagged, AuditTable.tagged, AuditTable.insertAll_rows, List.filter_append,
    List.append_right_eq_self, List.filter_eq_nil_iff]
  intro r hr htag
  rw [decide_eq_true_eq, h r (AuditTable.mem_firsts hr).1] at htag
  exact hne (Option.some.inj htag).symm

/-- Under a fresh id the tagged rows are those that were added. -/
theorem tagged_insertAll_own {rows : List AuditRow} (hfresh : Fresh db)
    (h : ∀ r ∈ rows, r.ingestRunId = some db.runs.nextId) :
    (AuditTable.tagged (db.audit.insertAll rows) db.runs.nextId).length = addedBy db rows := by
  have hold := tagged_eq_nil hfresh
  rw [AuditTable.tagged] at hold
  rw [AuditTable.tagged, AuditTable.insertAll_rows, List.filter_append, hold, List.nil_append, addedBy,
    List.filter_eq_self.mpr]
  intro r hr
  rw [decide_eq_true_eq, h r (AuditTable.mem_firsts hr).1]

/-- One event keeps the books: the four changes a database can see. -/
theorem Ledger.change {db' : Db} (h : Ledger start db) (hchange : Change db db') :
    Ledger start db' := by
  obtain ⟨added, hrows, hadded⟩ := h.added
  cases hchange with
  | nothing => exact h
  | started w reportDate manual =>
    refine ⟨fun r hr id htag => Nat.lt_succ_of_lt (h.fresh r hr id htag),
      Nat.le_succ_of_le h.grown, ⟨added, hrows, fun r hr => ?_⟩, fun run hrun hid hok => ?_⟩
    · obtain ⟨run, hrun, hrest⟩ := hadded r hr
      exact ⟨run, List.mem_append_left _ hrun, hrest⟩
    · rcases List.mem_append.mp hrun with hrun | hrun
      · exact h.counted run hrun hid hok
      · rw [List.mem_singleton.mp hrun] at hok
        cases hok
  | @closed w reportDate manual rows cols runs hfin htag hterm hcounts =>
    obtain ⟨hruns, hnext⟩ := finalize?_rows hfin
    have hnew : ∀ r ∈ db.audit.firsts rows,
        r.ingestRunId = some db.runs.nextId := fun r hr => htag r (AuditTable.mem_firsts hr).1
    have haudit := AuditTable.insertAll_rows db.audit rows
    refine ⟨?_, ?_, ⟨added ++ db.audit.firsts rows, ?_, ?_⟩, ?_⟩
    · intro r hr id hid
      show id < runs.nextId
      rw [hnext]
      rcases List.mem_append.mp (haudit ▸ hr) with hr | hr
      · exact Nat.lt_succ_of_lt (h.fresh r hr id hid)
      · rw [hnew r hr] at hid
        exact Option.some.inj hid ▸ Nat.lt_succ_self _
    · show start.runs.nextId ≤ runs.nextId
      exact hnext ▸ Nat.le_succ_of_le h.grown
    · rw [haudit, hrows, List.append_assoc]
    · intro r hr
      show ∃ run ∈ runs.rows, _
      rw [hruns]
      rcases List.mem_append.mp hr with hr | hr
      · obtain ⟨run, hrun, hrest⟩ := hadded r hr
        exact ⟨run, List.mem_append_left _ hrun, hrest⟩
      · exact ⟨_, List.mem_append_right _ (List.mem_singleton_self _), h.grown, hnew r hr, hterm⟩
    · intro run hrun hid hok
      show Counts _ _ _ (AuditTable.tagged (db.audit.insertAll rows) run.id).length
      rcases List.mem_append.mp (hruns ▸ hrun) with hrun | hrun
      · rw [tagged_insertAll_other htag (Nat.ne_of_lt (db.runs.ids_lt run hrun))]
        exact h.counted run hrun hid hok
      · obtain rfl := List.mem_singleton.mp hrun
        show Counts _ _ _ (AuditTable.tagged (db.audit.insertAll rows) db.runs.nextId).length
        rw [tagged_insertAll_own h.fresh htag]
        exact hcounts h.fresh hok
  | @reaped source now runs hreap =>
    -- the reaper closes rows that are `running`, under a failure status
    obtain ⟨hruns, hnext⟩ := RunsTable.updateWhere?_some hreap
    have hclosed : Status.ingestFailed ∈ terminal := by simp [terminal]
    refine ⟨fun r hr id hid => hnext ▸ h.fresh r hr id hid, hnext ▸ h.grown,
      ⟨added, hrows, fun r hr => ?_⟩, fun run hrun hid hok => ?_⟩
    · obtain ⟨run, hrun, hid, htag, hterm⟩ := hadded r hr
      refine ⟨_, hruns ▸ List.mem_map_of_mem hrun, ?_⟩
      split
      · exact ⟨hid, htag, hclosed⟩
      · exact ⟨hid, htag, hterm⟩
    · rw [hruns] at hrun
      obtain ⟨run, hold, rfl⟩ := List.mem_map.mp hrun
      by_cases hp : decide (run.source = source ∧ run.status = .running) = true
      · rw [if_pos hp] at hok
        cases hok
      · rw [if_neg hp] at hid hok ⊢
        exact h.counted run hold hid hok

theorem Ledger.run_all {history : List Event} (h : Ledger start db) :
    Ledger start (runAll db history) := by
  induction history generalizing db with
  | nil => exact h
  | cons e history ih => exact ih (h.change e.change)

end

/-- From a database whose next run id is on no row, whatever fails and wherever the process
dies: the audit rows of before stay, every new one is tagged with a run that is closed, and
a run closed as `ok` has inserted as many rows as it says, its duplicates being the rest of
the report. -/
theorem runs_account_for_rows (start : Db) (history : List Event) (h : Fresh start) :
    Ledger start (runAll start history) :=
  (ledger_refl h).run_all

/-- A run that dies behind `start_run`, the reap, and a run that gets a row in. -/
def threeEvents : List Event :=
  [.run (calm.reporting [someRow]) someDay false 1, .reap ⟨none, none⟩ 2 "Bluewave",
    .run (calm.reporting [someRow]) someDay false 2]

theorem runs_account_for_rows_three :
    Ledger emptyDb (runAll emptyDb threeEvents) ∧
      (runAll emptyDb threeEvents).audit.rows.length = 1 :=
  ⟨runs_account_for_rows emptyDb threeEvents (fun _ hr => by cases hr), by decide⟩

end Bluewave.Accounting
