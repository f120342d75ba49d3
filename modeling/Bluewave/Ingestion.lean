import Bluewave.RunOutcome

/-! Many ingestions into one audit table: any lists, in any order, with failed
attempts that committed some of their statements or none. Every attempt offers
rows to a keyed table, so a history is one long insert. -/
namespace Bluewave.Ingestion
open Lib Bluewave.Exceptions Bluewave.Tables Bluewave.Sink
open Bluewave.RunJob Bluewave.RunOutcome

/-- One `insert_rows` on a fresh connection, and whether its caller commits. -/
structure Attempt where
  rows : List Row
  runId : Nat
  executemany : ExecuteMany
  faults : SinkFaults
  batchSize : Nat
  batchSize_pos : 0 < batchSize
  committed : Bool

namespace Attempt

def run (a : Attempt) (db : Db) : Except Exn (Int × Int) × Conn Db Stmt :=
  (insertRows a.executemany a.faults a.rows a.runId a.batchSize).run (.opened db)

/-- The content once the connection is committed or closed. -/
def after (a : Attempt) (db : Db) : Db :=
  if a.committed then (a.run db).2.commit.durable else (a.run db).2.rollback.durable

/-- `insert_rows` returns and its caller commits. -/
def Completed (a : Attempt) : Prop :=
  insertFailure a.executemany a.faults a.rows a.runId a.batchSize = none ∧ a.committed = true

/-- The rows an attempt makes durable, as far as their hashes are new. -/
def offered (a : Attempt) : List AuditRow :=
  if a.committed then (landedStatements a.executemany a.faults a.rows a.runId a.batchSize).flatten
  else []

theorem after_eq (a : Attempt) (db : Db) :
    a.after db = { db with audit := db.audit.insertAll a.offered } := by
  obtain ⟨_, hrun⟩ := insertRows_run a.executemany a.faults a.rows a.runId a.batchSize_pos
    (.opened db)
  have hconn : (a.run db).2 = (Conn.opened db).push ((landedStatements a.executemany a.faults a.rows
      a.runId a.batchSize).map Stmt.insertAudit) := congrArg Prod.snd hrun
  rw [after, hconn, offered]
  cases a.committed with
  | true => simp [replay_insertAudit]
  | false => simp

/-- Only rows of the list are offered. -/
theorem mem_offered {a : Attempt} {r : AuditRow} (h : r ∈ a.offered) :
    ∃ row ∈ a.rows, r = params row a.runId := by
  rw [offered] at h
  split at h
  · obtain ⟨stmt, hstmt, hr⟩ := List.mem_flatten.mp h
    have hin : stmt ∈ statements a.executemany a.rows a.runId a.batchSize :=
      (Session.landed_initial ..).subset hstmt
    have hall : r ∈ (statements a.executemany a.rows a.runId a.batchSize).flatten :=
      List.mem_flatten.mpr ⟨stmt, hin, hr⟩
    rw [statements_flatten a.executemany a.rows a.runId a.batchSize_pos] at hall
    obtain ⟨row, hrow, rfl⟩ := List.mem_map.mp hall
    exact ⟨row, hrow, rfl⟩
  · cases h

/-- A completed attempt offers every row. -/
theorem offered_completed {a : Attempt} (h : a.Completed) :
    a.offered = a.rows.map (params · a.runId) := by
  obtain ⟨hok, hcommit⟩ := h
  rw [offered, if_pos hcommit, landedStatements_of_ok hok,
    statements_flatten a.executemany a.rows a.runId a.batchSize_pos]

end Attempt

/-- Attempts one after another. -/
def ingestAll (db : Db) (history : List Attempt) : Db := history.foldl (fun db a => a.after db) db

theorem ingestAll_eq (db : Db) (history : List Attempt) :
    ingestAll db history =
      { db with audit := db.audit.insertAll (history.flatMap Attempt.offered) } := by
  induction history generalizing db with
  | nil => rfl
  | cons a history ih =>
    have hstep : ingestAll db (a :: history) = ingestAll (a.after db) history := rfl
    rw [hstep, ih, a.after_eq]
    simp [AuditTable.insertAll_append]

/-- Attempts on these lists only, with a completed one for each. -/
structure Covers (lists : List (List Row)) (history : List Attempt) : Prop where
  only : ∀ a ∈ history, a.rows ∈ lists
  each : ∀ rows ∈ lists, ∃ a ∈ history, a.rows = rows ∧ a.Completed

def hashes (lists : List (List Row)) : List String := lists.flatten.map Row.dedupHash

section
variable {lists : List (List Row)} {history : List Attempt} {db : Db}

/-- A covering history offers every hash of the lists, and no other. -/
theorem offered_hashes (h : Covers lists history) (hash : String) :
    hash ∈ (history.flatMap Attempt.offered).map AuditRow.dedupHash ↔ hash ∈ hashes lists := by
  constructor
  · intro hm
    obtain ⟨r, hr, rfl⟩ := List.mem_map.mp hm
    obtain ⟨a, ha, hra⟩ := List.mem_flatMap.mp hr
    obtain ⟨row, hrow, rfl⟩ := Attempt.mem_offered hra
    exact List.mem_map.mpr ⟨row, List.mem_flatten.mpr ⟨_, h.only a ha, hrow⟩, rfl⟩
  · intro hm
    obtain ⟨row, hrow, rfl⟩ := List.mem_map.mp hm
    obtain ⟨rows, hrows, hin⟩ := List.mem_flatten.mp hrow
    obtain ⟨a, ha, rfl, hdone⟩ := h.each rows hrows
    refine List.mem_map.mpr ⟨params row a.runId, List.mem_flatMap.mpr ⟨a, ha, ?_⟩, rfl⟩
    rw [Attempt.offered_completed hdone]
    exact List.mem_map_of_mem hin

theorem ingestAll_collate (db : Db) (history : List Attempt) :
    (ingestAll db history).audit.collate = db.audit.collate := by
  rw [ingestAll_eq]
  rfl

theorem holds_ingestAll (h : Covers lists history) (hash : String) :
    (ingestAll db history).audit.Holds hash ↔
      db.audit.Holds hash ∨ ∃ k ∈ hashes lists, db.audit.collate k = db.audit.collate hash := by
  rw [ingestAll_eq]
  show (db.audit.insertAll _).Holds hash ↔ _
  rw [AuditTable.holds_insertAll]
  refine or_congr Iff.rfl ⟨fun ⟨r, hr, he⟩ => ?_, fun ⟨k, hk, he⟩ => ?_⟩
  · exact ⟨r.dedupHash, (offered_hashes h _).mp (List.mem_map_of_mem hr), he⟩
  · obtain ⟨r, hr, rfl⟩ := List.mem_map.mp ((offered_hashes h k).mpr hk)
    exact ⟨r, hr, he⟩

/-- What a history adds: rows of the lists, under the ids of its attempts. -/
theorem ingestAll_rows (db : Db) (history : List Attempt) :
    ∃ added, (ingestAll db history).audit.rows = db.audit.rows ++ added ∧
      ∀ r ∈ added, ¬ db.audit.Holds r.dedupHash ∧
        ∃ a ∈ history, ∃ row ∈ a.rows, r = params row a.runId := by
  refine ⟨_, by rw [ingestAll_eq, AuditTable.insertAll_rows], fun r hr => ?_⟩
  obtain ⟨hin, hnew⟩ := AuditTable.mem_firsts hr
  obtain ⟨a, ha, hra⟩ := List.mem_flatMap.mp hin
  exact ⟨hnew, a, ha, Attempt.mem_offered hra⟩

/-- An id that no attempt of a history used is as fresh as before. -/
theorem tagged_ingestAll {runId : Nat} (hfresh : db.audit.tagged runId = [])
    (hunused : ∀ a ∈ history, a.runId ≠ runId) :
    (ingestAll db history).audit.tagged runId = [] := by
  obtain ⟨added, hrows, hadded⟩ := ingestAll_rows db history
  rw [AuditTable.tagged] at hfresh ⊢
  rw [hrows, List.filter_append, hfresh, List.nil_append, List.filter_eq_nil_iff]
  intro r hr
  obtain ⟨_, a, ha, row, _, rfl⟩ := hadded r hr
  simp [params, hunused a ha]

/-- Ingesting a list whose hashes are all there changes nothing and counts every
row as a duplicate. -/
theorem Attempt.run_known {a : Attempt} (hdone : a.Completed)
    (hfresh : db.audit.tagged a.runId = [])
    (hknown : ∀ row ∈ a.rows, db.audit.Holds row.dedupHash) :
    (a.run db).1 = .ok (0, a.rows.length) ∧ a.after db = db := by
  have hkeys : ∀ r ∈ a.rows.map (params · a.runId), db.audit.Holds r.dedupHash := by
    intro r hr
    obtain ⟨row, hrow, rfl⟩ := List.mem_map.mp hr
    exact hknown row hrow
  have hself := AuditTable.insertAll_eq_self_iff.mpr hkeys
  have hnone := AuditTable.firsts_eq_nil hkeys
  constructor
  · have hrun := insertRows_ok a.batchSize_pos hdone.1 (c := .opened db) hfresh
    rw [Attempt.run, hrun]
    simp [hnone]
  · rw [a.after_eq, Attempt.offered_completed hdone, hself]

end

/-- Exactly-once ingestion, with hashes compared as the server does. -/
theorem exactly_once (db : Db) (lists : List (List Row)) (history : List Attempt)
    (h : Covers lists history) :
    (∃ added, (ingestAll db history).audit.rows = db.audit.rows ++ added ∧
        ∀ r ∈ added, ¬ db.audit.Holds r.dedupHash ∧
          ∃ rows ∈ lists, ∃ row ∈ rows, ∃ runId, r = params row runId) ∧
      (∀ hash ∈ hashes lists, ∃! r, r ∈ (ingestAll db history).audit.rows ∧
        db.audit.collate r.dedupHash = db.audit.collate hash) ∧
      (∀ history', Covers lists history' → ∀ hash,
        (ingestAll db history').audit.Holds hash ↔ (ingestAll db history).audit.Holds hash) ∧
      ∀ a : Attempt, a.rows ∈ lists → a.Completed → db.audit.tagged a.runId = [] →
        (∀ b ∈ history, b.runId ≠ a.runId) →
        (a.run (ingestAll db history)).1 = .ok (0, a.rows.length) ∧
          a.after (ingestAll db history) = ingestAll db history := by
  refine ⟨?_, ?_, ?_, ?_⟩
  · obtain ⟨added, hrows, hadded⟩ := ingestAll_rows db history
    refine ⟨added, hrows, fun r hr => ?_⟩
    obtain ⟨hnew, a, ha, row, hrow, rfl⟩ := hadded r hr
    exact ⟨hnew, a.rows, h.only a ha, row, hrow, a.runId, rfl⟩
  · intro hash hm
    rw [← ingestAll_collate db history]
    exact AuditTable.existsUnique_row ((holds_ingestAll h hash).mpr (.inr ⟨hash, hm, rfl⟩))
  · intro history' h' hash
    rw [holds_ingestAll h, holds_ingestAll h']
  · intro a ha hdone hfresh hunused
    refine Attempt.run_known hdone (tagged_ingestAll hfresh hunused) fun row hrow => ?_
    have hmem : row.dedupHash ∈ hashes lists :=
      List.mem_map_of_mem (List.mem_flatten.mpr ⟨a.rows, ha, hrow⟩)
    exact (holds_ingestAll h _).mpr (.inr ⟨row.dedupHash, hmem, rfl⟩)

def someAttempt (faults : SinkFaults) : Attempt where
  rows := [someRow]
  runId := 2
  executemany := calm.executemany
  faults := faults
  batchSize := defaultBatchSize
  batchSize_pos := by decide
  committed := true

/-- A failed attempt and a completed one. -/
theorem exactly_once_retry :
    ∃! r, r ∈ (ingestAll emptyDb [{ someAttempt ⟨fun _ => none, some (valueError "lost")⟩ with
        runId := 1 }, someAttempt ⟨fun _ => none, none⟩]).audit.rows ∧
      foldCase r.dedupHash = foldCase someRow.dedupHash := by
  have hcovers : Covers [[someRow]] [{ someAttempt ⟨fun _ => none, some (valueError "lost")⟩ with
      runId := 1 }, someAttempt ⟨fun _ => none, none⟩] := by
    constructor
    · intro a ha
      simp only [List.mem_cons, List.not_mem_nil, or_false] at ha
      rcases ha with rfl | rfl <;> exact List.mem_singleton_self _
    · intro rows hrows
      rw [List.mem_singleton.mp hrows]
      exact ⟨someAttempt ⟨fun _ => none, none⟩, by simp, rfl, by decide, rfl⟩
  exact (exactly_once emptyDb _ _ hcovers).2.1 someRow.dedupHash (by decide)

/-! ## Runs are attempts -/

/-- What a run that gets its rows makes durable is an attempt at them, completed
when the run is `ok`. -/
theorem runJob_attempt {w : World} {cfg : Config} {reportDate : Date} {manual : Bool} {db : Db}
    {rows : List Row} (h : Starts w cfg) (hacq : acquire w cfg reportDate = .ok (some rows)) :
    ∃ a : Attempt, a.rows = rows ∧ a.runId = db.runs.nextId ∧
      (runJob w reportDate manual db).2.durable.audit = (a.after db).audit ∧
      ((runJob w reportDate manual db).1 = .ok "ok" → a.Completed) := by
  let attempt : Bool → Attempt := fun committed =>
    ⟨rows, db.runs.nextId, w.executemany, w.sink, defaultBatchSize, by decide, committed⟩
  cases hf : firstFailure w cfg reportDate db.runs.nextId
      (repeatsScheduled db reportDate manual) with
  | none =>
    obtain ⟨cols, _, _, hrun⟩ := runJob_ok h hf
    simp only [firstFailure, hacq, Option.or_eq_none_iff] at hf
    have hdone : (attempt true).Completed := ⟨hf.1, rfl⟩
    refine ⟨attempt true, rfl, rfl, ?_, fun _ => hdone⟩
    rw [hrun, finished_audit, Attempt.after_eq, Attempt.offered_completed hdone, allStatements,
      hacq, statements_flatten _ _ _ (by decide)]
  | some e =>
    obtain ⟨_, cols, _, _, hrun⟩ := runJob_failed h hf
    cases hk : w.failFinal.statement.or w.failFinal.commit with
    | some e' =>
      simp only [hk] at hrun
      refine ⟨attempt false, rfl, rfl, ?_, fun hok => ?_⟩
      · rw [hrun, Attempt.after_eq]
        rfl
      · rw [hrun] at hok
        cases hok
    | none =>
      simp only [hk] at hrun
      refine ⟨attempt (!(insertFailure w.executemany w.sink rows db.runs.nextId
        defaultBatchSize = none ∧ w.okFinal.statement = none ∧
          repeatsScheduled db reportDate manual = false)), rfl, rfl, ?_, fun hok => ?_⟩
      · rw [hrun, finished_audit, Attempt.after_eq, leftBehind, hacq]
        simp only [attempt, Attempt.offered, Bool.not_eq_true', decide_eq_false_iff_not]
        split <;> simp_all
      · rw [hrun] at hok
        exact (failureStatus_ne_ok e (Except.ok.inj hok)).elim

end Bluewave.Ingestion
