import Mathlib.Data.List.Nodup
import Bluewave.Lib.Keyed
import Bluewave.Lib.Transaction
import Bluewave.Exceptions

/-! The two MySQL tables and the statements the worker runs on them. The unique
keys of the DDL are fields of the table types, so a statement that would break
one has no result to give and is rejected. `id`, `ingested_at` of the audit
table and the secondary indexes are left out: no function reads them. -/
namespace Bluewave.Tables
open Lib Bluewave.Exceptions

/-- A calendar date by its proleptic Gregorian ordinal, `date.min` to `date.max`. -/
structure Date where
  ordinal : Nat
  one_le : 1 ≤ ordinal
  le_max : ordinal ≤ 3652059
  deriving DecidableEq

instance : LE Date := ⟨fun a b => a.ordinal ≤ b.ordinal⟩
instance : DecidableRel (α := Date) (· ≤ ·) := fun a b => Nat.decLe a.ordinal b.ordinal

/-- `d - timedelta(days=n)`. -/
def Date.minusDays (d : Date) (n : Int) : Except Exn Date :=
  if h : 1 ≤ (d.ordinal : Int) - n ∧ (d.ordinal : Int) - n ≤ 3652059 then
    .ok ⟨((d.ordinal : Int) - n).toNat, by omega, by omega⟩
  else .error (overflowError "date value out of range")

/-- A UTC instant in microseconds. -/
abbrev Timestamp := Int

/-! ## z_audit_logs_efk -/

/-- `transform.Row`: one event, ready for insert. -/
structure Row where
  timestamp : Timestamp
  source : String
  operation : String
  instance_ : String
  userName : Option String
  userId : Option String
  extraDataStr : Option String
  dedupHash : String
  deriving DecidableEq

/-- A row of the audit table. `timestamp` is a `DATETIME(3)`, in milliseconds. -/
structure AuditRow where
  timestamp : Int
  source : String
  operation : String
  instance_ : String
  userName : Option String
  userId : Option String
  extraData : Option String
  comments : Option String
  dedupHash : String
  ingestRunId : Option Nat
  deriving DecidableEq

/-- The table, with `uk_dedup_hash`. MySQL compares the hashes by the collation of their
column, which is not by their spelling: `collate` is its sort key, and texts with one sort
key are one text to the server. -/
structure AuditTable where
  collate : String → String
  table : Keyed fun r : AuditRow => collate r.dedupHash

namespace AuditTable

def empty (collate : String → String) : AuditTable := ⟨collate, ⟨[], by simp⟩⟩

def rows (t : AuditTable) : List AuditRow := t.table.rows

/-- The sort keys of the stored hashes. -/
def keys (t : AuditTable) : List String := t.table.keys

/-- The hash is in the table, as the server compares. -/
def Holds (t : AuditTable) (hash : String) : Prop := t.collate hash ∈ t.keys

instance (t : AuditTable) (hash : String) : Decidable (t.Holds hash) :=
  inferInstanceAs (Decidable (_ ∈ _))

def insertAll (t : AuditTable) (rows : List AuditRow) : AuditTable :=
  { t with table := t.table.insertAll rows }

/-- Of the rows offered, those that come first for a hash the table does not hold. -/
def firsts (t : AuditTable) (rows : List AuditRow) : List AuditRow :=
  Keyed.firsts (fun r => t.collate r.dedupHash) t.keys rows

/-- The rows a run has tagged. -/
def tagged (t : AuditTable) (runId : Nat) : List AuditRow :=
  t.rows.filter fun r => r.ingestRunId = some runId

@[simp] theorem insertAll_collate (t : AuditTable) (rows : List AuditRow) :
    (t.insertAll rows).collate = t.collate := rfl

@[simp] theorem insertAll_nil (t : AuditTable) : t.insertAll [] = t := rfl

theorem insertAll_append (t : AuditTable) (rows rows' : List AuditRow) :
    t.insertAll (rows ++ rows') = (t.insertAll rows).insertAll rows' := by
  unfold insertAll
  rw [Keyed.insertAll_append]

theorem insertAll_rows (t : AuditTable) (rows : List AuditRow) :
    (t.insertAll rows).rows = t.rows ++ t.firsts rows := Keyed.insertAll_rows t.table rows

theorem holds_iff {t : AuditTable} {hash : String} :
    t.Holds hash ↔ ∃ r ∈ t.rows, t.collate r.dedupHash = t.collate hash := List.mem_map

theorem holds_insertAll {t : AuditTable} {rows : List AuditRow} {hash : String} :
    (t.insertAll rows).Holds hash ↔
      t.Holds hash ∨ ∃ r ∈ rows, t.collate r.dedupHash = t.collate hash :=
  Keyed.mem_keys_insertAll.trans (or_congr Iff.rfl List.mem_map)

/-- A hash the table holds belongs to one row. -/
theorem existsUnique_row {t : AuditTable} {hash : String} (h : t.Holds hash) :
    ∃! r, r ∈ t.rows ∧ t.collate r.dedupHash = t.collate hash := Keyed.existsUnique_row h

/-- Rows whose hashes are all held change nothing, and only these. -/
theorem insertAll_eq_self_iff {t : AuditTable} {rows : List AuditRow} :
    t.insertAll rows = t ↔ ∀ r ∈ rows, t.Holds r.dedupHash := by
  constructor
  · intro h r hr
    rw [← h]
    exact holds_insertAll.mpr (.inr ⟨r, hr, rfl⟩)
  · intro h
    have htable : t.table.insertAll rows = t.table := Keyed.insertAll_eq_self_iff.mpr h
    unfold insertAll
    rw [htable]

theorem mem_firsts {t : AuditTable} {rows : List AuditRow} {r : AuditRow} (h : r ∈ t.firsts rows) :
    r ∈ rows ∧ ¬ t.Holds r.dedupHash := Keyed.mem_firsts h

theorem length_firsts_le (t : AuditTable) (rows : List AuditRow) :
    (t.firsts rows).length ≤ rows.length := Keyed.length_firsts_le _ _

/-- Nothing comes first where every hash is held. -/
theorem firsts_eq_nil {t : AuditTable} {rows : List AuditRow}
    (h : ∀ r ∈ rows, t.Holds r.dedupHash) : t.firsts rows = [] :=
  List.eq_nil_iff_forall_not_mem.mpr fun r hr => (mem_firsts hr).2 (h r (mem_firsts hr).1)

end AuditTable

/-- Hexadecimal digits are one to the server in either letter case. -/
def foldCase (s : String) : String := String.ofList (s.toList.map Char.toLower)

/-! ## z_audit_logs_efk_runs -/

/-- The values of the `status` column. -/
inductive Status where
  | running
  | ok
  | authFailed
  | navFailed
  | reportTimeout
  | downloadFailed
  | parseFailed
  | ingestFailed
  | schemaDrift
  | skipped
  deriving DecidableEq

def Status.text : Status → String
  | .running => "running"
  | .ok => "ok"
  | .authFailed => "auth_failed"
  | .navFailed => "nav_failed"
  | .reportTimeout => "report_timeout"
  | .downloadFailed => "download_failed"
  | .parseFailed => "parse_failed"
  | .ingestFailed => "ingest_failed"
  | .schemaDrift => "schema_drift"
  | .skipped => "skipped"

structure RunRow where
  id : Nat
  source : String
  reportDate : Date
  startedAt : Timestamp
  finishedAt : Option Timestamp
  status : Status
  rowsInCsv : Option Int
  rowsInserted : Option Int
  rowsDuplicate : Option Int
  manual : Bool
  errorExcerpt : Option String
  screenshotPath : Option String
  deriving DecidableEq

/-- The generated column `ok_scheduled_date`. -/
def RunRow.okScheduledDate (r : RunRow) : Option Date :=
  if r.status = .ok ∧ r.manual = false then some r.reportDate else none

/-- The `uk_ok_scheduled_date` entry of a row; NULLs do not conflict. -/
def RunRow.okScheduledKey (r : RunRow) : Option (String × Date) :=
  r.okScheduledDate.map fun d => (r.source, d)

/-- The runs table, with its primary key and `uk_ok_scheduled_date`. -/
structure RunsTable where
  rows : List RunRow
  nextId : Nat
  ids_lt : ∀ r ∈ rows, r.id < nextId
  ids_nodup : (rows.map RunRow.id).Nodup
  ok_scheduled_nodup : (rows.filterMap RunRow.okScheduledKey).Nodup

namespace RunsTable

@[ext] theorem ext {t u : RunsTable} (hr : t.rows = u.rows) (hn : t.nextId = u.nextId) : t = u := by
  cases t; cases u; cases hr; cases hn; rfl

def empty : RunsTable := ⟨[], 1, by simp, by simp, by simp⟩

/-- The row `start_run` inserts. -/
def runningRow (id : Nat) (source : String) (reportDate : Date) (startedAt : Timestamp)
    (manual : Bool) : RunRow :=
  { id, source, reportDate, startedAt, finishedAt := none, status := .running, rowsInCsv := none,
    rowsInserted := none, rowsDuplicate := none, manual, errorExcerpt := none,
    screenshotPath := none }

theorem okScheduledKey_running (id : Nat) (source : String) (d : Date) (now : Timestamp)
    (manual : Bool) : (runningRow id source d now manual).okScheduledKey = none := rfl

def insertRun (t : RunsTable) (source : String) (reportDate : Date) (startedAt : Timestamp)
    (manual : Bool) : RunsTable where
  rows := t.rows ++ [runningRow t.nextId source reportDate startedAt manual]
  nextId := t.nextId + 1
  ids_lt := by
    intro r hr
    rcases List.mem_append.mp hr with h | h
    · exact Nat.lt_succ_of_lt (t.ids_lt r h)
    · rw [List.mem_singleton.mp h]
      exact Nat.lt_succ_self _
  ids_nodup := by
    rw [List.map_append, List.nodup_append]
    refine ⟨t.ids_nodup, by simp, ?_⟩
    intro x hx y hy he
    obtain ⟨r, hr, rfl⟩ := List.mem_map.mp hx
    have hy' : y = t.nextId := by simpa [runningRow] using hy
    have := t.ids_lt r hr
    omega
  ok_scheduled_nodup := by
    rw [List.filterMap_append, List.filterMap_cons_none (okScheduledKey_running ..),
      List.filterMap_nil, List.append_nil]
    exact t.ok_scheduled_nodup

/-- An UPDATE of the rows that `p` selects, rejected when it breaks
`uk_ok_scheduled_date`. `f` may not touch the primary key. -/
def updateWhere? (t : RunsTable) (p : RunRow → Bool) (f : RunRow → RunRow)
    (hid : ∀ r, (f r).id = r.id) : Option RunsTable :=
  let rows := t.rows.map fun r => if p r then f r else r
  if h : (rows.filterMap RunRow.okScheduledKey).Nodup then
    some
      { rows, nextId := t.nextId
        ids_lt := by
          intro r hr
          obtain ⟨r', hr', rfl⟩ := List.mem_map.mp hr
          split
          · rw [hid]; exact t.ids_lt r' hr'
          · exact t.ids_lt r' hr'
        ids_nodup := by
          have hmap : rows.map RunRow.id = t.rows.map RunRow.id := by
            rw [List.map_map]
            refine List.map_congr_left fun r _ => ?_
            simp only [Function.comp]
            split
            · exact hid r
            · rfl
          rw [hmap]; exact t.ids_nodup
        ok_scheduled_nodup := h }
  else none

/-- What an accepted UPDATE leaves. -/
theorem updateWhere?_some {t u : RunsTable} {p : RunRow → Bool} {f : RunRow → RunRow}
    {hid : ∀ r, (f r).id = r.id} (h : t.updateWhere? p f hid = some u) :
    u.rows = (t.rows.map fun r => if p r then f r else r) ∧ u.nextId = t.nextId := by
  unfold updateWhere? at h
  dsimp only at h
  split at h
  · cases h; exact ⟨rfl, rfl⟩
  · cases h

theorem nodup (t : RunsTable) : t.rows.Nodup := t.ids_nodup.of_map _

/-- An UPDATE is accepted exactly when no two rows share an entry after it. -/
theorem updateWhere?_accepted_iff {t : RunsTable} {p : RunRow → Bool} {f : RunRow → RunRow}
    {hid : ∀ r, (f r).id = r.id} :
    (∃ u, t.updateWhere? p f hid = some u) ↔
      ∀ a ∈ t.rows, ∀ b ∈ t.rows, ∀ k, (if p a then f a else a).okScheduledKey = some k →
        (if p b then f b else b).okScheduledKey = some k → a = b := by
  have hiff := filterMap_nodup_iff (f := RunRow.okScheduledKey ∘ fun r => if p r then f r else r)
    t.nodup
  rw [← List.filterMap_map] at hiff
  refine Iff.trans ?_ hiff
  constructor
  · rintro ⟨u, hu⟩
    rw [← (updateWhere?_some hu).1]
    exact u.ok_scheduled_nodup
  · intro h
    exact ⟨_, by unfold updateWhere?; exact dif_pos h⟩

/-- Rows with one id are one row. -/
theorem eq_of_id {t : RunsTable} {r r' : RunRow} (h : r ∈ t.rows) (h' : r' ∈ t.rows)
    (he : r.id = r'.id) : r = r' :=
  List.inj_on_of_nodup_map t.ids_nodup h h' he

/-- Rows with one `uk_ok_scheduled_date` entry are one row. -/
theorem eq_of_okScheduledKey {t : RunsTable} {r r' : RunRow} {k : String × Date}
    (h : r ∈ t.rows) (h' : r' ∈ t.rows) (hk : r.okScheduledKey = some k)
    (hk' : r'.okScheduledKey = some k) : r = r' :=
  (filterMap_nodup_iff t.nodup).mp t.ok_scheduled_nodup r h r' h' k hk hk'

end RunsTable

/-- The columns `finalize_run` sets. -/
structure Terminal where
  finishedAt : Timestamp
  status : Status
  rowsInCsv : Option Int
  rowsInserted : Option Int
  rowsDuplicate : Option Int
  errorExcerpt : Option String
  screenshotPath : Option String
  deriving DecidableEq

def Terminal.applyTo (cols : Terminal) (r : RunRow) : RunRow :=
  { r with
    finishedAt := some cols.finishedAt, status := cols.status, rowsInCsv := cols.rowsInCsv
    rowsInserted := cols.rowsInserted, rowsDuplicate := cols.rowsDuplicate
    errorExcerpt := cols.errorExcerpt, screenshotPath := cols.screenshotPath }

/-- `reap_stuck_runs` on one row: `finished_at` is kept when it is set. -/
def RunRow.reap (now : Timestamp) (error : String) (r : RunRow) : RunRow :=
  { r with
    status := .ingestFailed, finishedAt := some (r.finishedAt.getD now)
    errorExcerpt := some error }

/-- `UPDATE … WHERE id = …`. -/
def RunsTable.finalize? (t : RunsTable) (id : Nat) (cols : Terminal) : Option RunsTable :=
  t.updateWhere? (fun r => r.id = id) cols.applyTo fun _ => rfl

/-- `UPDATE … WHERE source = … AND status = 'running'`. -/
def RunsTable.reap? (t : RunsTable) (source : String) (now : Timestamp) (error : String) :
    Option RunsTable :=
  t.updateWhere? (fun r => r.source = source ∧ r.status = .running) (RunRow.reap now error)
    fun _ => rfl

/-! ## The database -/

structure Db where
  audit : AuditTable
  runs : RunsTable

/-- The statements of `runs.py` and `sink.py` that write. -/
inductive Stmt where
  | insertRun (source : String) (reportDate : Date) (startedAt : Timestamp) (manual : Bool)
  | updateRun (id : Nat) (cols : Terminal)
  | reapRuns (source : String) (now : Timestamp) (error : String)
  | insertAudit (rows : List AuditRow)
  deriving DecidableEq

/-- The server's answer to a write. -/
structure OkPacket where
  affectedRows : Nat
  lastInsertId : Nat

def Db.apply (db : Db) : Stmt → Except Exn (OkPacket × Db)
  | .insertRun source d now manual =>
    .ok (⟨1, db.runs.nextId⟩, { db with runs := db.runs.insertRun source d now manual })
  | .updateRun id cols =>
    match db.runs.finalize? id cols with
    | some runs => .ok (⟨(db.runs.rows.filter fun r => r.id = id).length, 0⟩, { db with runs })
    | none => .error (duplicateEntry "uk_ok_scheduled_date")
  | .reapRuns source now error =>
    match db.runs.reap? source now error with
    | some runs =>
      .ok (⟨(db.runs.rows.filter fun r => r.source = source ∧ r.status = .running).length, 0⟩,
        { db with runs })
    | none => .error (duplicateEntry "uk_ok_scheduled_date")
  | .insertAudit rows =>
    -- INSERT … ON DUPLICATE KEY UPDATE id = id: a taken hash leaves its row as it is
    .ok (⟨rows.length, 0⟩, { db with audit := db.audit.insertAll rows })

instance : Store Db Stmt Exn OkPacket := ⟨Db.apply⟩

theorem apply_insertAudit (db : Db) (rows : List AuditRow) :
    Store.apply db (Stmt.insertAudit rows) =
      .ok (⟨rows.length, 0⟩, { db with audit := db.audit.insertAll rows }) := rfl

theorem apply_insertRun (db : Db) (source : String) (d : Date) (now : Timestamp) (manual : Bool) :
    Store.apply db (Stmt.insertRun source d now manual) =
      .ok (⟨1, db.runs.nextId⟩, { db with runs := db.runs.insertRun source d now manual }) := rfl

theorem apply_updateRun_some {db : Db} {id : Nat} {cols : Terminal} {runs : RunsTable}
    (h : db.runs.finalize? id cols = some runs) :
    ∃ r, Store.apply db (Stmt.updateRun id cols) = .ok (r, { db with runs }) :=
  ⟨_, by simp only [Store.apply, Db.apply, h]; rfl⟩

theorem apply_updateRun_none {db : Db} {id : Nat} {cols : Terminal}
    (h : db.runs.finalize? id cols = none) :
    Store.apply db (Stmt.updateRun id cols) = .error (duplicateEntry "uk_ok_scheduled_date") := by
  simp only [Store.apply, Db.apply, h]

theorem apply_reapRuns {db : Db} {source error : String} {now : Timestamp} {runs : RunsTable}
    (h : db.runs.reap? source now error = some runs) :
    ∃ r, Store.apply db (Stmt.reapRuns source now error) = .ok (r, { db with runs }) :=
  ⟨_, by simp only [Store.apply, Db.apply, h]; rfl⟩

@[simp] theorem effect_insertAudit (db : Db) (rows : List AuditRow) :
    effect db (Stmt.insertAudit rows) = { db with audit := db.audit.insertAll rows } := rfl

@[simp] theorem effect_insertRun (db : Db) (source : String) (d : Date) (now : Timestamp)
    (manual : Bool) : effect db (Stmt.insertRun source d now manual) =
      { db with runs := db.runs.insertRun source d now manual } := rfl

/-- INSERTs into the audit table, one statement after another. -/
theorem replay_insertAudit (db : Db) (stmts : List (List AuditRow)) :
    replay db (stmts.map Stmt.insertAudit) =
      { db with audit := db.audit.insertAll stmts.flatten } := by
  induction stmts generalizing db with
  | nil => rfl
  | cons rows stmts ih =>
    rw [List.map_cons, replay_cons, effect_insertAudit, ih]
    simp [AuditTable.insertAll_append]

end Bluewave.Tables
