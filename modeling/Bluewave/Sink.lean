import Bluewave.Tables

/-! `sink.insert_rows`: batches of INSERT … ON DUPLICATE KEY UPDATE id = id in
the caller's transaction, and the counts read back from the run's tag. -/
namespace Bluewave.Sink
open Lib Bluewave.Exceptions Bluewave.Tables

/-- How `executemany` spreads the rows of a batch over INSERT statements: by
statement length, in order, nothing left out. -/
structure ExecuteMany where
  split : List AuditRow → List (List AuditRow)
  flatten_split : ∀ rows, (split rows).flatten = rows

/-- Failures from outside: of the `k`-th INSERT statement, and of the COUNT. -/
structure SinkFaults where
  insert : Nat → Option Exn
  count : Option Exn

def defaultBatchSize : Nat := 500

theorem defaultBatchSize_pos : 0 < defaultBatchSize := by decide

/-- `seq[i : i + size] for i in range(0, len(seq), size)`. -/
def chunks {α : Type} (seq : List α) (size : Nat) : List (List α) :=
  (List.range ((seq.length + size - 1) / size)).map fun k => (seq.drop (k * size)).take size

/-- The SQL parameters of one row; `comments` is always NULL. -/
def params (r : Row) (ingestRunId : Nat) : AuditRow where
  timestamp := r.timestamp / 1000
  source := r.source
  operation := r.operation
  instance_ := r.instance_
  userName := r.userName
  userId := r.userId
  extraData := r.extraDataStr
  comments := none
  dedupHash := r.dedupHash
  ingestRunId := some ingestRunId

/-- The audit row holds an event, to the millisecond, under the run's tag. -/
structure Records (row : Row) (ingestRunId : Nat) (r : AuditRow) : Prop where
  timestamp : 1000 * r.timestamp ≤ row.timestamp ∧ row.timestamp < 1000 * r.timestamp + 1000
  source : r.source = row.source
  operation : r.operation = row.operation
  instance_ : r.instance_ = row.instance_
  userName : r.userName = row.userName
  userId : r.userId = row.userId
  extraData : r.extraData = row.extraDataStr
  comments : r.comments = none
  dedupHash : r.dedupHash = row.dedupHash
  ingestRunId : r.ingestRunId = some ingestRunId

theorem params_records (row : Row) (ingestRunId : Nat) :
    Records row ingestRunId (params row ingestRunId) where
  timestamp := ⟨Int.mul_ediv_self_le (by decide), Int.lt_mul_ediv_self_add (by decide)⟩
  source := rfl
  operation := rfl
  instance_ := rfl
  userName := rfl
  userId := rfl
  extraData := rfl
  comments := rfl
  dedupHash := rfl
  ingestRunId := rfl

/-- The INSERT statements of a call, over all its batches. -/
def statements (em : ExecuteMany) (rows : List Row) (ingestRunId batchSize : Nat) :
    List (List AuditRow) :=
  (chunks rows batchSize).flatMap fun batch => em.split (batch.map (params · ingestRunId))

def insertRows (em : ExecuteMany) (f : SinkFaults) (rows : List Row) (ingestRunId batchSize : Nat) :
    Session Db Stmt Exn (Int × Int) :=
  if rows = [] then pure (0, 0)
  else if batchSize = 0 then Session.lift (.error (valueError "range() arg 3 must not be zero"))
  else do
    Session.executeAll f.insert 0 ((statements em rows ingestRunId batchSize).map Stmt.insertAudit)
    let inserted ← Session.query f.count fun db => (db.audit.tagged ingestRunId).length
    pure (inserted, rows.length - inserted)

/-- What `insert_rows` raises, if anything. -/
def insertFailure (em : ExecuteMany) (f : SinkFaults) (rows : List Row)
    (ingestRunId batchSize : Nat) : Option Exn :=
  if rows = [] then none
  else (Session.firstFault f.insert 0 (statements em rows ingestRunId batchSize)).or f.count

/-- The INSERT statements that succeed. -/
def landedStatements (em : ExecuteMany) (f : SinkFaults) (rows : List Row)
    (ingestRunId batchSize : Nat) : List (List AuditRow) :=
  Session.landed f.insert 0 (statements em rows ingestRunId batchSize)

/-! ## Chunks -/

theorem chunks_flatten_take {α : Type} (seq : List α) (size n : Nat) :
    ((List.range n).map fun k => (seq.drop (k * size)).take size).flatten = seq.take (n * size) := by
  induction n with
  | zero => simp
  | succ n ih =>
    rw [List.range_succ, List.map_append, List.flatten_append, ih, Nat.succ_mul, List.take_add]
    simp

/-- Chunking loses and reorders nothing. -/
theorem chunks_flatten {α : Type} (seq : List α) {size : Nat} (h : 0 < size) :
    (chunks seq size).flatten = seq := by
  rw [chunks, chunks_flatten_take]
  refine List.take_of_length_le ?_
  have := @Nat.lt_div_mul_add (seq.length + size - 1) size h
  omega

theorem statements_nil (em : ExecuteMany) (ingestRunId batchSize : Nat) :
    statements em [] ingestRunId batchSize = [] := by
  have hdiv : (batchSize - 1) / batchSize = 0 := by
    rcases Nat.eq_zero_or_pos batchSize with rfl | h
    · rfl
    · exact Nat.div_eq_of_lt (by omega)
  simp [statements, chunks, hdiv]

theorem statements_flatten (em : ExecuteMany) (rows : List Row) (ingestRunId : Nat)
    {batchSize : Nat} (h : 0 < batchSize) :
    (statements em rows ingestRunId batchSize).flatten = rows.map (params · ingestRunId) := by
  have hsplit : ∀ batches : List (List Row),
      (batches.flatMap fun b => em.split (b.map (params · ingestRunId))).flatten =
        batches.flatten.map (params · ingestRunId) := by
    intro batches
    induction batches with
    | nil => rfl
    | cons b batches ih => simp [em.flatten_split, ih]
  rw [statements, hsplit, chunks_flatten rows h]

/-! ## What a call does -/

/-- The loop over the batches stops only at a failing statement. -/
theorem insertStatements_run (em : ExecuteMany) (f : SinkFaults) (rows : List Row)
    (ingestRunId batchSize : Nat) (c : Conn Db Stmt) :
    (Session.executeAll f.insert 0
        ((statements em rows ingestRunId batchSize).map Stmt.insertAudit)).run c =
      (Session.raised (Session.firstFault f.insert 0 (statements em rows ingestRunId batchSize)),
        c.push ((landedStatements em f rows ingestRunId batchSize).map Stmt.insertAudit)) := by
  rw [Session.executeAll_run c ?_, Session.firstFault_map, Session.landed_map, landedStatements]
  intro a ha s
  obtain ⟨b, _, rfl⟩ := List.mem_map.mp ha
  exact ⟨_, _, apply_insertAudit s b⟩

/-- The statements before the first failing one stand in the caller's
transaction, whatever the call returns. -/
theorem insertRows_run (em : ExecuteMany) (f : SinkFaults) (rows : List Row) (ingestRunId : Nat)
    {batchSize : Nat} (h : 0 < batchSize) (c : Conn Db Stmt) :
    ∃ inserted : Nat, (insertRows em f rows ingestRunId batchSize).run c =
      ((match insertFailure em f rows ingestRunId batchSize with
        | some e => .error e
        | none => .ok ((inserted : Int), rows.length - inserted)),
        c.push ((landedStatements em f rows ingestRunId batchSize).map Stmt.insertAudit)) := by
  by_cases hnil : rows = []
  · subst hnil
    refine ⟨0, ?_⟩
    have hnone : landedStatements em f [] ingestRunId batchSize = [] := by
      rw [landedStatements, statements_nil, Session.landed]
    simp [insertRows, insertFailure, hnone]
  · have hall := insertStatements_run em f rows ingestRunId batchSize c
    simp only [insertRows, if_neg hnil, if_neg (Nat.ne_of_gt h), insertFailure]
    cases hf : Session.firstFault f.insert 0 (statements em rows ingestRunId batchSize) with
    | some e =>
      rw [hf] at hall
      exact ⟨0, Session.bind_error hall⟩
    | none =>
      rw [hf] at hall
      rw [Session.bind_ok hall]
      cases hc : f.count with
      | some e => exact ⟨0, Session.bind_error rfl⟩
      | none => exact ⟨_, Session.bind_ok (Session.query_ok _ _)⟩

/-- A call that does not fail has all its statements in the transaction. -/
theorem landedStatements_of_ok {em : ExecuteMany} {f : SinkFaults} {rows : List Row}
    {ingestRunId batchSize : Nat} (h : insertFailure em f rows ingestRunId batchSize = none) :
    landedStatements em f rows ingestRunId batchSize =
      statements em rows ingestRunId batchSize := by
  rw [insertFailure] at h
  split at h
  · rename_i hnil
    rw [landedStatements, hnil, statements_nil, Session.landed]
  · exact Session.landed_of_firstFault_none (Option.or_eq_none_iff.mp h).1

/-- Under a run id no row carries yet, the tagged rows are the ones added. -/
theorem tagged_insertAll {t : AuditTable} {ingestRunId : Nat} (h : t.tagged ingestRunId = [])
    (rows : List Row) :
    AuditTable.tagged (t.insertAll (rows.map (params · ingestRunId))) ingestRunId =
      t.firsts (rows.map (params · ingestRunId)) := by
  rw [AuditTable.tagged, AuditTable.insertAll_rows, List.filter_append]
  rw [AuditTable.tagged] at h
  rw [h, List.nil_append, List.filter_eq_self]
  intro a ha
  obtain ⟨r, _, rfl⟩ := List.mem_map.mp (AuditTable.mem_firsts ha).1
  simp [params]

/-- A call that does not fail, under a fresh run id: every first row is added and
counted, the rest is counted as duplicate. -/
theorem insertRows_ok {em : ExecuteMany} {f : SinkFaults} {rows : List Row} {ingestRunId : Nat}
    {batchSize : Nat} (h : 0 < batchSize) {c : Conn Db Stmt}
    (hf : insertFailure em f rows ingestRunId batchSize = none)
    (hfresh : c.working.audit.tagged ingestRunId = []) :
    (insertRows em f rows ingestRunId batchSize).run c =
      (.ok ((c.working.audit.firsts (rows.map (params · ingestRunId))).length,
        rows.length - (c.working.audit.firsts (rows.map (params · ingestRunId))).length),
        c.push ((statements em rows ingestRunId batchSize).map Stmt.insertAudit)) := by
  by_cases hnil : rows = []
  · subst hnil
    simp [insertRows, statements_nil, AuditTable.firsts, Keyed.firsts]
  · rw [insertFailure, if_neg hnil, Option.or_eq_none_iff] at hf
    obtain ⟨hins, hcount⟩ := hf
    have hall := insertStatements_run em f rows ingestRunId batchSize c
    rw [landedStatements, hins, Session.landed_of_firstFault_none hins] at hall
    simp only [insertRows, if_neg hnil, if_neg (Nat.ne_of_gt h)]
    rw [Session.bind_ok hall, hcount, Session.bind_ok (Session.query_ok _ _), Session.run_pure,
      Conn.working_push, replay_insertAudit, statements_flatten em rows ingestRunId h]
    simp only [tagged_insertAll hfresh]

/-! ## One call as a set union -/

/-- A call that returns has met no failure. -/
theorem insertFailure_of_ok {em : ExecuteMany} {f : SinkFaults} {rows : List Row}
    {ingestRunId batchSize : Nat} (h : 0 < batchSize) {c c' : Conn Db Stmt} {result : Int × Int}
    (hrun : (insertRows em f rows ingestRunId batchSize).run c = (.ok result, c')) :
    insertFailure em f rows ingestRunId batchSize = none := by
  obtain ⟨inserted, hall⟩ := insertRows_run em f rows ingestRunId h c
  rw [hrun] at hall
  cases hf : insertFailure em f rows ingestRunId batchSize with
  | none => rfl
  | some e =>
    rw [hf] at hall
    cases hall

theorem mem_firsts_params {t : AuditTable} {rows : List Row} {ingestRunId : Nat} {r : AuditRow} :
    r ∈ t.firsts (rows.map (params · ingestRunId)) ↔
      ¬ t.Holds r.dedupHash ∧
        ∃ row, rows.find? (fun x => t.collate x.dedupHash = t.collate r.dedupHash) = some row ∧
          r = params row ingestRunId := by
  have hkey : (fun a : AuditRow => decide (t.collate a.dedupHash = t.collate r.dedupHash)) ∘
      (params · ingestRunId) =
      fun x : Row => decide (t.collate x.dedupHash = t.collate r.dedupHash) := rfl
  rw [AuditTable.firsts, Keyed.mem_firsts_iff, List.find?_map, hkey, Option.map_eq_some_iff]
  refine and_congr Iff.rfl (exists_congr fun row => and_congr_right fun _ => eq_comm)

/-- Failures of the database: none. -/
def noFaults : SinkFaults := ⟨fun _ => none, none⟩

theorem insertFailure_noFaults (em : ExecuteMany) (rows : List Row) (ingestRunId batchSize : Nat) :
    insertFailure em noFaults rows ingestRunId batchSize = none := by
  have hfirst : ∀ k (stmts : List (List AuditRow)),
      Session.firstFault (ε := Exn) (fun _ => none) k stmts = none := by
    intro k stmts
    induction stmts generalizing k with
    | nil => rfl
    | cons _ stmts ih => simp [Session.firstFault, ih]
  rw [insertFailure]
  split
  · rfl
  · simp [noFaults, hfirst]

/-- Under a run id no row carries, the rows `new` and the two counts are settled by
the table and the list alone: whatever the batches and the statements, a call that
returns has added `new` behind the old rows, and a call that meets no failure
returns. Hashes are compared as the server does. -/
theorem insertRows_union (rows : List Row) (ingestRunId : Nat) (c : Conn Db Stmt)
    (hfresh : ∀ r ∈ c.working.audit.rows, r.ingestRunId ≠ some ingestRunId) :
    ∃ (new : List AuditRow) (i d : Int), i = new.length ∧ 0 ≤ d ∧ i + d = rows.length ∧
      (new.map fun r => c.working.audit.collate r.dedupHash).Nodup ∧
      (∀ hash, (∃ r ∈ new, c.working.audit.collate r.dedupHash = c.working.audit.collate hash) ↔
        (∃ row ∈ rows, c.working.audit.collate row.dedupHash = c.working.audit.collate hash) ∧
          ¬ c.working.audit.Holds hash) ∧
      (∀ r ∈ new, ∃ row, rows.find? (fun x =>
          c.working.audit.collate x.dedupHash = c.working.audit.collate r.dedupHash) = some row ∧
        Records row ingestRunId r) ∧
      ∀ em batchSize, 1 ≤ batchSize →
        ((insertRows em noFaults rows ingestRunId batchSize).run c).1 = .ok (i, d) ∧
        ∀ f result c', (insertRows em f rows ingestRunId batchSize).run c = (.ok result, c') →
          result = (i, d) ∧ c'.working.audit.rows = c.working.audit.rows ++ new ∧
            c'.working.audit.collate = c.working.audit.collate ∧
            c'.working.runs = c.working.runs := by
  have htagged : c.working.audit.tagged ingestRunId = [] := by
    refine List.filter_eq_nil_iff.mpr fun r hr => ?_
    simpa using hfresh r hr
  obtain ⟨new, hnew⟩ : ∃ new, new = c.working.audit.firsts (rows.map (params · ingestRunId)) :=
    ⟨_, rfl⟩
  have hle : new.length ≤ rows.length := by
    have hfirsts := c.working.audit.length_firsts_le (rows.map (params · ingestRunId))
    rwa [← hnew, List.length_map] at hfirsts
  refine ⟨new, new.length, rows.length - new.length, rfl, by omega, by omega,
    hnew ▸ Keyed.firsts_nodup _ _, fun hash => ?_, fun r hr => ?_, ?_⟩
  · have hmem : c.working.audit.collate hash ∈ new.map (fun r => c.working.audit.collate r.dedupHash) ↔
        c.working.audit.collate hash ∈ (rows.map (params · ingestRunId)).map
          (fun r => c.working.audit.collate r.dedupHash) ∧ ¬ c.working.audit.Holds hash := by
      rw [hnew]
      exact Keyed.mem_map_firsts
    rw [List.map_map, List.mem_map, List.mem_map] at hmem
    exact hmem
  · obtain ⟨-, row, hfind, hparams⟩ := mem_firsts_params.mp (hnew ▸ hr)
    exact ⟨row, hfind, hparams ▸ params_records row ingestRunId⟩
  · intro em batchSize hbatch
    constructor
    · rw [insertRows_ok hbatch (insertFailure_noFaults em rows ingestRunId batchSize) htagged, hnew]
    · intro f result c' hrun
      rw [insertRows_ok hbatch (insertFailure_of_ok hbatch hrun) htagged, ← hnew] at hrun
      cases hrun
      rw [Conn.working_push, replay_insertAudit, statements_flatten em rows ingestRunId hbatch]
      exact ⟨rfl, hnew ▸ AuditTable.insertAll_rows _ _, rfl, rfl⟩

def line (door hash : String) : Row :=
  ⟨0, "Bluewave", "Valid Access", door, none, none, none, hash⟩

/-- A table that holds one line of an earlier run. -/
def held : Db := ⟨⟨foldCase, ⟨[params (line "Door 1" "a") 6], by simp⟩⟩, .empty⟩

/-- One old hash in the other letter case, and a new one that comes twice. -/
theorem insertRows_union_twice : ∃ (new : List AuditRow) (i d : Int),
    i = new.length ∧ i + d = 3 ∧
      (∀ hash, (∃ r ∈ new, foldCase r.dedupHash = foldCase hash) ↔
        (∃ row ∈ [line "Door 1" "b", line "Door 1" "A", line "Door 2" "b"],
          foldCase row.dedupHash = foldCase hash) ∧ ¬ held.audit.Holds hash) ∧
      ∀ em batchSize, 1 ≤ batchSize →
        ((insertRows em noFaults [line "Door 1" "b", line "Door 1" "A", line "Door 2" "b"] 7
          batchSize).run (.opened held)).1 = .ok (i, d) := by
  obtain ⟨new, i, d, hi, _, hid, _, hhash, _, hrun⟩ := insertRows_union
    [line "Door 1" "b", line "Door 1" "A", line "Door 2" "b"] 7 (.opened held)
    (by decide)
  exact ⟨new, i, d, hi, hid, hhash, fun em batchSize h => (hrun em batchSize h).1⟩

end Bluewave.Sink
