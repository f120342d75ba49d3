import Bluewave.Lib.Result
import Bluewave.Datetime
import Bluewave.RunJob

/-! `dry_run`: the pipeline up to the rows, and the counts a real run would
report, found by looking up which hashes the audit table has. The lookup takes
the rows one by one, the real run takes them as a set: the counts agree exactly
when no new hash occurs twice and the old ones are stored as they are spelled,
since Python compares by the spelling what the server does not. -/
namespace Bluewave.DryRun
open Lib Bluewave.Datetime Bluewave.Exceptions Bluewave.Tables Bluewave.Sink Bluewave.RunJob

def previewLimit : Nat := 10
def existingHashChunk : Nat := 500

def expectedHeader : List String :=
  ["Date/Time", "Door Name", "Description", "Person", "Employee ID", "Card Number",
    "Facility Code", "Pin"]

structure RowPreview where
  timestamp : String
  source : String
  operation : String
  instance_ : String
  userName : Option String
  userId : Option String
  extraData : Option String
  dedupHash : String
  deriving DecidableEq

structure DryRunResult where
  reportDate : Date
  status : String
  error : Option String := none
  csvRowsTotal : Nat := 0
  csvPreview : List (List (String × String)) := []
  transformedRowsTotal : Nat := 0
  transformedPreview : List RowPreview := []
  wouldInsert : Int := 0
  wouldSkipDuplicate : Int := 0
  deriving DecidableEq

/-- What `dry_run` sees beyond a run's surroundings: its download directory, the
records of the CSV file, the failures of its `k`-th SELECT and `%Y` of `strftime`. -/
structure DryWorld extends World where
  mkdtemp : Except Exn Unit
  readCsv : String → Except Exn (List (List String))
  select : Nat → Option Exn
  strftimeYear : Nat → String

/-- `_count_csv_rows`, on the records of the file. -/
def countCsvRows (records : List (List String)) : Nat := (records.drop 1).length

def csvPreview (records : List (List String)) (limit : Nat) : List (List (String × String)) :=
  (((records.drop 1).take limit).filter fun row => expectedHeader.length ≤ row.length).map
    expectedHeader.zip

/-- `strftime("%Y-%m-%d %H:%M:%S UTC")`. -/
def previewTimestamp (strftimeYear : Nat → String) (t : Timestamp) : String :=
  let f := fields t
  strftimeYear f.year ++ "-" ++ pad 2 f.month ++ "-" ++ pad 2 f.day ++ " " ++ pad 2 f.hour ++ ":" ++
    pad 2 f.minute ++ ":" ++ pad 2 f.second ++ " UTC"

def rowToPreview (strftimeYear : Nat → String) (r : Row) : RowPreview where
  timestamp := previewTimestamp strftimeYear r.timestamp
  source := r.source
  operation := r.operation
  instance_ := r.instance_
  userName := r.userName
  userId := r.userId
  extraData := r.extraDataStr
  dedupHash := String.ofList (r.dedupHash.toList.take 16 ++ ['…'])

/-- `SELECT dedup_hash … WHERE dedup_hash IN (…)`: the server compares, and gives the
hashes as they are stored. -/
def selectHashes (t : AuditTable) (hashes : List String) : List String :=
  (t.rows.map AuditRow.dedupHash).filter fun stored => t.collate stored ∈ hashes.map t.collate

/-- The loop over the chunks, on one snapshot of the table. -/
def selectAll (fault : Nat → Option Exn) (t : AuditTable) :
    Nat → List (List Row) → Except Exn (List String)
  | _, [] => .ok []
  | k, batch :: batches =>
    match fault k with
    | some e => .error e
    | none => do
      let existing ← selectAll fault t (k + 1) batches
      pure (selectHashes t (batch.map Row.dedupHash) ++ existing)

def existingHashes (w : DryWorld) (cfg : MysqlConfig) (t : AuditTable) (rows : List Row) :
    Except Exn (List String) :=
  if rows = [] then .ok []
  else do
    w.connect cfg
    selectAll w.select t 0 (chunks rows existingHashChunk)

/-- `str(e)`. -/
def message : Exn → String
  | .runFailure _ message => message
  | .other _ text => text

/-- The `error` of a failed scrape. -/
def scrapeError : Exn → String
  | .runFailure cls message => cls.status ++ ": " ++ message
  | .other type text => type ++ ": " ++ text

/-- Browser, login and scrape. -/
def scraped (w : DryWorld) (cfg : Config) (reportDate : Date) : Except Exn (Option String) := do
  w.startBrowser
  w.login cfg.bluewebUrl cfg.bluewebUser cfg.bluewebPassword
  w.scrape reportDate

/-- The last step, once the rows are there. -/
def countAgainst (w : DryWorld) (cfg : Config) (reportDate : Date) (t : AuditTable)
    (records : List (List String)) (rows : List Row) : DryRunResult :=
  let existing := match existingHashes w cfg.mysql t rows with
    | .ok existing => existing
    | .error _ => []
  let wouldSkip := rows.countP fun r => r.dedupHash ∈ existing
  { reportDate, status := "ok", csvRowsTotal := countCsvRows records
    csvPreview := csvPreview records previewLimit, transformedRowsTotal := rows.length
    transformedPreview := (rows.take previewLimit).map (rowToPreview w.strftimeYear)
    wouldInsert := rows.length - wouldSkip, wouldSkipDuplicate := wouldSkip }

def dryRun (w : DryWorld) (reportDate : Date) (t : AuditTable) : Except Exn DryRunResult := do
  match ← w.load with
  | none => pure { reportDate, status := "failed", error := some "worker is not configured" }
  | some cfg => do
    w.mkdtemp
    match scraped w cfg reportDate with
    | .error e => pure { reportDate, status := "failed", error := some (scrapeError e) }
    | .ok none => pure { reportDate, status := "empty" }
    | .ok (some csvPath) => do
      -- not inside any `try` with an `except`: an unreadable file raises
      let records ← w.readCsv csvPath
      match w.transform csvPath cfg.operatorTimezone with
      | .error e =>
        pure { reportDate, status := "failed", error := some ("transform failed: " ++ message e)
               csvRowsTotal := countCsvRows records
               csvPreview := csvPreview records previewLimit }
      | .ok rows => pure (countAgainst w cfg reportDate t records rows)

/-! ## The lookup -/

theorem selectAll_ok {fault : Nat → Option Exn} {t : AuditTable} {k : Nat}
    {batches : List (List Row)} {existing : List String}
    (h : selectAll fault t k batches = .ok existing) :
    existing = batches.flatMap fun batch => selectHashes t (batch.map Row.dedupHash) := by
  induction batches generalizing k existing with
  | nil => cases h; rfl
  | cons batch batches ih =>
    simp only [selectAll] at h
    split at h
    · cases h
    · obtain ⟨rest, hrest, h⟩ := Result.bind_eq_ok.mp h
      cases h
      rw [List.flatMap_cons, ih hrest]

/-- The hash is stored, as it is spelled. -/
def Spelled (t : AuditTable) (hash : String) : Prop := hash ∈ t.rows.map AuditRow.dedupHash

instance (t : AuditTable) (hash : String) : Decidable (Spelled t hash) :=
  inferInstanceAs (Decidable (_ ∈ _))

theorem Spelled.holds {t : AuditTable} {hash : String} (h : Spelled t hash) : t.Holds hash := by
  obtain ⟨r, hr, rfl⟩ := List.mem_map.mp h
  exact AuditTable.holds_iff.mpr ⟨r, hr, rfl⟩

/-- A lookup that succeeds knows of every row whether its hash is stored in this spelling. -/
theorem mem_existingHashes {w : DryWorld} {cfg : MysqlConfig} {t : AuditTable} {rows : List Row}
    {existing : List String} (h : existingHashes w cfg t rows = .ok existing) {r : Row}
    (hr : r ∈ rows) : r.dedupHash ∈ existing ↔ Spelled t r.dedupHash := by
  have hsize : 0 < existingHashChunk := by decide
  rw [existingHashes, if_neg (List.ne_nil_of_mem hr)] at h
  obtain ⟨-, -, h⟩ := Result.bind_eq_ok.mp h
  rw [selectAll_ok h]
  constructor
  · intro hm
    obtain ⟨batch, _, hsel⟩ := List.mem_flatMap.mp hm
    exact (List.mem_filter.mp hsel).1
  · intro hk
    rw [← chunks_flatten rows hsize] at hr
    obtain ⟨batch, hbatch, hin⟩ := List.mem_flatten.mp hr
    refine List.mem_flatMap.mpr ⟨batch, hbatch, List.mem_filter.mpr ⟨hk, ?_⟩⟩
    exact decide_eq_true (List.mem_map_of_mem (List.mem_map_of_mem hin))

/-! ## The two counts -/

/-- The rows whose hash the table does not hold. -/
def newRows (t : AuditTable) (rows : List Row) : List Row :=
  rows.filter fun r => ¬ t.Holds r.dedupHash

/-- The rows that the dry run takes for new. -/
def unspelledRows (t : AuditTable) (rows : List Row) : List Row :=
  rows.filter fun r => ¬ Spelled t r.dedupHash

theorem countAgainst_counts {w : DryWorld} {cfg : Config} {reportDate : Date} {t : AuditTable}
    {records : List (List String)} {rows : List Row} {existing : List String}
    (h : existingHashes w cfg.mysql t rows = .ok existing) :
    (countAgainst w cfg reportDate t records rows).wouldInsert = (unspelledRows t rows).length ∧
      (countAgainst w cfg reportDate t records rows).wouldSkipDuplicate =
        rows.length - (unspelledRows t rows).length := by
  have hcount : (rows.countP fun r => r.dedupHash ∈ existing) =
      rows.countP fun r => Spelled t r.dedupHash := by
    refine List.countP_congr fun r hr => ?_
    simp only [decide_eq_true_eq, mem_existingHashes h hr]
  have hsplit := rows.length_eq_countP_add_countP fun r => decide (Spelled t r.dedupHash)
  have hnew : (unspelledRows t rows).length =
      rows.countP fun r => !decide (Spelled t r.dedupHash) := by
    rw [unspelledRows, ← List.countP_eq_length_filter]
    simp
  simp only [countAgainst, h, hcount]
  simp only [Bool.not_eq_true, Bool.decide_eq_false] at hsplit
  omega

theorem newRows_sublist (t : AuditTable) (rows : List Row) :
    (newRows t rows).Sublist (unspelledRows t rows) := by
  refine List.monotone_filter_right rows fun r hr => ?_
  rw [decide_eq_true_eq] at hr ⊢
  exact fun hspelled => hr hspelled.holds

/-- The dry run takes no other rows for new exactly when the old hashes are spelled as stored. -/
theorem length_unspelledRows_iff {t : AuditTable} {rows : List Row} :
    (unspelledRows t rows).length = (newRows t rows).length ↔
      ∀ r ∈ rows, t.Holds r.dedupHash → Spelled t r.dedupHash := by
  constructor
  · intro h r hr hholds
    by_contra hspelled
    have hmem : r ∈ unspelledRows t rows := List.mem_filter.mpr ⟨hr, decide_eq_true hspelled⟩
    rw [← (newRows_sublist t rows).eq_of_length h.symm] at hmem
    exact of_decide_eq_true (List.mem_filter.mp hmem).2 hholds
  · intro h
    have heq : unspelledRows t rows = newRows t rows :=
      List.filter_congr fun r hr => decide_eq_decide.mpr
        (not_congr ⟨fun hspelled => hspelled.holds, h r hr⟩)
    rw [heq]

/-- The real run inserts every new row exactly when no new hash comes twice. -/
theorem length_firsts_iff {t : AuditTable} {rows : List Row} {ingestRunId : Nat} :
    (t.firsts (rows.map (params · ingestRunId))).length = (newRows t rows).length ↔
      ((newRows t rows).map fun r => t.collate r.dedupHash).Nodup := by
  -- both sides count within the list of parameters
  have hparams : ((rows.map (params · ingestRunId)).filter fun a =>
      t.collate a.dedupHash ∉ t.keys) = (newRows t rows).map (params · ingestRunId) := by
    rw [List.filter_map]
    rfl
  have hiff := @Keyed.length_firsts_eq_iff _ _ (fun a : AuditRow => t.collate a.dedupHash) _ t.keys
    (rows.map (params · ingestRunId))
  rw [hparams, List.length_map, List.map_map] at hiff
  exact hiff

theorem length_firsts_le_newRows (t : AuditTable) (rows : List Row) (ingestRunId : Nat) :
    (t.firsts (rows.map (params · ingestRunId))).length ≤ (newRows t rows).length := by
  have hsub := @Keyed.firsts_sublist _ _ (fun a : AuditRow => t.collate a.dedupHash) _ t.keys
    (rows.map (params · ingestRunId))
  have hle := hsub.length_le
  rw [List.filter_map, List.length_map] at hle
  exact hle

/-- The counts of the dry run are the counts of a real insert of the same rows. -/
def Predicts (w : DryWorld) (reportDate : Date) (db : Db) (em : ExecuteMany) (f : SinkFaults)
    (rows : List Row) (ingestRunId batchSize : Nat) : Prop :=
  ∃ res, dryRun w reportDate db.audit = .ok res ∧
    ((insertRows em f rows ingestRunId batchSize).run (.opened db)).1 =
      .ok (res.wouldInsert, res.wouldSkipDuplicate)

/-- The dry run predicts the real run exactly when no new hash occurs twice, and the hash of
an old row is stored as this row spells it. -/
theorem predicts_iff {w : DryWorld} {cfg : Config} {reportDate : Date} {db : Db}
    {csvPath : String} {records : List (List String)} {rows : List Row} {existing : List String}
    (hload : w.load = .ok (some cfg)) (hdir : w.mkdtemp = .ok ())
    (hscrape : scraped w cfg reportDate = .ok (some csvPath))
    (hcsv : w.readCsv csvPath = .ok records)
    (hrows : w.transform csvPath cfg.operatorTimezone = .ok rows)
    (hlookup : existingHashes w cfg.mysql db.audit rows = .ok existing)
    {em : ExecuteMany} {f : SinkFaults} {ingestRunId batchSize : Nat} (hsize : 0 < batchSize)
    (hf : insertFailure em f rows ingestRunId batchSize = none)
    (hfresh : db.audit.tagged ingestRunId = []) :
    Predicts w reportDate db em f rows ingestRunId batchSize ↔
      ((newRows db.audit rows).map fun r => db.audit.collate r.dedupHash).Nodup ∧
        ∀ r ∈ rows, db.audit.Holds r.dedupHash → Spelled db.audit r.dedupHash := by
  have hdry : dryRun w reportDate db.audit =
      .ok (countAgainst w cfg reportDate db.audit records rows) := by
    simp only [dryRun, hload, hdir, hscrape, hcsv, hrows, bind, Except.bind, pure, Except.pure]
  obtain ⟨hinsert, hskip⟩ := @countAgainst_counts w cfg reportDate db.audit records rows _ hlookup
  have hfresh' : (Conn.opened db : Conn Db Stmt).working.audit.tagged ingestRunId = [] := hfresh
  have hrun := insertRows_ok hsize hf hfresh'
  -- what is inserted is some of the new rows, and these are some of what is announced
  have hinserted := length_firsts_le_newRows db.audit rows ingestRunId
  have hannounced := (newRows_sublist db.audit rows).length_le
  rw [← @length_firsts_iff db.audit rows ingestRunId, ← length_unspelledRows_iff, Predicts, hrun]
  simp only [hdry, Except.ok.injEq, exists_eq_left', hinsert, hskip, Conn.working_opened,
    Prod.mk.injEq]
  omega

/-- Nothing fails, and the report holds these rows. -/
def calmDry (rows : List Row) : DryWorld :=
  { calm.reporting rows with
    mkdtemp := .ok ()
    readCsv := fun _ => .ok (expectedHeader :: rows.map fun r =>
      ["05/01/2026 08:00:00", r.instance_, r.operation, "", "", "", "", ""])
    select := fun _ => none
    strftimeYear := pad 4 }

/-- A report of one event is predicted. -/
theorem predicts_someRow :
    Predicts (calmDry [someRow]) someDay emptyDb calm.executemany calm.sink [someRow] 1 500 := by
  have hiff := @predicts_iff (calmDry [someRow]) someConfig someDay emptyDb "report.csv" _ [someRow]
    [] rfl rfl rfl rfl rfl (by decide) calm.executemany calm.sink 1 500 (by decide) (by decide)
    (by decide)
  exact hiff.mpr ⟨by decide, by decide⟩

/-- A report that lists one event twice is not: two inserts are announced, one
takes place. -/
theorem not_predicts_twice :
    existingHashes (calmDry [someRow, someRow]) someConfig.mysql emptyDb.audit
        [someRow, someRow] = .ok [] ∧
      ¬ Predicts (calmDry [someRow, someRow]) someDay emptyDb calm.executemany calm.sink
        [someRow, someRow] 1 500 := by
  refine ⟨by decide, ?_⟩
  rintro ⟨res, hdry, hrun⟩
  cases hdry
  revert hrun
  decide

end Bluewave.DryRun
