import Bluewave.Accounting
import Bluewave.RunHistory
import Bluewave.RunsLifecycle

/-! `GET /runs/{run_id}`, asked again and again over the life of the worker: runs and reaps,
with the process dying anywhere. -/
namespace Bluewave.RunPages
open Lib Lib.Paging Bluewave.Auth Bluewave.Datetime Bluewave.Exceptions
open Bluewave.Tables Bluewave.Runs Bluewave.RunJob Bluewave.Accounting Bluewave.RunHistory
open Bluewave.RunsLifecycle (identity ne_running_of_terminal text_running)

/-- The JSON object of a whole row. `_serialize_run` leaves the generated column a date, which
the response encodes the same way. -/
structure RunRecord extends RunJson where
  screenshotPath : Option String
  okScheduledDate : Option String
  deriving DecidableEq

/-- `_serialize_run` on a row of `SELECT *`. -/
def serializeRow (r : RunRow) : RunRecord :=
  { serializeRun (selected r) with
    screenshotPath := r.screenshotPath, okScheduledDate := r.okScheduledDate.map strDate }

/-- `get_run`. `fault` is what connecting or the query raises. -/
def getRun (cfg : Option Config) (fault : Option Exn) (runs : RunsTable) (runId : Int) :
    Except Failure RunRecord :=
  match cfg, fault with
  | none, _ => .error ⟨409, "unconfigured", []⟩
  | some _, some _ => .error internalServerError
  | some _, none =>
    match runs.rows.find? fun r => (r.id : Int) = runId with
    | some r => .ok (serializeRow r)
    | none => .error ⟨404, "run not found", []⟩

/-! ## Rows over time -/

/-- What becomes of a row: nothing, or it is closed. -/
inductive Ages (r : RunRow) : RunRow → Prop where
  | stays : Ages r r
  | closes {r' : RunRow} (hrunning : r.status = .running) (hclosed : r'.status ∈ terminal)
      (hsame : identity r' = identity r) : Ages r r'

structure Aged (t u : RunsTable) : Prop where
  kept : ∀ r ∈ t.rows, ∃ r' ∈ u.rows, Ages r r'
  old : ∀ r' ∈ u.rows, r'.id < t.nextId → ∃ r ∈ t.rows, Ages r r'
  next : t.nextId ≤ u.nextId

section
variable {r r' r'' : RunRow} {t u v : RunsTable} {db db' : Db}

theorem Ages.id (h : Ages r r') : r'.id = r.id := by
  cases h with
  | stays => rfl
  | closes _ _ hsame => exact congrArg Prod.fst hsame

theorem Ages.trans (h : Ages r r') (h' : Ages r' r'') : Ages r r'' := by
  cases h with
  | stays => exact h'
  | closes hrunning hclosed hsame =>
    cases h' with
    | stays => exact .closes hrunning hclosed hsame
    | closes hrunning' => exact absurd hrunning' (ne_running_of_terminal hclosed)

theorem aged_refl (t : RunsTable) : Aged t t :=
  ⟨fun r hr => ⟨r, hr, .stays⟩, fun r hr _ => ⟨r, hr, .stays⟩, le_rfl⟩

theorem Aged.trans (h : Aged t u) (h' : Aged u v) : Aged t v := by
  refine ⟨fun r hr => ?_, fun r'' hr'' hlt => ?_, h.next.trans h'.next⟩
  · obtain ⟨r', hr', hages⟩ := h.kept r hr
    obtain ⟨r'', hr'', hages'⟩ := h'.kept r' hr'
    exact ⟨r'', hr'', hages.trans hages'⟩
  · obtain ⟨r', hr', hages'⟩ := h'.old r'' hr'' (hlt.trans_le h.next)
    obtain ⟨r, hr, hages⟩ := h.old r' hr' (hages'.id ▸ hlt)
    exact ⟨r, hr, hages.trans hages'⟩

/-- A row of a new run is all that is added. -/
theorem aged_append (hrows : u.rows = t.rows ++ [r]) (hid : r.id = t.nextId)
    (hnext : u.nextId = t.nextId + 1) : Aged t u := by
  refine ⟨fun a ha => ⟨a, hrows ▸ List.mem_append_left _ ha, .stays⟩, fun a ha hlt => ?_, ?_⟩
  · rcases List.mem_append.mp (hrows ▸ ha) with hold | hnew
    · exact ⟨a, hold, .stays⟩
    · rw [List.mem_singleton.mp hnew, hid] at hlt
      exact absurd hlt (Nat.lt_irrefl _)
  · rw [hnext]
    exact Nat.le_succ _

/-- The reaper closes running rows and leaves the others. -/
theorem aged_reap {source : String} {now : Timestamp} (h : t.reap? source now reapError = some u) :
    Aged t u := by
  obtain ⟨hrows, hnext⟩ := RunsTable.updateWhere?_some h
  have hages (a : RunRow) : Ages a
      (if decide (a.source = source ∧ a.status = .running) = true
        then RunRow.reap now reapError a else a) := by
    split
    · rename_i hreaped
      exact .closes (of_decide_eq_true hreaped).2 (by simp [RunRow.reap, terminal]) rfl
    · exact .stays
  refine ⟨fun a ha => ⟨_, hrows ▸ List.mem_map_of_mem ha, hages a⟩, fun b hb _ => ?_, hnext.ge⟩
  obtain ⟨a, ha, rfl⟩ := List.mem_map.mp (hrows ▸ hb)
  exact ⟨a, ha, hages a⟩

theorem aged_change (h : Change db db') : Aged db.runs db'.runs := by
  cases h with
  | nothing => exact aged_refl _
  | started w reportDate manual => exact aged_append rfl rfl rfl
  | closed hfin =>
    obtain ⟨hrows, hnext⟩ := finalize?_rows hfin
    exact aged_append hrows rfl hnext
  | reaped hreap => exact aged_reap hreap

theorem runAll_append (start : Db) (before later : List Event) :
    runAll start (before ++ later) =
      runAll (runAll start before) later := List.foldl_append

theorem aged_runAll (history : List Event) : Aged db.runs (runAll db history).runs := by
  induction history generalizing db with
  | nil => exact aged_refl _
  | cons e history ih => exact (aged_change e.change).trans ih

/-! ## Answers -/

variable {cfg : Config} {runId : Int} {record : RunRecord}

/-- The row with the id, if there is one; there is only one. -/
theorem getRun_eq_ok : getRun (some cfg) none t runId = .ok record ↔
    ∃ r ∈ t.rows, (r.id : Int) = runId ∧ record = serializeRow r := by
  simp only [getRun]
  cases hfind : t.rows.find? fun r => (r.id : Int) = runId with
  | some r =>
    have hid : (r.id : Int) = runId := by simpa using List.find?_some hfind
    have hr := List.mem_of_find?_eq_some hfind
    constructor
    · intro h
      exact ⟨r, hr, hid, (Except.ok.inj h).symm⟩
    · intro h
      obtain ⟨r', hr', hid', rfl⟩ := h
      have hsame : r'.id = r.id := Int.ofNat.inj (hid'.trans hid.symm)
      rw [RunsTable.eq_of_id hr' hr hsame]
  | none =>
    refine iff_of_false (by simp) ?_
    intro h
    obtain ⟨r, hr, hid, -⟩ := h
    have hnot := List.find?_eq_none.mp hfind r hr
    exact hnot (decide_eq_true hid)

theorem getRun_not_found (h : ¬ ∃ record, getRun (some cfg) none t runId = .ok record) :
    getRun (some cfg) none t runId = .error ⟨404, "run not found", []⟩ := by
  simp only [getRun] at h ⊢
  cases hfind : t.rows.find? fun r => (r.id : Int) = runId with
  | some r =>
    rw [hfind] at h
    exact absurd ⟨_, rfl⟩ h
  | none => rfl

/-- The columns of a record that `start_run` sets for good. -/
def RunRecord.identity (record : RunRecord) : Nat × String × String × String × Bool :=
  (record.id, record.source, record.reportDate, record.startedAt, record.manual)

theorem Ages.serialized (h : Ages r r') :
    (serializeRow r').identity = (serializeRow r).identity ∧
      (serializeRow r' = serializeRow r ∨ (serializeRow r).status = "running" ∧
        (serializeRow r').status ∈ terminalStatuses) := by
  cases h with
  | stays => exact ⟨rfl, .inl rfl⟩
  | closes hrunning hclosed hsame =>
    simp only [RunsLifecycle.identity, Prod.mk.injEq] at hsame
    obtain ⟨hid, hsource, hdate, hstarted, hmanual⟩ := hsame
    refine ⟨?_, .inr ⟨text_running.mpr hrunning, List.mem_map_of_mem hclosed⟩⟩
    show (r'.id, r'.source, strDate r'.reportDate, strDatetime r'.startedAt, r'.manual) = _
    rw [hid, hsource, hdate, hstarted, hmanual]
    rfl

/-- A run's entry in a list of that moment is what its own page says. -/
theorem listed_getRun (hget : getRun (some cfg) none t runId = .ok record) {accept : String}
    {order : List RunRow} (horder : order.Perm t.rows) {q : RunsQuery} {reply : RunsReply}
    (hlist : getRuns (some cfg) accept (.ok order) q = .ok reply) {e : RunEntry}
    (he : e ∈ reply.runs) (hid : (e.id : Int) = runId) : serializeRun e = record.toRunJson := by
  obtain ⟨reply', hreply, hruns⟩ := runs_getRuns cfg accept order q
  obtain rfl := Except.ok.inj (hlist.symm.trans hreply)
  rw [hruns] at he
  obtain ⟨r, hr, rfl⟩ := List.mem_map.mp he
  have hmem : r ∈ t.rows :=
    horder.mem_iff.mp (List.mem_of_mem_drop (List.mem_of_mem_take hr))
  obtain ⟨r', hr', hid', rfl⟩ := getRun_eq_ok.mp hget
  have hsame : r.id = r'.id := Int.ofNat.inj (hid.trans hid'.symm)
  rw [RunsTable.eq_of_id hmem hr' hsame]
  rfl

end

/-- The page of a run over any history of runs, deaths of the process and reaps. Once there
is one it stays: with the same id, source, date, start and kind, and word for word the same
from when it first says anything but `running`. An id that was given out and has no page
never gets one. The list of runs says the same of it at any time. -/
theorem page_settles (start : Db) (before later : List Event) (cfg : Config) (runId : Int) :
    (∀ record, getRun (some cfg) none (runAll start before).runs runId = .ok record →
      (∃ record', getRun (some cfg) none (runAll start (before ++ later)).runs runId = .ok record' ∧
        record'.identity = record.identity ∧
        (record' = record ∨ record.status = "running" ∧ record'.status ∈ terminalStatuses)) ∧
      ∀ accept order q reply, order.Perm (runAll start before).runs.rows →
        getRuns (some cfg) accept (.ok order) q = .ok reply →
        ∀ e ∈ reply.runs, (e.id : Int) = runId → serializeRun e = record.toRunJson) ∧
      (runId < (runAll start before).runs.nextId →
        getRun (some cfg) none (runAll start before).runs runId =
          .error ⟨404, "run not found", []⟩ →
        getRun (some cfg) none (runAll start (before ++ later)).runs runId =
          .error ⟨404, "run not found", []⟩) := by
  have haged := @aged_runAll (runAll start before) later
  rw [← runAll_append] at haged
  refine ⟨fun record hrecord => ⟨?_, ?_⟩, fun hlt hnone => ?_⟩
  · obtain ⟨r, hr, hid, rfl⟩ := getRun_eq_ok.mp hrecord
    obtain ⟨r', hr', hages⟩ := haged.kept r hr
    obtain ⟨hidentity, hstatus⟩ := hages.serialized
    exact ⟨_, getRun_eq_ok.mpr ⟨r', hr', hages.id ▸ hid, rfl⟩, hidentity, hstatus⟩
  · intro accept order q reply horder hlist e he hid
    exact listed_getRun hrecord horder hlist he hid
  · refine getRun_not_found fun hfound => ?_
    obtain ⟨record', hrecord'⟩ := hfound
    obtain ⟨r', hr', hid', -⟩ := getRun_eq_ok.mp hrecord'
    obtain ⟨r, hr, hages⟩ := haged.old r' hr' (by omega)
    have hrecord : getRun (some cfg) none (runAll start before).runs runId =
        .ok (serializeRow r) := getRun_eq_ok.mpr ⟨r, hr, hages.id ▸ hid', rfl⟩
    rw [hnone] at hrecord
    cases hrecord

/-- The page of a run whose process has died, before the reap and behind it. -/
theorem page_settles_reaped :
    ∃ record record',
      getRun (some someConfig) none (runAll emptyDb (threeEvents.take 1)).runs 1 = .ok record ∧
        record.status = "running" ∧
        getRun (some someConfig) none (runAll emptyDb threeEvents).runs 1 = .ok record' ∧
        record'.identity = record.identity ∧ record'.status = "ingest_failed" := by
  have hbefore : getRun (some someConfig) none (runAll emptyDb (threeEvents.take 1)).runs 1 =
      .ok (serializeRow (RunsTable.runningRow 1 "Bluewave" someDay 0 false)) := rfl
  have hbehind : getRun (some someConfig) none (runAll emptyDb threeEvents).runs 1 =
      .ok (serializeRow ((RunsTable.runningRow 1 "Bluewave" someDay 0 false).reap 2 reapError)) :=
    rfl
  obtain ⟨hpage, -⟩ := page_settles emptyDb (threeEvents.take 1) (threeEvents.drop 1) someConfig 1
  obtain ⟨⟨record', hrecord', hidentity, -⟩, -⟩ := hpage _ hbefore
  rw [List.take_append_drop] at hrecord'
  obtain rfl := Except.ok.inj (hbehind.symm.trans hrecord')
  exact ⟨_, _, hbefore, rfl, hbehind, hidentity, rfl⟩

end Bluewave.RunPages
