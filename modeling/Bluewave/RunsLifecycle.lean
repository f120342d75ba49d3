import Bluewave.Runs

/-! The runs table over any history of the calls that write it. Each call runs on
a connection of its own, which is closed after it, so a call that raises leaves
what was durable. `Written` says what a call can do to the table, and every
invariant below is read off it. Two sources that MySQL's collation holds equal
are one string here, for the writers and the readers alike. -/
namespace Bluewave.RunsLifecycle
open Lib Bluewave.Exceptions Bluewave.Tables Bluewave.Runs

/-- A call with its arguments and the failures it meets. A value its column does
not hold is such a failure, of the statement. -/
inductive Call where
  | start (f : TxnFaults) (now : Timestamp) (source : String) (reportDate : Date) (manual : Bool)
  | finalize (f : TxnFaults) (now : Timestamp) (runId : Nat) (status : String) (d : Details)
  | reap (f : TxnFaults) (now : Timestamp) (source : String)

namespace Call

/-- The call on a fresh connection. -/
def run (call : Call) (db : Db) : Except Exn Unit × Conn Db Stmt :=
  match call with
  | start f now source reportDate manual =>
    ((startRun f now source reportDate manual).run (.opened db)).map (Except.map fun _ => ()) id
  | finalize f now runId status d => (finalizeRun f now runId status d).run (.opened db)
  | reap f now source =>
    ((reapStuckRuns f now source).run (.opened db)).map (Except.map fun _ => ()) id

def after (call : Call) (db : Db) : Db := (call.run db).2.durable

end Call

/-- Calls one after another. -/
def runAll (db : Db) (history : List Call) : Db := history.foldl (fun db call => call.after db) db

theorem runAll_append (db : Db) (before later : List Call) :
    runAll db (before ++ later) = runAll (runAll db before) later := by simp [runAll]

/-- What a call leaves of the table `t`. -/
inductive Written (t : RunsTable) : RunsTable → Prop
  /-- a call that raises -/
  | rejected : Written t t
  | started (source : String) (d : Date) (now : Timestamp) (manual : Bool) :
      Written t (t.insertRun source d now manual)
  | finalized {u : RunsTable} {runId : Nat} {now : Timestamp} {s : Status} {d : Details} :
      s ∈ terminal → t.finalize? runId (finalColumns now s d) = some u → Written t u
  | reaped {u : RunsTable} {source : String} {now : Timestamp} :
      t.reap? source now reapError = some u → Written t u

section
variable {f : TxnFaults} {now : Timestamp} {db : Db}

theorem startRun_outcome (source : String) (d : Date) (manual : Bool) :
    Session.AllOrNothing db (fun _ c => c.durable =
        { db with runs := db.runs.insertRun source d now manual })
      ((startRun f now source d manual).run (.opened db)) := by
  refine .bind_execute rfl fun r db' _ => .bind_commit rfl ?_
  simp

theorem finalizeRun_outcome (runId : Nat) (status : String) (d : Details) :
    Session.AllOrNothing db (fun _ c => ∃ s runs, s ∈ terminal ∧
        db.runs.finalize? runId (finalColumns now s d) = some runs ∧ c.durable = { db with runs })
      ((finalizeRun f now runId status d).run (.opened db)) := by
  unfold finalizeRun
  cases hst : terminal? status with
  | none => exact rfl
  | some s =>
    refine .bind_execute rfl fun r db' happly => .commit rfl ?_
    rw [Conn.working_opened] at happly
    cases hfin : db.runs.finalize? runId (finalColumns now s d) with
    | none => rw [apply_updateRun_none hfin] at happly; cases happly
    | some runs =>
      obtain ⟨r', happly'⟩ := apply_updateRun_some hfin
      exact ⟨s, runs, (terminal?_eq_some hst).1, hfin, by simp [effect_of_apply happly']⟩

theorem reapStuckRuns_outcome (source : String) :
    Session.AllOrNothing db (fun _ c => ∃ runs, db.runs.reap? source now reapError = some runs ∧
        c.durable = { db with runs })
      ((reapStuckRuns f now source).run (.opened db)) := by
  refine .bind_execute rfl fun r db' _ => .bind_commit rfl ?_
  obtain ⟨runs, hreap⟩ := reap?_accepted db.runs source now reapError
  obtain ⟨r', happly⟩ := apply_reapRuns hreap
  exact ⟨runs, hreap, by simp [effect_of_apply happly]⟩

end

/-- A call either raises and leaves the database as it was, or writes the table. -/
theorem Call.outcome (call : Call) (db : Db) :
    (∃ e, (call.run db).1 = .error e) ∧ call.after db = db ∨
      (call.run db).1 = .ok () ∧
        ∃ runs, call.after db = { db with runs } ∧ Written db.runs runs := by
  cases call with
  | start f now source d manual =>
    have h := @startRun_outcome f now db source d manual
    rcases hrun : (startRun f now source d manual).run (.opened db) with ⟨e | id, c⟩ <;>
      rw [hrun] at h
    · exact .inl ⟨⟨e, by simp [run, hrun, Except.map]⟩, by simpa [after, run, hrun] using h⟩
    · exact .inr ⟨by simp [run, hrun, Except.map], _, by simpa [after, run, hrun] using h,
        .started source d now manual⟩
  | finalize f now runId status d =>
    have h := @finalizeRun_outcome f now db runId status d
    rcases hrun : (finalizeRun f now runId status d).run (.opened db) with ⟨e | u, c⟩ <;>
      rw [hrun] at h
    · exact .inl ⟨⟨e, by simp [run, hrun]⟩, by simpa [after, run, hrun] using h⟩
    · obtain ⟨s, runs, hs, hfin, hdb⟩ := h
      exact .inr ⟨by simp [run, hrun], runs, by simp [after, run, hrun, hdb], .finalized hs hfin⟩
  | reap f now source =>
    have h := @reapStuckRuns_outcome f now db source
    rcases hrun : (reapStuckRuns f now source).run (.opened db) with ⟨e | n, c⟩ <;>
      rw [hrun] at h
    · exact .inl ⟨⟨e, by simp [run, hrun, Except.map]⟩, by simpa [after, run, hrun] using h⟩
    · obtain ⟨runs, hreap, hdb⟩ := h
      exact .inr ⟨by simp [run, hrun, Except.map], runs, by simp [after, run, hrun, hdb],
        .reaped hreap⟩

theorem Call.written (call : Call) (db : Db) : Written db.runs (call.after db).runs := by
  rcases call.outcome db with ⟨_, h⟩ | ⟨_, runs, h, hw⟩
  · rw [h]; exact .rejected
  · rw [h]; exact hw

/-! ## What one call preserves -/

/-- The columns of a row that `start_run` sets for good. -/
def identity (r : RunRow) : Nat × String × Date × Timestamp × Bool :=
  (r.id, r.source, r.reportDate, r.startedAt, r.manual)

def identities (t : RunsTable) : List (Nat × String × Date × Timestamp × Bool) :=
  t.rows.map identity

/-- A row is finished when it has left `running`, and not before. -/
def FinishedIff (t : RunsTable) : Prop :=
  ∀ r ∈ t.rows, r.finishedAt = none ↔ r.status = .running

section
variable {t u : RunsTable} {p : RunRow → Bool} {g : RunRow → RunRow} {hid : ∀ r, (g r).id = r.id}

theorem updateWhere?_identities (h : t.updateWhere? p g hid = some u)
    (hg : ∀ r, identity (g r) = identity r) : identities u = identities t := by
  rw [identities, (RunsTable.updateWhere?_some h).1, List.map_map]
  refine List.map_congr_left fun r _ => ?_
  simp only [Function.comp]
  split
  · exact hg r
  · rfl

theorem updateWhere?_finished (h : t.updateWhere? p g hid = some u) (ht : FinishedIff t)
    (hg : ∀ r, (g r).finishedAt ≠ none ∧ (g r).status ≠ .running) : FinishedIff u := by
  intro r hr
  rw [(RunsTable.updateWhere?_some h).1] at hr
  obtain ⟨r', hr', rfl⟩ := List.mem_map.mp hr
  split
  · exact iff_of_false (hg r').1 (hg r').2
  · exact ht r' hr'

theorem Written.identities_initial (h : Written t u) : identities t <+: identities u := by
  cases h with
  | rejected => exact List.prefix_refl _
  | started source d now manual =>
    simp only [identities, RunsTable.insertRun, List.map_append]
    exact List.prefix_append _ _
  | finalized _ hfin =>
    have hsame := updateWhere?_identities hfin fun _ => rfl
    exact hsame ▸ List.prefix_refl _
  | reaped hreap =>
    have hsame := updateWhere?_identities hreap fun _ => rfl
    exact hsame ▸ List.prefix_refl _

theorem ne_running_of_terminal {s : Status} (h : s ∈ terminal) : s ≠ .running := by
  rintro rfl
  revert h
  decide

theorem Written.finished (h : Written t u) (ht : FinishedIff t) : FinishedIff u := by
  cases h with
  | rejected => exact ht
  | started source d now manual =>
    intro r hr
    rcases List.mem_append.mp hr with hr | hr
    · exact ht r hr
    · rw [List.mem_singleton.mp hr]
      exact iff_of_true rfl rfl
  | finalized hs hfin =>
    exact updateWhere?_finished hfin ht fun r =>
      ⟨Option.some_ne_none _, ne_running_of_terminal hs⟩
  | reaped hreap =>
    exact updateWhere?_finished hreap ht fun r => ⟨Option.some_ne_none _, by simp [RunRow.reap]⟩

end

/-! ## What a history preserves -/

section
variable {db : Db}

theorem runAll_cons (call : Call) (history : List Call) :
    runAll db (call :: history) = runAll (call.after db) history := rfl

theorem runAll_identities (history : List Call) :
    identities db.runs <+: identities (runAll db history).runs := by
  induction history generalizing db with
  | nil => exact List.prefix_refl _
  | cons call history ih => exact (call.written db).identities_initial.trans ih

theorem runAll_finished (history : List Call) (h : FinishedIff db.runs) :
    FinishedIff (runAll db history).runs := by
  induction history generalizing db with
  | nil => exact h
  | cons call history ih => exact ih ((call.written db).finished h)

/-- A `start_run` that returns appends its row under the id it returns. -/
theorem start_identity {f : TxnFaults} {now : Timestamp} {source : String} {d : Date}
    {manual : Bool} (h : ((Call.start f now source d manual).run db).1 = .ok ()) :
    (db.runs.nextId, source, d, now, manual) ∈
      identities ((Call.start f now source d manual).after db).runs := by
  have hout := @startRun_outcome f now db source d manual
  rcases hrun : (startRun f now source d manual).run (.opened db) with ⟨e | id, c⟩
  · simp [Call.run, hrun, Except.map] at h
  · rw [hrun] at hout
    have hafter : (Call.start f now source d manual).after db =
        { db with runs := db.runs.insertRun source d now manual } := by
      simpa [Call.after, Call.run, hrun] using hout
    rw [hafter, identities, RunsTable.insertRun, List.map_append]
    exact List.mem_append_right _ (List.mem_singleton_self _)

/-- The status texts the column can hold. -/
theorem status_text (s : Status) : s.text = "running" ∨ s.text ∈ terminalStatuses := by
  cases s <;> simp [Status.text, terminalStatuses, terminal]

end
/-! ## The invariant -/

def noFaults : TxnFaults := ⟨none, none⟩

/-- Finalizing a run as `ok` is refused for the key, when nothing else fails. -/
def Refused (db : Db) (runId : Nat) : Prop :=
  ∀ now d, ((finalizeRun noFaults now runId "ok" d).run (.opened db)).1 =
    .error (duplicateEntry "uk_ok_scheduled_date")

/-- What the runs table is at any time, and what its two readers make of it. -/
structure Lifecycle (db : Db) : Prop where
  status : ∀ r ∈ db.runs.rows, r.status.text = "running" ∨ r.status.text ∈ terminalStatuses
  finished : ∀ r ∈ db.runs.rows, r.finishedAt = none ↔ r.status.text = "running"
  one_ok : ∀ r ∈ db.runs.rows, ∀ r' ∈ db.runs.rows, r.source = r'.source →
    r.reportDate = r'.reportDate → r.status = .ok → r.manual = false → r'.status = .ok →
    r'.manual = false → r = r'
  ingested : ∀ source since, ∃ dates,
    ((findIngestedDates none source since).run (.opened db)).1 = .ok dates ∧
      ∀ d, d ∈ dates ↔ since ≤ d ∧ ∃ r ∈ db.runs.rows, r.source = source ∧ r.reportDate = d ∧
        (r.status = .ok ∨ r.status = .skipped)
  scheduled : ∀ source d, ∃ found,
    ((hasSuccessfulScheduledRun none source d).run (.opened db)).1 = .ok found ∧
      ∀ row ∈ db.runs.rows, row.source = source → row.reportDate = d → row.manual = false →
        row.status ≠ .ok → (found = true ↔ Refused db row.id)

section
variable {db : Db}

theorem refused_iff {runId : Nat} : Refused db runId ↔
    ∀ now d, db.runs.finalize? runId (finalColumns now .ok d) = none := by
  refine forall_congr' fun now => forall_congr' fun d => ?_
  have hst : terminal? "ok" = some .ok := by decide
  cases hfin : db.runs.finalize? runId (finalColumns now .ok d) with
  | none =>
    have hrun := @finalizeRun_error noFaults now runId _ _ d (.opened db) _ true hst
      (iff_of_true rfl hfin) rfl
    exact iff_of_true (congrArg Prod.fst hrun) rfl
  | some runs =>
    have hrun := @finalizeRun_ok noFaults now runId _ _ d (.opened db) _ hst hfin rfl
    refine iff_of_false ?_ (Option.some_ne_none _)
    rw [congrArg Prod.fst hrun]
    simp

theorem text_running {s : Status} : s.text = "running" ↔ s = .running := by
  cases s <;> simp [Status.text]

/-- A scheduled row that is not `ok` may become it exactly when no other is. -/
theorem any_okScheduled_iff_refused {row : RunRow} (hrow : row ∈ db.runs.rows)
    (hmanual : row.manual = false) (hnot : row.status ≠ .ok) :
    db.runs.rows.any (okScheduled row.source row.reportDate) = true ↔ Refused db row.id := by
  rw [refused_iff, List.any_eq_true]
  constructor
  · rintro ⟨r, hr, hok⟩ now d
    refine (finalize?_ok_eq_none hrow rfl).mpr ⟨hmanual, r, hr, ?_, hok⟩
    intro hid
    have hsame := RunsTable.eq_of_id hr hrow hid
    simp only [okScheduled, decide_eq_true_eq] at hok
    exact hnot (hsame ▸ hok.2.2.1)
  · intro h
    obtain ⟨-, r, hr, -, hok⟩ := (finalize?_ok_eq_none hrow rfl).mp (h 0 {})
    exact ⟨r, hr, hok⟩

theorem FinishedIff.lifecycle (h : FinishedIff db.runs) : Lifecycle db where
  status r _ := status_text r.status
  finished r hr := (h r hr).trans text_running.symm
  one_ok := by
    intro r hr r' hr' hsource hdate hok hmanual hok' hmanual'
    refine RunsTable.eq_of_okScheduledKey hr hr' (k := (r.source, r.reportDate)) ?_ ?_
    · simp [okScheduledKey_eq_some, okScheduled, hok, hmanual]
    · simp [okScheduledKey_eq_some, okScheduled, hsource, hdate, hok', hmanual']
  ingested := by
    intro source since
    refine ⟨_, rfl, fun d => ?_⟩
    simp only [ingestedDates, Conn.working_opened, List.mem_map, List.mem_filter, Runs.ingested,
      decide_eq_true_eq]
    constructor
    · intro h
      obtain ⟨r, ⟨hr, hin, hle⟩, rfl⟩ := h
      exact ⟨hle, r, hr, hin.1, rfl, hin.2⟩
    · intro h
      obtain ⟨hle, r, hr, hsource, rfl, hst⟩ := h
      exact ⟨r, ⟨hr, ⟨hsource, hst⟩, hle⟩, rfl⟩
  scheduled := by
    intro source d
    refine ⟨_, rfl, ?_⟩
    rintro row hrow rfl rfl hmanual hnot
    exact any_okScheduled_iff_refused hrow hmanual hnot

/-- Before the first run. -/
def empty (audit : AuditTable) : Db := ⟨audit, .empty⟩

/-- After any calls the table is well formed, its readers agree with its writers, and
every row is still the one its `start_run` made. -/
theorem runs_lifecycle (audit : AuditTable) (history : List Call) :
    Lifecycle (runAll (empty audit) history) ∧
      (∀ before later, history = before ++ later →
        identities (runAll (empty audit) before).runs <+:
          identities (runAll (empty audit) history).runs) ∧
      ∀ before later f now source d manual,
        history = before ++ Call.start f now source d manual :: later →
        ((Call.start f now source d manual).run (runAll (empty audit) before)).1 = .ok () →
        ((runAll (empty audit) before).runs.nextId, source, d, now, manual) ∈
          identities (runAll (empty audit) history).runs := by
  refine ⟨(runAll_finished history ?_).lifecycle, ?_, ?_⟩
  · intro r hr
    cases hr
  · rintro before later rfl
    rw [runAll_append]
    exact runAll_identities later
  · rintro before later f now source d manual rfl hok
    rw [runAll_append, runAll_cons]
    exact (runAll_identities later).subset (start_identity hok)

end

end Bluewave.RunsLifecycle
