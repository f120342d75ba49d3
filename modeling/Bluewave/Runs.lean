import Bluewave.Tables

/-! The run row lifecycle of `runs.py`: start, finalize, the boot-time reaper and
the two readers. -/
namespace Bluewave.Runs
open Lib Bluewave.Exceptions Bluewave.Tables

/-- `TERMINAL_STATUSES`, as the column values behind the strings. -/
def terminal : List Status :=
  [.ok, .authFailed, .navFailed, .reportTimeout, .downloadFailed, .parseFailed, .ingestFailed,
    .schemaDrift, .skipped]

def terminalStatuses : List String := terminal.map Status.text

/-- `status in TERMINAL_STATUSES`, with the value it stands for. -/
def terminal? (status : String) : Option Status := terminal.find? fun s => s.text = status

def reapError : String := "reaped on boot — container died mid-run"

/-- Failures from outside of a write and of the COMMIT behind it. -/
structure TxnFaults where
  statement : Option Exn
  commit : Option Exn

def startRun (f : TxnFaults) (now : Timestamp) (source : String) (reportDate : Date)
    (manual : Bool) : Session Db Stmt Exn Nat := do
  let cur ← Session.execute f.statement (.insertRun source reportDate now manual)
  Session.commit f.commit
  pure cur.lastInsertId

/-- The optional arguments of `finalize_run`. -/
structure Details where
  rowsInCsv : Option Int := none
  rowsInserted : Option Int := none
  rowsDuplicate : Option Int := none
  errorExcerpt : Option String := none
  screenshotPath : Option String := none

/-- `s[:2000]`. -/
def clip (s : String) : String := String.ofList (s.toList.take 2000)

/-- `(error_excerpt or None) and error_excerpt[:2000]`. -/
def excerpt : Option String → Option String
  | none => none
  | some s => if s = "" then none else some (clip s)

/-- The SET list of `finalize_run`. -/
def finalColumns (now : Timestamp) (status : Status) (d : Details) : Terminal where
  finishedAt := now
  status := status
  rowsInCsv := d.rowsInCsv
  rowsInserted := d.rowsInserted
  rowsDuplicate := d.rowsDuplicate
  errorExcerpt := excerpt d.errorExcerpt
  screenshotPath := d.screenshotPath

def finalizeRun (f : TxnFaults) (now : Timestamp) (runId : Nat) (status : String) (d : Details) :
    Session Db Stmt Exn Unit :=
  match terminal? status with
  | none => Session.lift (.error (valueError ("non-terminal status: '" ++ status ++ "'")))
  | some s => do
    let _ ← Session.execute f.statement (.updateRun runId (finalColumns now s d))
    Session.commit f.commit

def reapStuckRuns (f : TxnFaults) (now : Timestamp) (source : String) :
    Session Db Stmt Exn Nat := do
  let cur ← Session.execute f.statement (.reapRuns source now reapError)
  Session.commit f.commit
  pure cur.affectedRows

/-- `WHERE source = … AND report_date = … AND status = 'ok' AND manual = 0`. -/
def okScheduled (source : String) (reportDate : Date) (r : RunRow) : Bool :=
  r.source = source ∧ r.reportDate = reportDate ∧ r.status = .ok ∧ r.manual = false

def hasSuccessfulScheduledRun (fault : Option Exn) (source : String) (reportDate : Date) :
    Session Db Stmt Exn Bool :=
  Session.query fault fun db => db.runs.rows.any (okScheduled source reportDate)

/-- `WHERE source = … AND status IN ('ok', 'skipped')`. -/
def ingested (source : String) (r : RunRow) : Bool :=
  r.source = source ∧ (r.status = .ok ∨ r.status = .skipped)

/-- The dates `find_ingested_dates` selects. -/
def ingestedDates (t : RunsTable) (source : String) (since : Date) : List Date :=
  (t.rows.filter fun r => ingested source r ∧ since ≤ r.reportDate).map RunRow.reportDate

def findIngestedDates (fault : Option Exn) (source : String) (since : Date) :
    Session Db Stmt Exn (List Date) :=
  Session.query fault fun db => ingestedDates db.runs source since

/-! ## Statuses -/

theorem terminal?_eq_some {status : String} {s : Status} (h : terminal? status = some s) :
    s ∈ terminal ∧ s.text = status := by
  refine ⟨List.mem_of_find?_eq_some h, ?_⟩
  simpa using List.find?_some h

/-! ## When a finalizing UPDATE is accepted -/

theorem okScheduledKey_eq_some {r : RunRow} {source : String} {d : Date} :
    r.okScheduledKey = some (source, d) ↔ okScheduled source d r = true := by
  simp only [RunRow.okScheduledKey, RunRow.okScheduledDate, okScheduled]
  by_cases h : r.status = .ok ∧ r.manual = false
  · simp [h.1, h.2]
  · simp only [if_neg h, Option.map_none, reduceCtorEq, false_iff, decide_eq_true_eq]
    exact fun hc => h hc.2.2

/-- An UPDATE that gives no row an `ok_scheduled_date` is accepted. -/
theorem updateWhere?_accepted {t : RunsTable} {p : RunRow → Bool} {f : RunRow → RunRow}
    {hid : ∀ r, (f r).id = r.id} (h : ∀ r, (f r).okScheduledKey = none) :
    ∃ u, t.updateWhere? p f hid = some u := by
  refine RunsTable.updateWhere?_accepted_iff.mpr ?_
  have hkeep : ∀ r k, (if p r then f r else r).okScheduledKey = some k →
      r.okScheduledKey = some k := by
    intro r k hk
    split at hk
    · rw [h r] at hk; cases hk
    · exact hk
  intro a ha b hb k hka hkb
  exact RunsTable.eq_of_okScheduledKey ha hb (hkeep a k hka) (hkeep b k hkb)

/-- A failure status is never rejected, whatever the table holds. -/
theorem finalize?_accepted (t : RunsTable) (runId : Nat) {cols : Terminal}
    (h : cols.status ≠ .ok) : ∃ u, t.finalize? runId cols = some u :=
  updateWhere?_accepted fun r => by
    simp [RunRow.okScheduledKey, RunRow.okScheduledDate, Terminal.applyTo, h]

/-- The reaper is never rejected. -/
theorem reap?_accepted (t : RunsTable) (source : String) (now : Timestamp) (error : String) :
    ∃ u, t.reap? source now error = some u :=
  updateWhere?_accepted fun _ => rfl

/-- Finalizing a row as `ok` is rejected exactly when it is a scheduled one and
another scheduled run of its date is `ok` already. -/
theorem finalize?_ok_eq_none {t : RunsTable} {row : RunRow} {cols : Terminal}
    (hrow : row ∈ t.rows) (hok : cols.status = .ok) :
    t.finalize? row.id cols = none ↔
      row.manual = false ∧
        ∃ r ∈ t.rows, r.id ≠ row.id ∧ okScheduled row.source row.reportDate r = true := by
  have hkey : (cols.applyTo row).okScheduledKey =
      if row.manual = false then some (row.source, row.reportDate) else none := by
    by_cases hm : row.manual = false <;>
      simp [RunRow.okScheduledKey, RunRow.okScheduledDate, Terminal.applyTo, hok, hm]
  rw [← not_iff_not, ← ne_eq, Option.ne_none_iff_exists']
  refine Iff.trans RunsTable.updateWhere?_accepted_iff ?_
  constructor
  · rintro h ⟨hm, r, hr, hne, hokr⟩
    refine hne (congrArg RunRow.id (h r hr row hrow (row.source, row.reportDate) ?_ ?_))
    · simp only [hne, decide_false, Bool.false_eq_true, if_false]
      exact okScheduledKey_eq_some.mpr hokr
    · simp only [decide_true, if_true, hkey, if_pos hm]
  · -- two rows that share an entry: neither, one or both of them is the finalized one
    intro h a ha b hb k hka hkb
    have hclash : ∀ r ∈ t.rows, r.id ≠ row.id → r.okScheduledKey = some k →
        (cols.applyTo row).okScheduledKey = some k → False := by
      intro r hr hne hkr hkrow
      rw [hkey] at hkrow
      split at hkrow
      · rename_i hm
        cases hkrow
        exact h ⟨hm, r, hr, hne, okScheduledKey_eq_some.mp hkr⟩
      · cases hkrow
    by_cases hia : a.id = row.id <;> by_cases hib : b.id = row.id
    · exact RunsTable.eq_of_id ha hb (hia.trans hib.symm)
    · have := RunsTable.eq_of_id ha hrow hia
      subst this
      simp only [hib, decide_true, decide_false, Bool.false_eq_true, if_true, if_false] at hka hkb
      exact (hclash b hb hib hkb hka).elim
    · have := RunsTable.eq_of_id hb hrow hib
      subst this
      simp only [hia, decide_true, decide_false, Bool.false_eq_true, if_true, if_false] at hka hkb
      exact (hclash a ha hia hka hkb).elim
    · simp only [hia, hib, decide_false, Bool.false_eq_true, if_false] at hka hkb
      exact RunsTable.eq_of_okScheduledKey ha hb hka hkb

/-- A run just started is refused its `ok` exactly when
`has_successful_scheduled_run` would have said so. -/
theorem finalize?_fresh_eq_none {t : RunsTable} {source : String} {d : Date} {now : Timestamp}
    {manual : Bool} {cols : Terminal} (hok : cols.status = .ok) :
    (t.insertRun source d now manual).finalize? t.nextId cols = none ↔
      manual = false ∧ t.rows.any (okScheduled source d) = true := by
  have hmem : RunsTable.runningRow t.nextId source d now manual ∈
      (t.insertRun source d now manual).rows := List.mem_append_right _ (List.mem_singleton_self _)
  have hiff := finalize?_ok_eq_none hmem hok
  refine hiff.trans (and_congr Iff.rfl ?_)
  rw [List.any_eq_true]
  constructor
  · rintro ⟨r, hr, hne, hokr⟩
    rcases List.mem_append.mp hr with h | h
    · exact ⟨r, h, hokr⟩
    · rw [List.mem_singleton.mp h] at hne
      exact (hne rfl).elim
  · rintro ⟨r, hr, hokr⟩
    exact ⟨r, List.mem_append_left _ hr, Nat.ne_of_lt (t.ids_lt r hr), hokr⟩

/-! ## What the calls do -/

theorem startRun_ok {f : TxnFaults} (hs : f.statement = none) (hc : f.commit = none)
    (now : Timestamp) (source : String) (d : Date) (manual : Bool) (c : Conn Db Stmt) :
    (startRun f now source d manual).run c =
      (.ok c.working.runs.nextId, (c.push [.insertRun source d now manual]).commit) := by
  rw [startRun, hs, Session.bind_ok (Session.execute_ok (apply_insertRun ..)), hc]
  rfl

/-- A `start_run` that raises has written nothing. -/
theorem startRun_error {f : TxnFaults} {e : Exn} (hf : f.statement.or f.commit = some e)
    (now : Timestamp) (source : String) (d : Date) (manual : Bool) {c : Conn Db Stmt}
    (hclean : c.pending = []) :
    (startRun f now source d manual).run c = (.error e, c) := by
  rw [startRun]
  cases hs : f.statement with
  | some e' =>
    rw [hs, Option.some_or, Option.some.injEq] at hf
    subst hf
    exact Session.bind_error (Session.execute_fault ..)
  | none =>
    rw [hs, Option.none_or] at hf
    have hcommit : (Session.commit (some e)).run (c.push [Stmt.insertRun source d now manual]) =
        ((.error e : Except Exn Unit), c) := by
      simp [Session.commit, Conn.rollback_push _ hclean]
    rw [Session.bind_ok (Session.execute_ok (apply_insertRun ..)), hf, Session.bind_error hcommit]

theorem reapStuckRuns_ok {f : TxnFaults} (hs : f.statement = none) (hc : f.commit = none)
    (now : Timestamp) (source : String) (c : Conn Db Stmt) :
    ∃ n, (reapStuckRuns f now source).run c =
      (.ok n, (c.push [.reapRuns source now reapError]).commit) := by
  obtain ⟨u, hu⟩ := reap?_accepted c.working.runs source now reapError
  obtain ⟨r, hr⟩ := apply_reapRuns hu
  refine ⟨r.affectedRows, ?_⟩
  rw [reapStuckRuns, hs, Session.bind_ok (Session.execute_ok hr), hc]
  rfl

/-- What a finalizing UPDATE and its COMMIT fail with, if they do. -/
def finalizeFailure (f : TxnFaults) (rejected : Bool) : Option Exn :=
  f.statement.or
    ((if rejected then some (duplicateEntry "uk_ok_scheduled_date") else none).or f.commit)

theorem finalizeRun_ok {f : TxnFaults} {now : Timestamp} {runId : Nat} {status : String}
    {s : Status} {d : Details} {c : Conn Db Stmt} {runs : RunsTable}
    (hst : terminal? status = some s)
    (hfin : c.working.runs.finalize? runId (finalColumns now s d) = some runs)
    (hf : finalizeFailure f false = none) :
    (finalizeRun f now runId status d).run c =
      (.ok (), (c.push [.updateRun runId (finalColumns now s d)]).commit) := by
  obtain ⟨hs, hc⟩ := Option.or_eq_none_iff.mp hf
  obtain ⟨r, hr⟩ := apply_updateRun_some hfin
  simp only [finalizeRun, hst, hs]
  rw [Session.bind_ok (Session.execute_ok hr)]
  have hcommit : f.commit = none := by simpa using hc
  rw [hcommit]
  rfl

/-- A finalizer that raises has committed nothing. The rest of the open
transaction survives it, unless it was the COMMIT that failed. -/
theorem finalizeRun_error {f : TxnFaults} {now : Timestamp} {runId : Nat} {status : String}
    {s : Status} {d : Details} {c : Conn Db Stmt} {e : Exn} {rejected : Bool}
    (hst : terminal? status = some s)
    (hfin : rejected = true ↔ c.working.runs.finalize? runId (finalColumns now s d) = none)
    (hf : finalizeFailure f rejected = some e) :
    (finalizeRun f now runId status d).run c =
      (.error e, if f.statement = none ∧ rejected = false then c.rollback else c) := by
  simp only [finalizeRun, hst]
  cases hs : f.statement with
  | some e' =>
    have he : e' = e := by simpa [finalizeFailure, hs] using hf
    subst he
    rw [Session.bind_error (Session.execute_fault ..)]
    simp
  | none =>
    cases rejected with
    | true =>
      have he : duplicateEntry "uk_ok_scheduled_date" = e := by
        simpa [finalizeFailure, hs] using hf
      subst he
      have hrej := apply_updateRun_none (hfin.mp rfl)
      rw [Session.bind_error (Session.execute_rejected hrej)]
      simp
    | false =>
      have hcommit : f.commit = some e := by simpa [finalizeFailure, hs] using hf
      have hsome : c.working.runs.finalize? runId (finalColumns now s d) ≠ none :=
        fun h => Bool.false_ne_true (hfin.mpr h)
      obtain ⟨runs, hruns⟩ := Option.ne_none_iff_exists'.mp hsome
      obtain ⟨r, hr⟩ := apply_updateRun_some hruns
      rw [Session.bind_ok (Session.execute_ok hr), hcommit]
      rfl

end Bluewave.Runs
