import Bluewave.Catchup
import Bluewave.RunJob

/-! A whole `catchup_missing`, with nothing between its read and its lock section: what
it appends and what it skips are its window without the ingested dates, and a second call
finds nothing to append as long as those dates are queued or in flight. -/
namespace Bluewave.CatchupWindow
open Lib Bluewave.Exceptions Bluewave.Tables Bluewave.Runs Bluewave.Orchestrator
open Bluewave.SingleFlight Bluewave.Catchup

/-- What `catchup_missing` reads from outside: the config, a connection and its query. -/
structure Reads where
  load : Except Exn (Option Config)
  connect : MysqlConfig → Except Exn Unit
  select : Option Exn

/-- `ingested`, or what the database raises. -/
def readIngested (w : Reads) (cfg : Config) (db : Db) (earliest : Date) :
    Except Exn (List Date) := do
  w.connect cfg.mysql
  ((findIngestedDates w.select "Bluewave" earliest).run (.opened db)).1

/-- `catchup_missing`. -/
def catchupMissing (w : Reads) (db : Db) (today : Date) (capDays : Int) (s : State) :
    Except Exn (List Date × List Date) × State :=
  match w.load with
  | .error e => (.error e, s)
  | .ok none => (.ok ([], []), s)
  | .ok (some cfg) =>
    match window today capDays with
    | .error e => (.error e, s)
    | .ok (earliest, candidates) =>
      match readIngested w cfg db earliest with
      | .error e => (.error e, s)
      | .ok ingested =>
        let (result, s') := s.catchupSection ingested candidates
        (.ok result, s')

/-- There is a config, and the database answers. -/
def Answered (w : Reads) : Prop :=
  ∃ cfg, w.load = .ok (some cfg) ∧ w.connect cfg.mysql = .ok () ∧ w.select = none

/-- In order, and no date twice. -/
def Ascending (dates : List Date) : Prop := dates.Pairwise fun a b => a.ordinal < b.ordinal

/-- From `today - capDays` to yesterday, without an `ok` or `skipped` row. -/
def Missed (t : RunsTable) (today : Date) (capDays : Int) (d : Date) : Prop :=
  (today.ordinal : Int) - capDays ≤ d.ordinal ∧ d.ordinal < today.ordinal ∧ isIngested t d = false

/-- The worker does not finish any of these dates. -/
def Holding (dates : List Date) (s : State) : Action → Prop
  | .clear _ => ∀ d ∈ dates, s.inFlight ≠ some d
  | _ => True

/-! ## The window -/

theorem date_ext {d e : Date} (h : d.ordinal = e.ordinal) : d = e := by
  cases d
  cases e
  cases h
  rfl

section
variable {today earliest d : Date} {capDays : Int} {candidates : List Date}

/-- Where the window has a first day, it has all its days. -/
theorem window_of_earliest (h : today.minusDays capDays = .ok earliest) :
    ∃ candidates, window today capDays = .ok (earliest, candidates) := by
  have hfirst := minusDays_ok h
  have hone := earliest.one_le
  have hmax := today.le_max
  obtain ⟨days, hdays⟩ : ∃ days, (List.range capDays.toNat).mapM
      (fun (i : Nat) => today.minusDays (i + 1)) = .ok days := by
    refine Result.exists_mapM_eq_ok fun i hi => ?_
    have := List.mem_range.mp hi
    exact ⟨⟨today.ordinal - (i + 1), by omega, by omega⟩, minusDays_eq_ok (by simp only; omega)⟩
  refine ⟨days.insertionSort (· ≤ ·), ?_⟩
  simp only [window, h, hdays, bind, Except.bind, pure, Except.pure]

/-- The candidates are the days from the first one to yesterday. -/
theorem mem_window (h : window today capDays = .ok (earliest, candidates)) :
    d ∈ candidates ↔ (today.ordinal : Int) - capDays ≤ d.ordinal ∧ d.ordinal < today.ordinal := by
  obtain ⟨hearliest, days, hall, rfl⟩ := window_ok h
  rw [List.mem_insertionSort]
  have hord := days_ordinal hall
  constructor
  · intro hd
    have hmem : (d.ordinal : Int) ∈ days.map fun d : Date => (d.ordinal : Int) :=
      List.mem_map_of_mem hd
    rw [hord] at hmem
    obtain ⟨i, hi, heq⟩ := List.mem_map.mp hmem
    have := List.mem_range.mp hi
    omega
  · intro hd
    obtain ⟨hlo, hhi⟩ := hd
    have hmem : (d.ordinal : Int) ∈ days.map fun d : Date => (d.ordinal : Int) := by
      rw [hord]
      refine List.mem_map.mpr ⟨today.ordinal - d.ordinal - 1, List.mem_range.mpr ?_, ?_⟩ <;> omega
    obtain ⟨e, he, heq⟩ := List.mem_map.mp hmem
    exact date_ext (Int.ofNat.inj heq) ▸ he

instance : Std.Total (α := Date) (· ≤ ·) := ⟨fun a b => Nat.le_total a.ordinal b.ordinal⟩

instance : IsTrans Date (· ≤ ·) := ⟨fun _ _ _ hab hbc => Nat.le_trans hab hbc⟩

theorem window_ascending (h : window today capDays = .ok (earliest, candidates)) :
    Ascending candidates := by
  have hnodup := window_nodup h
  obtain ⟨-, days, -, rfl⟩ := window_ok h
  refine (hnodup.and (List.pairwise_insertionSort (· ≤ ·) days)).imp fun {a b} hab => ?_
  obtain ⟨hne, hle⟩ := hab
  exact lt_of_le_of_ne hle fun heq => hne (date_ext heq)

end

/-! ## One call -/

section
variable {w : Reads} {db : Db} {today earliest : Date} {capDays : Int} {s s' : State}
  {ingested candidates : List Date}

theorem readIngested_eq_ok {cfg : Config} :
    readIngested w cfg db earliest = .ok ingested ↔ w.connect cfg.mysql = .ok () ∧
      w.select = none ∧ ingested = ingestedDates db.runs "Bluewave" earliest := by
  unfold readIngested findIngestedDates
  cases w.connect cfg.mysql with
  | error e => simp [bind, Except.bind]
  | ok u =>
    cases w.select with
    | some e => simp [bind, Except.bind, Session.query]
    | none => simp [bind, Except.bind, Session.query, eq_comm]

/-- A call that gets its answers is its lock section. -/
theorem catchupMissing_answered (hw : Answered w)
    (hwindow : window today capDays = .ok (earliest, candidates)) :
    catchupMissing w db today capDays s =
      (.ok (s.missing (ingestedDates db.runs "Bluewave" earliest) candidates,
          s.skipped (ingestedDates db.runs "Bluewave" earliest) candidates),
        s.enqueue ((s.missing (ingestedDates db.runs "Bluewave" earliest) candidates).map
          fun d => (d, false))) := by
  obtain ⟨cfg, hload, hconnect, hselect⟩ := hw
  have hread : readIngested w cfg db earliest = .ok (ingestedDates db.runs "Bluewave" earliest) :=
    readIngested_eq_ok.mpr ⟨hconnect, hselect, rfl⟩
  simp only [catchupMissing, hload, hwindow, hread, State.catchupSection_eq]

/-- A call that does not get them leaves the queue alone. -/
theorem catchupMissing_unanswered (h : ¬ (Answered w ∧ ∃ e, today.minusDays capDays = .ok e)) :
    ((∃ e, (catchupMissing w db today capDays s).1 = .error e) ∨
      w.load = .ok none ∧ (catchupMissing w db today capDays s).1 = .ok ([], [])) ∧
      (catchupMissing w db today capDays s).2 = s := by
  unfold catchupMissing
  cases hload : w.load with
  | error e => exact ⟨.inl ⟨e, rfl⟩, rfl⟩
  | ok cfg? =>
    cases cfg? with
    | none => exact ⟨.inr ⟨rfl, rfl⟩, rfl⟩
    | some cfg =>
      simp only
      cases hwindow : window today capDays with
      | error e => exact ⟨.inl ⟨e, rfl⟩, rfl⟩
      | ok bounds =>
        obtain ⟨earliest, candidates⟩ := bounds
        simp only
        cases hread : readIngested w cfg db earliest with
        | error e => exact ⟨.inl ⟨e, rfl⟩, rfl⟩
        | ok ingested =>
          obtain ⟨hconnect, hselect, -⟩ := readIngested_eq_ok.mp hread
          exact absurd ⟨⟨cfg, hload, hconnect, hselect⟩, earliest, (window_ok hwindow).1⟩ h

/-- The read of the window knows which of its dates are ingested. -/
theorem mem_ingestedDates_iff (hwindow : window today capDays = .ok (earliest, candidates))
    {d : Date} (hd : d ∈ candidates) :
    d ∈ ingestedDates db.runs "Bluewave" earliest ↔ isIngested db.runs d = true := by
  refine ⟨fun hmem => ?_, mem_ingestedDates hwindow hd⟩
  obtain ⟨r, hr, rfl⟩ := List.mem_map.mp hmem
  obtain ⟨hrow, hcond⟩ := List.mem_filter.mp hr
  exact isIngested_iff.mpr ⟨r, hrow, (of_decide_eq_true hcond).1, rfl⟩

/-- Appended or skipped is every date of the window that is not ingested, by whether the
queue knows it. -/
theorem mem_missing_iff (hwindow : window today capDays = .ok (earliest, candidates)) {d : Date} :
    (d ∈ s.missing (ingestedDates db.runs "Bluewave" earliest) candidates ↔
      Missed db.runs today capDays d ∧ s.known d = false) ∧
    (d ∈ s.skipped (ingestedDates db.runs "Bluewave" earliest) candidates ↔
      Missed db.runs today capDays d ∧ s.known d = true) := by
  have hread (hd : d ∈ candidates) : d ∉ ingestedDates db.runs "Bluewave" earliest ↔
      isIngested db.runs d = false := by
    rw [mem_ingestedDates_iff hwindow hd, Bool.not_eq_true]
  simp only [State.missing, State.skipped, List.mem_filter, decide_eq_true_eq, Missed,
    ← and_assoc, ← mem_window hwindow]
  constructor <;> by_cases hd : d ∈ candidates <;> simp [hd, hread]

/-! ## Between two calls -/

theorem queue_enqueue (s : State) (runs : List (Date × Bool)) :
    (s.enqueue runs).queue = s.queue ++ runs := by
  unfold State.enqueue State.ensureWorkerLocked
  split
  · rename_i hnil
    rw [hnil, List.append_nil]
  · split <;> rfl

/-- After an enqueue the queue knows what it was given, and what it knew. -/
theorem known_enqueue {dates : List Date} {d : Date} (h : d ∈ dates ∨ s.known d = true) :
    (s.enqueue (dates.map fun d => (d, false))).known d = true := by
  rw [State.known_iff, inFlight_enqueue, queue_enqueue, List.map_append, List.mem_append]
  rcases h with hd | hk
  · exact .inr (.inr (List.mem_map.mpr ⟨(d, false), List.mem_map_of_mem hd, rfl⟩))
  · exact (State.known_iff.mp hk).imp id .inl

/-- A date the queue knows stays known until the worker finishes it. -/
theorem known_step (h : Inv s) {a : Action} {dates : List Date} (hhold : Holding dates s a)
    (hs : Orchestrator.step s a = some s') {d : Date} (hd : d ∈ dates) (hk : s.known d = true) :
    s'.known d = true := by
  rw [State.known_iff] at hk ⊢
  have henq (runs : List (Date × Bool)) : (s.enqueue runs).inFlight = some d ∨
      d ∈ (s.enqueue runs).queue.map Prod.fst := by
    rw [inFlight_enqueue, queue_enqueue, List.map_append]
    exact hk.imp id (List.mem_append_left _)
  cases Step.of_step hs with
  | tryEnqueue | catchup => exact henq _
  | continues | stops | drained | calls | jobEnds | dies | shutdown => exact hk
  | pops hp hq =>
    obtain ⟨run, hrun, -, hagree⟩ := h.flight
    rw [(h.oneWorker.current hp (by decide)).2] at hagree
    obtain ⟨rfl, -⟩ := hagree
    rcases hk with hflight | hqueued
    · rw [← hrun] at hflight
      cases hflight
    · rw [hq, List.map_cons, List.mem_cons] at hqueued
      exact hqueued.imp (fun he => congrArg some he.symm) id
  | clears hp => exact .inr (hk.resolve_left (hhold d hd))

/-- However the worker and the enqueuers go on, as long as none of the dates is finished. -/
theorem known_run (h : Inv s) {dates : List Date} (hk : ∀ d ∈ dates, s.known d = true)
    (hrun : Reachable (· = s) Orchestrator.step (Holding dates) s') :
    Inv s' ∧ ∀ d ∈ dates, s'.known d = true :=
  hrun.invariant (I := fun t => Inv t ∧ ∀ d ∈ dates, t.known d = true) (fun _ ht => ht ▸ ⟨h, hk⟩)
    fun _ _ _ _ ht hhold hs =>
      ⟨ht.1.step hs, fun d hd => known_step ht.1 hhold hs hd (ht.2 d hd)⟩

/-- A call where all dates it would consider are known finds nothing to append. -/
theorem missing_eq_nil (hk : ∀ d, Missed db.runs today capDays d → s.known d = true)
    (hwindow : window today capDays = .ok (earliest, candidates)) :
    s.missing (ingestedDates db.runs "Bluewave" earliest) candidates = [] := by
  refine List.eq_nil_iff_forall_not_mem.mpr fun d hd => ?_
  obtain ⟨hmissed, hnew⟩ := (mem_missing_iff hwindow).1.mp hd
  rw [hk d hmissed] at hnew
  cases hnew

end

/-- Whatever the state, a call that gets its answers appends the missed dates of its window
that the queue does not know and reports the others, and nothing but those: after a run in
which none of these dates is finished, a second call appends nothing and reports them all. -/
theorem catchupMissing_window (w w' : Reads) (db : Db) (today earliest : Date) (capDays : Int)
    (s : State) (hw : Answered w) (hw' : Answered w')
    (hearliest : today.minusDays capDays = .ok earliest) :
    ∃ (enqueued skipped : List Date) (s' : State),
      catchupMissing w db today capDays s = (.ok (enqueued, skipped), s') ∧
      Ascending enqueued ∧ Ascending skipped ∧ enqueued.Disjoint skipped ∧
      (∀ d, d ∈ enqueued ∨ d ∈ skipped ↔ Missed db.runs today capDays d) ∧
      (∀ d, d ∈ skipped ↔ Missed db.runs today capDays d ∧
        (s.inFlight = some d ∨ d ∈ s.queue.map Prod.fst)) ∧
      s'.queue = s.queue ++ enqueued.map (fun d => (d, false)) ∧
      (∀ d ∈ enqueued, d.ordinal < today.ordinal) ∧
      (Reached s → ∀ later,
        Reachable (· = s') Orchestrator.step (Holding (enqueued ++ skipped)) later →
        ∃ all, catchupMissing w' db today capDays later = (.ok ([], all), later) ∧
          Ascending all ∧ ∀ d, d ∈ all ↔ d ∈ enqueued ∨ d ∈ skipped) := by
  obtain ⟨candidates, hwindow⟩ := window_of_earliest hearliest
  have hasc := window_ascending hwindow
  have hmem (t : State) (d : Date) :=
    @mem_missing_iff db today earliest capDays t candidates hwindow d
  have hunion (d : Date) :
      d ∈ s.missing (ingestedDates db.runs "Bluewave" earliest) candidates ∨
        d ∈ s.skipped (ingestedDates db.runs "Bluewave" earliest) candidates ↔
      Missed db.runs today capDays d := by
    rw [(hmem s d).1, (hmem s d).2]
    cases s.known d <;> simp
  refine ⟨_, _, _, catchupMissing_answered hw hwindow, hasc.filter _, hasc.filter _, ?_, hunion,
    fun d => ?_, queue_enqueue s _, fun d hd => ((hmem s d).1.mp hd).1.2.1, ?_⟩
  · intro d hd hskip
    have hnew := ((hmem s d).1.mp hd).2
    rw [((hmem s d).2.mp hskip).2] at hnew
    cases hnew
  · rw [(hmem s d).2, State.known_iff]
  · intro hreached later hrun
    have hinv : Inv (s.enqueue _) := hreached.inv.enqueue
      (.catchup (ingestedDates db.runs "Bluewave" earliest) today capDays)
    simp only [appended, hwindow] at hinv
    have hknown := (known_run hinv (fun d hd => known_enqueue
      ((List.mem_append.mp hd).imp_right fun h => ((hmem s d).2.mp h).2)) hrun).2
    have hnone := @missing_eq_nil db today earliest capDays later candidates
      (fun d hd => hknown d (List.mem_append.mpr ((hunion d).mpr hd))) hwindow
    refine ⟨later.skipped (ingestedDates db.runs "Bluewave" earliest) candidates, ?_,
      hasc.filter _, fun d => ?_⟩
    · rw [catchupMissing_answered hw' hwindow, hnone]
      rfl
    · rw [hunion, (hmem later d).2]
      exact ⟨And.left, fun hd => ⟨hd, hknown d (List.mem_append.mpr ((hunion d).mpr hd))⟩⟩

def answering : Reads := ⟨.ok (some RunJob.someConfig), fun _ => .ok (), none⟩

theorem answered_answering : Answered answering := ⟨_, rfl, rfl, rfl⟩

/-- With the first of two days queued by hand, the call appends the second one and reports
the first. -/
theorem catchupMissing_window_queued : ∃ enqueued skipped s',
    catchupMissing answering RunJob.emptyDb (day 3) 2 (initial.tryEnqueue (day 1) true).2 =
      (.ok (enqueued, skipped), s') ∧ enqueued = [day 2] ∧ skipped = [day 1] ∧
    ∀ d, d ∈ enqueued ∨ d ∈ skipped ↔ Missed RunJob.emptyDb.runs (day 3) 2 d := by
  obtain ⟨enqueued, skipped, s', hcall, -, -, -, hunion, -⟩ := catchupMissing_window answering
    answering RunJob.emptyDb (day 3) (day 1) 2 (initial.tryEnqueue (day 1) true).2 answered_answering
    answered_answering rfl
  have hpair : (.ok (enqueued, skipped) : Except Exn _) = .ok ([day 2], [day 1]) :=
    (congrArg Prod.fst hcall).symm.trans (by decide)
  cases hpair
  exact ⟨_, _, s', hcall, rfl, rfl, hunion⟩

end Bluewave.CatchupWindow
