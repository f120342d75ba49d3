import Mathlib.Logic.Function.Basic
import Bluewave.Runs
import Bluewave.SingleFlight

/-! `catchup_missing` in its two phases, over the queue and the runs table at
once. The ingested dates are read before the lock is taken: a run that commits
its `ok` behind the read is covered by the in-flight check alone, and only until
the worker clears the slot. -/
namespace Bluewave.Catchup
open Lib Bluewave.Exceptions Bluewave.Tables Bluewave.Runs Bluewave.Orchestrator
open Bluewave.SingleFlight

/-- A `catchup_missing` between its read and its lock section. -/
structure Pending where
  today : Date
  capDays : Int
  ingested : List Date

def Pending.candidates (p : Pending) : List Date :=
  match window p.today p.capDays with
  | .ok (_, candidates) => candidates
  | .error _ => []

/-- How far the `run_job` of a thread is with its run row. -/
inductive Job where
  | unstarted
  | started (runId : Nat)
  | closed

structure System where
  orch : State
  runs : RunsTable
  pending : List Pending
  jobs : Nat → Job

/-- The steps: those of the queue (a catch-up has its own two), and the two
commits of the `run_job` that a thread is in. -/
inductive Event where
  | orch (a : Action)
  | read (today : Date) (capDays : Int)
  | append (k : Nat)
  | startRun (i : Nat) (now : Timestamp)
  | finalizeRun (i : Nat) (cols : Terminal)

def step (s : System) : Event → Option System
  | .orch (.catchup ..) => none
  | .orch (.callJob i) => (Orchestrator.step s.orch (.callJob i)).map fun orch =>
      { s with orch, jobs := Function.update s.jobs i .unstarted }
  | .orch a => (Orchestrator.step s.orch a).map fun orch => { s with orch }
  | .read today capDays =>
    match window today capDays with
    | .ok (earliest, _) => some { s with
        pending := s.pending ++ [⟨today, capDays, ingestedDates s.runs "Bluewave" earliest⟩] }
    | .error _ => none
  | .append k =>
    match s.pending[k]? with
    | some p => (Orchestrator.step s.orch (.catchup p.ingested p.today p.capDays)).map fun orch =>
        { s with orch, pending := s.pending.eraseIdx k }
    | none => none
  | .startRun i now =>
    match s.orch.threads[i]?, s.jobs i with
    | some (.working (some d) manual), .unstarted => some { s with
        runs := s.runs.insertRun "Bluewave" d now manual
        jobs := Function.update s.jobs i (.started s.runs.nextId) }
    | _, _ => none
  | .finalizeRun i cols =>
    match s.orch.threads[i]?, s.jobs i with
    | some (.working (some _) _), .started runId =>
      if cols.status ∈ terminal then
        (s.runs.finalize? runId cols).map fun runs =>
          { s with runs, jobs := Function.update s.jobs i .closed }
      else none
    | _, _ => none

/-- Any history in the table, nothing under way. -/
def Init (s : System) : Prop :=
  s.orch = initial ∧ s.pending = [] ∧ s.jobs = fun _ => .unstarted

/-- The date has a committed `ok` or `skipped` row. -/
def isIngested (t : RunsTable) (d : Date) : Bool :=
  t.rows.any fun r => ingested "Bluewave" r ∧ r.reportDate = d

/-- Whichever catch-up takes its lock section now appends no ingested date. -/
def Sound (s : System) : Prop :=
  ∀ p ∈ s.pending, ∀ d ∈ (s.orch.catchupSection p.ingested p.candidates).1.1,
    isIngested s.runs d = false

/-- The worker does not clear the slot of a date that is ingested by now while a
catch-up waits that has the date in its window and did not read it as ingested. -/
def Settled (s : System) : Event → Prop
  | .orch (.clear _) => ∀ p ∈ s.pending, ∀ d ∈ p.candidates,
    s.orch.inFlight = some d → isIngested s.runs d = true → d ∈ p.ingested
  | _ => True

theorem isIngested_iff {t : RunsTable} {d : Date} :
    isIngested t d = true ↔ ∃ r ∈ t.rows, ingested "Bluewave" r = true ∧ r.reportDate = d := by
  simp only [isIngested, List.any_eq_true, decide_eq_true_eq]

/-- Only `clear` empties the slot, and a full slot is not overwritten. -/
theorem inFlight_step {o o' : State} {a : Action} (h : Inv o)
    (hs : Orchestrator.step o a = some o') (ha : ∀ i, a ≠ .clear i) {d : Date}
    (hd : o.inFlight = some d) : o'.inFlight = some d := by
  cases Step.of_step hs with
  | tryEnqueue | catchup => rw [inFlight_enqueue, hd]
  | continues | stops | drained | calls | jobEnds | dies | shutdown => exact hd
  | pops hp hq =>
    obtain ⟨run, hrun, _, hagree⟩ := h.flight
    rw [(h.oneWorker.current hp (by decide)).2] at hagree
    rw [hagree.1, hd] at hrun
    cases hrun
  | clears => exact (ha _ rfl).elim

/-! ## What the commits of a run change -/

section
variable {t u : RunsTable} {d e : Date}

/-- A run that starts is not ingested yet. -/
theorem isIngested_insertRun (t : RunsTable) (source : String) (d : Date) (now : Timestamp)
    (manual : Bool) (e : Date) : isIngested (t.insertRun source d now manual) e = isIngested t e := by
  simp [isIngested, RunsTable.insertRun, RunsTable.runningRow, ingested]

/-- A terminal UPDATE leaves the other rows alone. -/
theorem mem_finalize {runId : Nat} {cols : Terminal} (h : t.finalize? runId cols = some u)
    {row : RunRow} (hne : row.id ≠ runId) : row ∈ u.rows ↔ row ∈ t.rows := by
  rw [(RunsTable.updateWhere?_some h).1, List.mem_map]
  constructor
  · rintro ⟨r, hr, hrow⟩
    split at hrow
    · rename_i hid
      exact (hne (hrow ▸ of_decide_eq_true hid)).elim
    · exact hrow ▸ hr
  · intro hr
    exact ⟨row, hr, by simp [hne]⟩

/-- A terminal UPDATE ingests the date of its run, and no other. -/
theorem isIngested_finalize {runId : Nat} {cols : Terminal} (h : t.finalize? runId cols = some u)
    {row : RunRow} (hrow : row ∈ t.rows) (hid : row.id = runId) (hdate : row.reportDate = d)
    (he : isIngested u e = true) : isIngested t e = true ∨ e = d := by
  obtain ⟨r, hr, hing, hre⟩ := isIngested_iff.mp he
  rw [(RunsTable.updateWhere?_some h).1] at hr
  obtain ⟨r', hr', rfl⟩ := List.mem_map.mp hr
  by_cases hrid : r'.id = runId
  · have hsame := RunsTable.eq_of_id hr' hrow (hrid.trans hid.symm)
    simp only [hrid, decide_true, if_true] at hre
    right
    rw [← hre, ← hdate, ← hsame]
    rfl
  · simp only [hrid, decide_false, Bool.false_eq_true, if_false] at hing hre
    exact Or.inl (isIngested_iff.mpr ⟨r', hr', hing, hre⟩)

end

/-! ## The invariant -/

/-- A thread is in a `run_job` of this date whose run row is started and not closed. -/
def Open (s : System) (i : Nat) (d : Date) (runId : Nat) : Prop :=
  (∃ manual, s.orch.threads[i]? = some (.working (some d) manual)) ∧ s.jobs i = .started runId

/-- The queue is single-flight, and an open run has a `running` row of the date its
job was called with. -/
structure Coherent (s : System) : Prop where
  orch : Inv s.orch
  row : ∀ i d runId, Open s i d runId → ∃ row ∈ s.runs.rows, row.id = runId ∧
    row.reportDate = d ∧ row.source = "Bluewave" ∧ row.status = .running

/-- An ingested date that a waiting catch-up did not read as ingested is in flight. -/
def Covered (s : System) : Prop :=
  ∀ p ∈ s.pending, ∀ d ∈ p.candidates, isIngested s.runs d = true →
    d ∈ p.ingested ∨ s.orch.inFlight = some d

section
variable {s s' : System}

theorem step_orch {a : Action} (hs : step s (.orch a) = some s') :
    Orchestrator.step s.orch a = some s'.orch ∧ s'.runs = s.runs ∧ s'.pending = s.pending ∧
      (∀ i, a = .callJob i → s'.jobs i = .unstarted) ∧
      ∀ i, a ≠ .callJob i → s'.jobs i = s.jobs i := by
  cases a with
  | catchup => cases hs
  | callJob j =>
    obtain ⟨o, ho, rfl⟩ := Option.map_eq_some_iff.mp hs
    refine ⟨ho, rfl, rfl, fun i hi => ?_, fun i hi => ?_⟩
    · cases hi
      exact Function.update_self ..
    · exact Function.update_of_ne (fun hij : i = j => hi (by rw [hij])) ..
  | tryEnqueue | checkShutdown | takeNext | jobEnds | clear | dies | shutdown =>
    simp only [step, Option.map_eq_some_iff] at hs
    obtain ⟨o, ho, rfl⟩ := hs
    exact ⟨ho, rfl, rfl, fun i hi => (by cases hi), fun _ _ => rfl⟩

theorem Coherent.init (h : Init s) : Coherent s := by
  obtain ⟨horch, _, hjobs⟩ := h
  refine ⟨horch ▸ inv_initial, fun i d runId hopen => ?_⟩
  have hstarted := hopen.2
  rw [hjobs] at hstarted
  cases hstarted

/-- Two open runs are one. -/
theorem Coherent.open_unique (h : Coherent s) {i j : Nat} {d e : Date} {runId runId' : Nat}
    (hi : Open s i d runId) (hj : Open s j e runId') : i = j := by
  obtain ⟨⟨_, hi⟩, _⟩ := hi
  obtain ⟨⟨_, hj⟩, _⟩ := hj
  have hwi := (h.orch.oneWorker.current hi (by simp)).1
  have hwj := (h.orch.oneWorker.current hj (by simp)).1
  exact Option.some.inj (hwi.symm.trans hwj)

/-- A step of the queue opens no run. -/
theorem open_of_orch {a : Action} (hs : step s (.orch a) = some s') {i : Nat} {d : Date}
    {runId : Nat} (h : Open s' i d runId) : Open s i d runId := by
  obtain ⟨ho, _, _, hcall, hjobs⟩ := step_orch hs
  obtain ⟨⟨manual, hw⟩, hstarted⟩ := h
  have hnot : a ≠ .callJob i := by
    intro ha
    rw [hcall i ha] at hstarted
    cases hstarted
  rcases (Step.of_step ho).working_iff.mp hw with ⟨hold, _⟩ | ⟨_, hnew, _⟩
  · exact ⟨⟨manual, hold⟩, hjobs i hnot ▸ hstarted⟩
  · exact (hnot hnew).elim

theorem step_read {today : Date} {capDays : Int} (hs : step s (.read today capDays) = some s') :
    ∃ earliest candidates, window today capDays = .ok (earliest, candidates) ∧
      s' = { s with
        pending := s.pending ++ [⟨today, capDays, ingestedDates s.runs "Bluewave" earliest⟩] } := by
  simp only [step] at hs
  split at hs
  · rename_i hwindow
    exact ⟨_, _, hwindow, (Option.some.inj hs).symm⟩
  · cases hs

theorem step_append {k : Nat} (hs : step s (.append k) = some s') :
    ∃ p ∈ s.pending,
      Orchestrator.step s.orch (.catchup p.ingested p.today p.capDays) = some s'.orch ∧
        s'.runs = s.runs ∧ s'.pending = s.pending.eraseIdx k ∧ s'.jobs = s.jobs := by
  simp only [step] at hs
  split at hs
  · rename_i p hp
    obtain ⟨o, ho, rfl⟩ := Option.map_eq_some_iff.mp hs
    exact ⟨p, List.mem_of_getElem? hp, ho, rfl, rfl, rfl⟩
  · cases hs

theorem open_of_append {k : Nat} (hs : step s (.append k) = some s') {i : Nat} {d : Date}
    {runId : Nat} (h : Open s' i d runId) : Open s i d runId := by
  obtain ⟨p, _, ho, _, _, hjobs⟩ := step_append hs
  obtain ⟨⟨manual, hw⟩, hstarted⟩ := h
  rcases (Step.of_step ho).working_iff.mp hw with ⟨hold, _⟩ | ⟨_, hnew, _⟩
  · exact ⟨⟨manual, hold⟩, hjobs ▸ hstarted⟩
  · cases hnew

/-- Setting the job of one thread can open a run there, and leaves the others. -/
theorem open_of_update {runs : RunsTable} {j : Nat} {job : Job} {i : Nat} {d : Date} {runId : Nat}
    (h : Open { s with runs, jobs := Function.update s.jobs j job } i d runId) :
    i = j ∧ job = .started runId ∨ i ≠ j ∧ Open s i d runId := by
  obtain ⟨hw, hstarted⟩ := h
  by_cases hij : i = j
  · subst hij
    exact .inl ⟨rfl, (Function.update_self ..).symm.trans hstarted⟩
  · exact .inr ⟨hij, hw, (Function.update_of_ne hij ..).symm.trans hstarted⟩

theorem step_startRun {i : Nat} {now : Timestamp} (hs : step s (.startRun i now) = some s') :
    ∃ d manual, s.orch.threads[i]? = some (.working (some d) manual) ∧ s.jobs i = .unstarted ∧
      s' = { s with
        runs := s.runs.insertRun "Bluewave" d now manual
        jobs := Function.update s.jobs i (.started s.runs.nextId) } := by
  simp only [step] at hs
  split at hs
  · rename_i d manual hi hjob
    exact ⟨d, manual, hi, hjob, (Option.some.inj hs).symm⟩
  · cases hs

theorem step_finalizeRun {i : Nat} {cols : Terminal}
    (hs : step s (.finalizeRun i cols) = some s') :
    ∃ d runId runs, Open s i d runId ∧ cols.status ∈ terminal ∧
      s.runs.finalize? runId cols = some runs ∧
      s' = { s with runs, jobs := Function.update s.jobs i .closed } := by
  simp only [step] at hs
  split at hs
  · rename_i d manual runId hi hjob
    split at hs
    · rename_i hterm
      obtain ⟨runs, hruns, rfl⟩ := Option.map_eq_some_iff.mp hs
      exact ⟨d, runId, runs, ⟨⟨manual, hi⟩, hjob⟩, hterm, hruns, rfl⟩
    · cases hs
  · cases hs

theorem Coherent.step (h : Coherent s) {ev : Event} (hs : Catchup.step s ev = some s') :
    Coherent s' := by
  cases ev with
  | orch a =>
    obtain ⟨ho, hruns, _⟩ := step_orch hs
    refine ⟨h.orch.step ho, fun i d runId hopen => ?_⟩
    rw [hruns]
    exact h.row i d runId (open_of_orch hs hopen)
  | read today capDays =>
    obtain ⟨_, _, _, rfl⟩ := step_read hs
    exact ⟨h.orch, h.row⟩
  | append k =>
    obtain ⟨p, _, ho, hruns, _⟩ := step_append hs
    refine ⟨h.orch.step ho, fun i d runId hopen => ?_⟩
    rw [hruns]
    exact h.row i d runId (open_of_append hs hopen)
  | startRun j now =>
    obtain ⟨d, manual, hj, _, rfl⟩ := step_startRun hs
    refine ⟨h.orch, fun i e runId hopen => ?_⟩
    rcases open_of_update hopen with ⟨rfl, hstarted⟩ | ⟨-, hold⟩
    · obtain ⟨⟨manual', hi⟩, -⟩ := hopen
      cases hj.symm.trans hi
      exact ⟨_, List.mem_append_right _ (List.mem_singleton_self _), Job.started.inj hstarted,
        rfl, rfl, rfl⟩
    · obtain ⟨row, hrow, hfields⟩ := h.row i e runId hold
      exact ⟨row, List.mem_append_left _ hrow, hfields⟩
  | finalizeRun j cols =>
    obtain ⟨d, runId, runs, hj, _, hruns, rfl⟩ := step_finalizeRun hs
    refine ⟨h.orch, fun i e runId' hopen => ?_⟩
    rcases open_of_update hopen with ⟨-, hclosed⟩ | ⟨hij, hold⟩
    · cases hclosed
    · exact (hij (h.open_unique hold hj)).elim

/-- The read takes in every date of its window that is ingested by then. -/
theorem mem_ingestedDates {today earliest : Date} {capDays : Int} {candidates : List Date}
    {t : RunsTable} (hwindow : window today capDays = .ok (earliest, candidates)) {d : Date}
    (hd : d ∈ candidates) (hing : isIngested t d = true) :
    d ∈ ingestedDates t "Bluewave" earliest := by
  obtain ⟨r, hr, hingested, rfl⟩ := isIngested_iff.mp hing
  refine List.mem_map_of_mem (List.mem_filter.mpr ⟨hr, ?_⟩)
  exact decide_eq_true ⟨hingested, window_earliest_le hwindow hd⟩

/-- A settled step keeps what is ingested covered. -/
theorem Covered.step (h : Covered s) (hcoh : Coherent s) {ev : Event} (hset : Settled s ev)
    (hs : Catchup.step s ev = some s') : Covered s' := by
  cases ev with
  | orch a =>
    obtain ⟨ho, hruns, hpending, _⟩ := step_orch hs
    intro p hp d hd hing
    rw [hpending] at hp
    rw [hruns] at hing
    rcases h p hp d hd hing with hread | hflight
    · exact Or.inl hread
    · by_cases hclear : ∃ i, a = .clear i
      · obtain ⟨i, rfl⟩ := hclear
        exact Or.inl (hset p hp d hd hflight hing)
      · exact Or.inr (inFlight_step hcoh.orch ho (fun i hi => hclear ⟨i, hi⟩) hflight)
  | read today capDays =>
    obtain ⟨_, _, hwindow, rfl⟩ := step_read hs
    intro p hp d hd hing
    rcases List.mem_append.mp hp with hp | hp
    · exact h p hp d hd hing
    · rw [List.mem_singleton.mp hp] at hd ⊢
      simp only [Pending.candidates, hwindow] at hd
      exact Or.inl (mem_ingestedDates hwindow hd hing)
  | append k =>
    obtain ⟨_, _, ho, hruns, hpending, _⟩ := step_append hs
    intro p hp d hd hing
    rw [hpending] at hp
    rw [hruns] at hing
    rcases h p (List.mem_of_mem_eraseIdx hp) d hd hing with hread | hflight
    · exact Or.inl hread
    · exact Or.inr (inFlight_step hcoh.orch ho (fun i hi => by cases hi) hflight)
  | startRun j now =>
    obtain ⟨_, _, _, _, rfl⟩ := step_startRun hs
    intro p hp d hd hing
    simp only [isIngested_insertRun] at hing
    exact h p hp d hd hing
  | finalizeRun j cols =>
    obtain ⟨day, runId, runs, hj, _, hruns, rfl⟩ := step_finalizeRun hs
    obtain ⟨row, hrow, hid, hdate, _⟩ := hcoh.row j day runId hj
    intro p hp d hd hing
    rcases isIngested_finalize hruns hrow hid hdate hing with hold | rfl
    · exact h p hp d hd hold
    · -- the date just ingested is the one the worker has in flight
      obtain ⟨run, hrun, _, hagree⟩ := hcoh.orch.flight
      obtain ⟨⟨_, hw⟩, _⟩ := hj
      rw [(hcoh.orch.oneWorker.current hw (by simp)).2] at hagree
      obtain ⟨⟨day, hday, rfl⟩, _⟩ := hagree
      cases hday
      exact Or.inr hrun.symm

/-- Covered dates are skipped, as ingested or as in flight. -/
theorem Covered.sound (h : Covered s) : Sound s := by
  intro p hp d hd
  rw [State.catchupSection_eq] at hd
  obtain ⟨hcand, hnew⟩ := List.mem_filter.mp hd
  obtain ⟨hnotread, hunknown⟩ := of_decide_eq_true hnew
  cases hing : isIngested s.runs d with
  | false => rfl
  | true =>
    rcases h p hp d hcand hing with hread | hflight
    · exact (hnotread hread).elim
    · exact ((State.known_eq_false.mp hunknown).1 hflight).elim

/-- Clearing the slot of an ingested date behind a waiting catch-up's back leaves
that catch-up about to append it. -/
theorem not_sound_of_unsettled (hcoh : Coherent s) {ev : Event} (hset : ¬ Settled s ev)
    (hs : Catchup.step s ev = some s') : ¬ Sound s' := by
  cases ev with
  | orch a =>
    cases a with
    | clear i =>
      simp only [Settled, not_forall] at hset
      obtain ⟨p, hp, d, hd, hflight, hing, hunread⟩ := hset
      obtain ⟨ho, hruns, hpending, _⟩ := step_orch hs
      have hcleared : s'.orch.inFlight = none ∧ s'.orch.queue = s.orch.queue := by
        generalize s'.orch = o at ho
        cases Step.of_step ho with
        | clears => exact ⟨rfl, rfl⟩
      have hnotqueued : d ∉ s.orch.queue.map Prod.fst := by
        have hnodup := hcoh.orch.nodup
        rw [hflight] at hnodup
        exact (List.nodup_cons.mp hnodup).1
      have hunknown : s'.orch.known d = false := by
        refine State.known_eq_false.mpr ⟨?_, ?_⟩
        · rw [hcleared.1]
          exact fun h => by cases h
        · rw [hcleared.2]
          exact hnotqueued
      intro h
      have hfalse := h p (hpending ▸ hp) d (by
        rw [State.catchupSection_eq]
        exact List.mem_filter.mpr ⟨hd, decide_eq_true ⟨hunread, hunknown⟩⟩)
      rw [hruns, hing] at hfalse
      cases hfalse
    | tryEnqueue | catchup | checkShutdown | takeNext | callJob | jobEnds | dies | shutdown =>
      exact (hset trivial).elim
  | read | append | startRun | finalizeRun => exact (hset trivial).elim

end

/-- Runs in which no slot is cleared behind a waiting catch-up's back are sound in
every state, and a step that does it ends in a state that is not. -/
theorem sound_settled (s : System) :
    (Reachable Init step Settled s → Sound s) ∧
      (Reachable Init step Free s → ∀ ev s', step s ev = some s' → ¬ Settled s ev →
        ¬ Sound s') := by
  have hcoherent : ∀ s, Reachable Init step Free s → Coherent s := fun s h =>
    h.invariant (fun _ hs => .init hs) fun _ _ _ _ hcoh _ hs => hcoh.step hs
  constructor
  · intro h
    refine Covered.sound (h.invariant (fun s hs => ?_) fun s ev s' hr hcov hset hs => ?_)
    · intro p hp
      rw [hs.2.1] at hp
      cases hp
    · exact hcov.step (hcoherent s hr.free) hset hs
  · intro hr ev s' hs hset
    exact not_sound_of_unsettled (hcoherent s hr) hset hs

def idle : System := ⟨initial, .empty, [], fun _ => .unstarted⟩

theorem idle_reachable {ok : System → Event → Prop} : Reachable Init step ok idle :=
  .start ⟨rfl, rfl, rfl⟩

/-- A catch-up reads while the run of the day is on, and the run ends in `ok`. -/
def readBehind : List Event :=
  [.orch (.tryEnqueue firstDay true), .orch (.checkShutdown 0), .orch (.takeNext 0),
    .orch (.callJob 0), .startRun 0 0, .read secondDay 1, .finalizeRun 0 (finalColumns 1 .ok {})]

/-- As long as the slot is not cleared the day is skipped. -/
theorem sound_readBehind :
    ∃ s, Reachable Init step Settled s ∧ isIngested s.runs (day 1) = true ∧
      s.pending.map Pending.ingested = [[]] ∧ Sound s := by
  have hrun : (runSchedule step idle readBehind).map (fun s =>
      (isIngested s.runs (day 1), s.pending.map Pending.ingested)) = some (true, [[]]) := by decide
  obtain ⟨s, hs, hseen⟩ := Option.map_eq_some_iff.mp hrun
  simp only [Prod.mk.injEq] at hseen
  have hreached : Reachable Init step Settled s :=
    idle_reachable.schedule_of (by simp [readBehind, Settled]) hs
  exact ⟨s, hreached, hseen.1, hseen.2, (sound_settled s).1 hreached⟩

/-- The job returns and its slot is cleared. -/
def staleRead : List Event := readBehind ++ [.orch (.jobEnds 0 (.ok "ok")), .orch (.clear 0)]

/-- Now the lock section appends the ingested day. -/
theorem not_sound_staleRead :
    ∃ s, Reachable Init step Free s ∧ isIngested s.runs (day 1) = true ∧
      (step s (.append 0)).map (fun s => s.orch.queue) = some [(day 1, false)] ∧ ¬ Sound s := by
  have hrun : (runSchedule step idle staleRead).map (fun s =>
      (isIngested s.runs (day 1), (step s (.append 0)).map (fun s => s.orch.queue),
        s.pending.map fun p => (s.orch.catchupSection p.ingested p.candidates).1.1)) =
      some (true, some [(day 1, false)], [[day 1]]) := by decide
  obtain ⟨s, hs, hseen⟩ := Option.map_eq_some_iff.mp hrun
  simp only [Prod.mk.injEq] at hseen
  obtain ⟨hing, happend, hmissing⟩ := hseen
  refine ⟨s, idle_reachable.schedule hs, hing, happend, fun hsound => ?_⟩
  have hmem : [day 1] ∈ s.pending.map fun p =>
      (s.orch.catchupSection p.ingested p.candidates).1.1 := by simp [hmissing]
  obtain ⟨p, hp, hday⟩ := List.mem_map.mp hmem
  have hfalse := hsound p hp (day 1) (hday ▸ List.mem_singleton_self _)
  rw [hing] at hfalse
  cases hfalse

end Bluewave.Catchup
