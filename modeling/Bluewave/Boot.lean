import Bluewave.Catchup

/-! Processes that boot, run jobs and crash over one runs table. What a crash
leaves `running` only the reaper could close, and `Scheduler.start` does not call
it: it creates missing tables, registers the daily job and runs a catch-up. -/
namespace Bluewave.Boot
open Lib Bluewave.Exceptions Bluewave.Tables Bluewave.Runs Bluewave.Orchestrator
open Bluewave.SingleFlight Bluewave.Catchup

/-- A container: the process in it, when one is up, over the runs table. A crash
loses the queue, the threads and every `run_job` under way. -/
structure Machine where
  system : System
  up : Bool

/-- A new process over the table as it stands. -/
def fresh (runs : RunsTable) : System := ⟨initial, runs, [], fun _ => .unstarted⟩

/-- `_boot_catchup`: both phases of `catchup_missing`. A window out of range is an
exception and only logged. -/
def bootCatchup (s : System) (today : Date) (capDays : Int) : System :=
  match Catchup.step s (.read today capDays) with
  | none => s
  | some s' =>
    match Catchup.step s' (.append s.pending.length) with
    | none => s'
    | some s'' => s''

/-- `Scheduler.start`, with the saved configuration's catch-up settings or without
a configuration. `CREATE TABLE IF NOT EXISTS` leaves the existing tables alone,
the daily job is outside of them. -/
def start (runs : RunsTable) : Option (Date × Int) → System
  | none => fresh runs
  | some (today, capDays) => bootCatchup (fresh runs) today capDays

inductive Event where
  | inner (ev : Catchup.Event)
  | crash
  | boot (settings : Option (Date × Int))

def step (m : Machine) : Event → Option Machine
  | .inner ev =>
    if m.up then (Catchup.step m.system ev).map fun system => { m with system } else none
  | .crash => if m.up then some ⟨fresh m.system.runs, false⟩ else none
  | .boot settings => if m.up then none else some ⟨start m.system.runs settings, true⟩

/-- No run of the worker is `running`. -/
def NoneRunning (t : RunsTable) : Prop :=
  ∀ r ∈ t.rows, r.source = "Bluewave" → r.status ≠ .running

/-- A machine that has not been up yet, over a table without running rows. -/
def Init (m : Machine) : Prop := ∃ runs, m = ⟨fresh runs, false⟩ ∧ NoneRunning runs

/-- No process dies with a run open, and no job ends without closing its run. -/
def Closes (m : Machine) : Event → Prop
  | .crash => ∀ i d runId, ¬ Open m.system i d runId
  | .inner (.orch (.jobEnds i _)) => ∀ d runId, ¬ Open m.system i d runId
  | _ => True

section
variable {s s' : System} {m m' : Machine}

/-! ## Steps of a process -/

/-- A job stays where it is until it ends. -/
theorem open_kept {a : Action} (ho : Orchestrator.step s.orch a = some s'.orch)
    (hjobs : ∀ i, a ≠ .callJob i → s'.jobs i = s.jobs i) {i : Nat} {d : Date} {runId : Nat}
    (h : Open s i d runId) (hends : ∀ outcome, a ≠ .jobEnds i outcome) : Open s' i d runId := by
  obtain ⟨⟨manual, hw⟩, hstarted⟩ := h
  have hcall : a ≠ .callJob i := by
    rintro rfl
    simp only [Orchestrator.step, hw] at ho
    cases ho
  exact ⟨⟨manual, (Step.of_step ho).working_iff.mpr (.inl ⟨hw, hends⟩)⟩,
    (hjobs i hcall).trans hstarted⟩

/-- A running row of the worker belongs to an open run. -/
def Owned (s : System) : Prop :=
  ∀ row ∈ s.runs.rows, row.source = "Bluewave" → row.status = .running →
    ∃ i d, Open s i d row.id

/-- A running row that belongs to no open run. -/
def Stuck (s : System) (runId : Nat) : Prop :=
  (∃ row ∈ s.runs.rows, row.id = runId ∧ row.source = "Bluewave" ∧ row.status = .running) ∧
    ∀ i d, ¬ Open s i d runId

theorem running_not_terminal : Status.running ∉ terminal := by decide

/-- Every step of a process but the end of a job with an open run keeps running rows
owned. -/
theorem Owned.step (h : Owned s) {ev : Catchup.Event}
    (hends : ∀ i outcome, ev = .orch (.jobEnds i outcome) → ∀ d runId, ¬ Open s i d runId)
    (hs : Catchup.step s ev = some s') : Owned s' := by
  cases ev with
  | orch a =>
    obtain ⟨ho, hruns, _, _, hjobs⟩ := step_orch hs
    intro row hrow hsrc hrun
    obtain ⟨i, d, hopen⟩ := h row (hruns ▸ hrow) hsrc hrun
    refine ⟨i, d, open_kept ho hjobs hopen fun outcome ha => ?_⟩
    exact hends i outcome (ha ▸ rfl) d row.id hopen
  | read today capDays =>
    obtain ⟨_, _, _, rfl⟩ := step_read hs
    exact h
  | append k =>
    obtain ⟨p, _, ho, hruns, _, hjobs⟩ := step_append hs
    intro row hrow hsrc hrun
    obtain ⟨i, d, hopen⟩ := h row (hruns ▸ hrow) hsrc hrun
    exact ⟨i, d, open_kept ho (fun i _ => congrFun hjobs i) hopen fun _ ha => by cases ha⟩
  | startRun j now =>
    obtain ⟨d, manual, hj, hjob, rfl⟩ := step_startRun hs
    intro row hrow hsrc hrun
    rcases List.mem_append.mp hrow with hold | hnew
    · obtain ⟨i, e, hw, hstarted⟩ := h row hold hsrc hrun
      have hij : i ≠ j := by
        rintro rfl
        rw [hjob] at hstarted
        cases hstarted
      exact ⟨i, e, hw, (Function.update_of_ne hij ..).trans hstarted⟩
    · rw [List.mem_singleton.mp hnew]
      exact ⟨j, d, ⟨manual, hj⟩, Function.update_self ..⟩
  | finalizeRun j cols =>
    obtain ⟨d, runId, runs, hj, hterm, hruns, rfl⟩ := step_finalizeRun hs
    intro row hrow hsrc hrun
    have hne : row.id ≠ runId := by
      intro hid
      rw [(RunsTable.updateWhere?_some hruns).1] at hrow
      obtain ⟨r, _, rfl⟩ := List.mem_map.mp hrow
      split at hrun
      · exact running_not_terminal (hrun ▸ hterm)
      · rename_i hnot
        rw [if_neg hnot] at hid
        exact hnot (decide_eq_true hid)
    obtain ⟨i, e, hw, hstarted⟩ := h row ((mem_finalize hruns hne).mp hrow) hsrc hrun
    have hij : i ≠ j := by
      rintro rfl
      exact hne (Job.started.inj (hstarted.symm.trans hj.2))
    exact ⟨i, e, hw, (Function.update_of_ne hij ..).trans hstarted⟩

/-- No step of a process closes a row that belongs to no open run. -/
theorem Stuck.step {runId : Nat} (h : Stuck s runId) {ev : Catchup.Event}
    (hs : Catchup.step s ev = some s') : Stuck s' runId := by
  obtain ⟨⟨row, hrow, hid, hfields⟩, hnone⟩ := h
  cases ev with
  | orch a =>
    obtain ⟨_, hruns, _⟩ := step_orch hs
    exact ⟨⟨row, hruns ▸ hrow, hid, hfields⟩, fun i d ho => hnone i d (open_of_orch hs ho)⟩
  | read today capDays =>
    obtain ⟨_, _, _, rfl⟩ := step_read hs
    exact ⟨⟨row, hrow, hid, hfields⟩, hnone⟩
  | append k =>
    obtain ⟨_, _, _, hruns, _⟩ := step_append hs
    exact ⟨⟨row, hruns ▸ hrow, hid, hfields⟩, fun i d ho => hnone i d (open_of_append hs ho)⟩
  | startRun j now =>
    obtain ⟨_, _, _, _, rfl⟩ := step_startRun hs
    refine ⟨⟨row, List.mem_append_left _ hrow, hid, hfields⟩, fun i d ho => ?_⟩
    rcases open_of_update ho with ⟨-, hstarted⟩ | ⟨-, hold⟩
    · have hnext : s.runs.nextId = runId := Job.started.inj hstarted
      have hlt := s.runs.ids_lt row hrow
      omega
    · exact hnone i d hold
  | finalizeRun j cols =>
    obtain ⟨d, runId', runs, hj, _, hruns, rfl⟩ := step_finalizeRun hs
    have hne : row.id ≠ runId' := by
      intro he
      exact hnone j d (hid ▸ he ▸ hj)
    refine ⟨⟨row, (mem_finalize hruns hne).mpr hrow, hid, hfields⟩, fun i e ho => ?_⟩
    rcases open_of_update ho with ⟨-, hclosed⟩ | ⟨-, hold⟩
    · cases hclosed
    · exact hnone i e hold

/-! ## Boots and crashes -/

theorem not_open_fresh (runs : RunsTable) (i : Nat) (d : Date) (runId : Nat) :
    ¬ Open (fresh runs) i d runId := by
  rintro ⟨_, hstarted⟩
  cases hstarted

theorem coherent_fresh (runs : RunsTable) : Coherent (fresh runs) := .init ⟨rfl, rfl, rfl⟩

/-- Boot is a fresh process and, at most, the two phases of a catch-up. -/
theorem start_cases (runs : RunsTable) (settings : Option (Date × Int)) {P : System → Prop}
    (hfresh : P (fresh runs))
    (hread : ∀ s s' today capDays, P s → Catchup.step s (.read today capDays) = some s' → P s')
    (happend : ∀ s s' k, P s → Catchup.step s (.append k) = some s' → P s') :
    P (start runs settings) := by
  cases settings with
  | none => exact hfresh
  | some settings =>
    obtain ⟨today, capDays⟩ := settings
    simp only [start, bootCatchup]
    split
    · exact hfresh
    · rename_i s' hs'
      have hP := hread _ _ _ _ hfresh hs'
      split
      · exact hP
      · rename_i s'' hs''
        exact happend _ _ _ hP hs''

/-- `Scheduler.start` leaves the runs table as it finds it. -/
theorem start_runs (runs : RunsTable) (settings : Option (Date × Int)) :
    (start runs settings).runs = runs := by
  refine start_cases runs settings (P := fun s => s.runs = runs) rfl ?_ ?_
  · intro s s' today capDays h hs
    obtain ⟨_, _, _, rfl⟩ := step_read hs
    exact h
  · intro s s' k h hs
    obtain ⟨_, _, _, hruns, _⟩ := step_append hs
    exact hruns.trans h

/-- Everything that can happen to a machine. -/
theorem step_cases {ev : Event} (hs : step m ev = some m') :
    (∃ inner s, ev = .inner inner ∧ m.up = true ∧ Catchup.step m.system inner = some s ∧
      m' = ⟨s, true⟩) ∨
    (ev = .crash ∧ m.up = true ∧ m' = ⟨fresh m.system.runs, false⟩) ∨
    ∃ settings, ev = .boot settings ∧ m.up = false ∧
      m' = ⟨start m.system.runs settings, true⟩ := by
  obtain ⟨system, up⟩ := m
  cases ev with
  | inner inner =>
    cases up with
    | false => cases hs
    | true =>
      obtain ⟨s, hsys, rfl⟩ := Option.map_eq_some_iff.mp hs
      exact .inl ⟨inner, s, rfl, rfl, hsys, rfl⟩
  | crash =>
    cases up with
    | false => cases hs
    | true => exact .inr (.inl ⟨rfl, rfl, (Option.some.inj hs).symm⟩)
  | boot settings =>
    cases up with
    | false => exact .inr (.inr ⟨settings, rfl, rfl, (Option.some.inj hs).symm⟩)
    | true => cases hs

theorem coherent_step (h : Coherent m.system) {ev : Event} (hs : step m ev = some m') :
    Coherent m'.system := by
  rcases step_cases hs with ⟨inner, s, _, _, hsys, rfl⟩ | ⟨_, _, rfl⟩ | ⟨settings, _, _, rfl⟩
  · exact h.step hsys
  · exact coherent_fresh _
  · exact start_cases _ _ (coherent_fresh _) (fun _ _ _ _ h hs => h.step hs)
      fun _ _ _ h hs => h.step hs

/-- Between two processes no row is running, within one all running rows are owned. -/
structure Tidy (m : Machine) : Prop where
  owned : Owned m.system
  down : m.up = false → NoneRunning m.system.runs

theorem Tidy.step (h : Tidy m) {ev : Event} (hcloses : Closes m ev) (hs : step m ev = some m') :
    Tidy m' := by
  rcases step_cases hs with ⟨inner, s, rfl, _, hsys, rfl⟩ | ⟨rfl, _, rfl⟩ | ⟨settings, _, hup, rfl⟩
  · refine ⟨h.owned.step ?_ hsys, fun hdown => by cases hdown⟩
    rintro i outcome rfl
    exact hcloses
  · have hnone : NoneRunning m.system.runs := by
      intro r hr hsrc hrun
      obtain ⟨i, d, hopen⟩ := h.owned r hr hsrc hrun
      exact hcloses i d r.id hopen
    exact ⟨fun r hr hsrc hrun => (hnone r hr hsrc hrun).elim, fun _ => hnone⟩
  · have hnone := h.down hup
    refine ⟨fun r hr hsrc hrun => ?_, fun hdown => by cases hdown⟩
    rw [start_runs] at hr
    exact (hnone r hr hsrc hrun).elim

/-- A stuck row is stuck for good, boots included. -/
theorem stuck_step {runId : Nat} (h : Stuck m.system runId) {ev : Event}
    (hs : step m ev = some m') : Stuck m'.system runId := by
  have hfresh : Stuck (fresh m.system.runs) runId := ⟨h.1, fun i d => not_open_fresh _ i d runId⟩
  rcases step_cases hs with ⟨inner, s, _, _, hsys, rfl⟩ | ⟨_, _, rfl⟩ | ⟨settings, _, _, rfl⟩
  · exact h.step hsys
  · exact hfresh
  · exact start_cases (P := fun s => Stuck s runId) _ _ hfresh (fun _ _ _ _ h hs => h.step hs)
      fun _ _ _ h hs => h.step hs

theorem stuck_schedule {runId : Nat} {evs : List Event} (h : Stuck m.system runId)
    (hs : runSchedule step m evs = some m') : Stuck m'.system runId := by
  induction evs generalizing m with
  | nil =>
    cases hs
    exact h
  | cons ev evs ih =>
    obtain ⟨m₁, hs₁, hrest⟩ := Option.bind_eq_some_iff.mp hs
    exact ih (stuck_step h hs₁) hrest

theorem Stuck.not_noneRunning {runId : Nat} (h : Stuck s runId) : ¬ NoneRunning s.runs := by
  obtain ⟨⟨row, hrow, _, hsrc, hrun⟩, _⟩ := h
  exact fun hnone => hnone row hrow hsrc hrun

/-- A crash or a job's end with a run open leaves its row stuck. -/
theorem stuck_of_not_closes (h : Coherent m.system) {ev : Event} (hcloses : ¬ Closes m ev)
    (hs : step m ev = some m') : ∃ runId, Stuck m'.system runId := by
  rcases step_cases hs with ⟨inner, s, rfl, _, hsys, rfl⟩ | ⟨rfl, _, rfl⟩ | ⟨settings, rfl, _, _⟩
  · cases inner with
    | read | append | startRun | finalizeRun => exact (hcloses trivial).elim
    | orch a =>
      cases a with
      | tryEnqueue | catchup | checkShutdown | takeNext | callJob | clear | dies | shutdown =>
        exact (hcloses trivial).elim
      | jobEnds i outcome =>
        simp only [Closes, not_forall, not_not] at hcloses
        obtain ⟨d, runId, hopen⟩ := hcloses
        obtain ⟨row, hrow, hid, _, hfields⟩ := h.row i d runId hopen
        obtain ⟨ho, hruns, _⟩ := step_orch hsys
        refine ⟨runId, ⟨row, hruns ▸ hrow, hid, hfields⟩, fun j e hj => ?_⟩
        -- the one open run was that of thread `i`, which has left its job
        have hij := h.open_unique hopen (open_of_orch hsys hj)
        subst hij
        obtain ⟨⟨manual, hw⟩, _⟩ := hj
        rcases (Step.of_step ho).working_iff.mp hw with ⟨_, hends⟩ | ⟨_, hcall, _⟩
        · exact hends outcome rfl
        · cases hcall
  · simp only [Closes, not_forall, not_not] at hcloses
    obtain ⟨i, d, runId, hopen⟩ := hcloses
    obtain ⟨row, hrow, hid, _, hfields⟩ := h.row i d runId hopen
    exact ⟨runId, ⟨row, hrow, hid, hfields⟩, fun i d => not_open_fresh _ i d runId⟩
  · exact (hcloses trivial).elim

end

/-- In histories in which no process dies with a run open and no job ends without
closing its run, no row is running behind a boot. A step that breaks this leaves a
row running behind every later boot. -/
theorem boot_noneRunning (m : Machine) :
    (Reachable Init step Closes m → ∀ settings m',
      step m (.boot (some settings)) = some m' → NoneRunning m'.system.runs) ∧
      (Reachable Init step Free m → ∀ ev m', step m ev = some m' → ¬ Closes m ev →
        ∀ evs m'', runSchedule step m' evs = some m'' → ¬ NoneRunning m''.system.runs) := by
  constructor
  · intro h settings m' hs
    have htidy : Tidy m := h.invariant
      (by
        rintro _ ⟨runs, rfl, hnone⟩
        exact ⟨fun r hr hsrc hrun => (hnone r hr hsrc hrun).elim, fun _ => hnone⟩)
      fun _ _ _ _ ht hc hs => ht.step hc hs
    rcases step_cases hs with ⟨_, _, hev, _⟩ | ⟨hev, _⟩ | ⟨_, hev, hup, rfl⟩
    · cases hev
    · cases hev
    · rw [start_runs]
      exact htidy.down hup
  · intro h ev m' hs hcloses evs m'' hrun
    have hcoh : Coherent m.system := h.invariant
      (by
        rintro _ ⟨runs, rfl, _⟩
        exact coherent_fresh runs)
      fun _ _ _ _ hc _ hs => coherent_step hc hs
    obtain ⟨runId, hstuck⟩ := stuck_of_not_closes hcoh hcloses hs
    exact (stuck_schedule hstuck hrun).not_noneRunning

def firstMachine : Machine := ⟨fresh .empty, false⟩

theorem firstMachine_init : Init firstMachine := ⟨.empty, rfl, fun r hr => by cases hr⟩

/-- A run from its enqueueing to its `ok`. -/
def completeRun : List Event :=
  [.boot none, .inner (.orch (.tryEnqueue firstDay true)), .inner (.orch (.checkShutdown 0)),
    .inner (.orch (.takeNext 0)), .inner (.orch (.callJob 0)), .inner (.startRun 0 0),
    .inner (.finalizeRun 0 (finalColumns 1 .ok {}))]

/-- A crash right behind it and the next boot. -/
theorem noneRunning_completeRun :
    ∃ m m', Reachable Init step Closes m ∧ m.system.runs.rows.length = 1 ∧
      step m (.boot (some (day 2, 1))) = some m' ∧ NoneRunning m'.system.runs := by
  have hrun : (runSchedule step firstMachine completeRun).map (fun m =>
      (m.up, m.system.runs.rows.length, m.system.orch.threads.length,
        match m.system.jobs 0 with | .closed => true | _ => false)) =
      some (true, 1, 1, true) := by decide
  obtain ⟨m, hm, hseen⟩ := Option.map_eq_some_iff.mp hrun
  simp only [Prod.mk.injEq] at hseen
  obtain ⟨hup, hrows, hthreads, hclosed⟩ := hseen
  have hreached : Reachable Init step Closes m :=
    Reachable.schedule_of (.start firstMachine_init) (by simp [completeRun, Closes]) hm
  have hnone : Closes m .crash := by
    rintro i d runId ⟨⟨_, hw⟩, hstarted⟩
    obtain ⟨hlt, _⟩ := List.getElem?_eq_some_iff.mp hw
    have hi : i = 0 := by omega
    rw [hi] at hstarted
    rw [hstarted] at hclosed
    cases hclosed
  have hcrash : step m .crash = some ⟨fresh m.system.runs, false⟩ := if_pos hup
  have hdown := hreached.next hnone hcrash
  exact ⟨_, _, hdown, hrows, rfl, (boot_noneRunning _).1 hdown (day 2, 1) _ rfl⟩

/-- A run started from the web interface and a crash. -/
def diesMidRun : List Event :=
  [.boot none, .inner (.orch (.tryEnqueue firstDay true)),
    .inner (.orch (.checkShutdown 0)), .inner (.orch (.takeNext 0)), .inner (.orch (.callJob 0)),
    .inner (.startRun 0 0), .crash]

/-- The next boot leaves the row `running`. -/
theorem not_noneRunning_diesMidRun :
    ∃ m m', Reachable Init step Free m ∧ step m (.boot (some (day 2, 1))) = some m' ∧
      ¬ NoneRunning m'.system.runs := by
  have hrun : (runSchedule step firstMachine diesMidRun).bind (fun m =>
      (step m (.boot (some (day 2, 1)))).map fun m' =>
        m'.system.runs.rows.any fun r => r.source = "Bluewave" ∧ r.status = .running) =
      some true := by decide
  obtain ⟨m, hm, hboot⟩ := Option.bind_eq_some_iff.mp hrun
  obtain ⟨m', hm', hany⟩ := Option.map_eq_some_iff.mp hboot
  refine ⟨m, m', Reachable.schedule (.start firstMachine_init) hm, hm', fun hnone => ?_⟩
  obtain ⟨r, hr, hrow⟩ := List.any_eq_true.mp hany
  obtain ⟨hsrc, hstatus⟩ := of_decide_eq_true hrow
  exact hnone r hr hsrc hstatus

theorem noneRunning_reap {t u : RunsTable} {now : Timestamp} {error : String}
    (h : t.reap? "Bluewave" now error = some u) : NoneRunning u := by
  intro r hr hsrc hrun
  rw [(RunsTable.updateWhere?_some h).1] at hr
  obtain ⟨row, _, rfl⟩ := List.mem_map.mp hr
  split at hrun
  · cases hrun
  · rename_i hnot
    rw [if_neg hnot] at hsrc
    exact hnot (decide_eq_true ⟨hsrc, hrun⟩)

/-- The reaper would close them all. -/
theorem noneRunning_reapStuckRuns {f : TxnFaults} (hs : f.statement = none)
    (hc : f.commit = none) (now : Timestamp) (c : Conn Db Stmt) :
    NoneRunning ((reapStuckRuns f now "Bluewave").run c).2.durable.runs := by
  obtain ⟨u, hu⟩ := reap?_accepted c.working.runs "Bluewave" now reapError
  obtain ⟨r, hr⟩ := apply_reapRuns hu
  obtain ⟨n, hn⟩ := reapStuckRuns_ok hs hc now "Bluewave" c
  rw [hn, Conn.durable_commit, Conn.working_push, replay_cons, replay_nil, effect_of_apply hr]
  exact noneRunning_reap hu

end Bluewave.Boot
