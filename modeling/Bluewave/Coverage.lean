import Bluewave.Boot
import Bluewave.CatchupWindow
import Bluewave.DailyFire

/-! No day is missed. A process takes up days in two ways: the catch-up of its boot
looks back over a window, and the daily job takes the day before its own. Crashes
empty the queue, so what a process has accepted is worth only as much as the next
boot's window. As long as no outage outlasts the window and a process that stays up
fires every day, the days behind the last boot or fire are all taken up, by the
process that is up as far as its window reaches. -/
namespace Bluewave.Coverage
open Lib Bluewave.Exceptions Bluewave.Tables Bluewave.Runs Bluewave.Orchestrator
open Bluewave.SingleFlight Bluewave.Catchup Bluewave.Boot Bluewave.DailyFire
open Bluewave.CatchupWindow (window_of_earliest mem_window mem_ingestedDates_iff)
open Bluewave.Transform (newYork)

/-- The machine and, for the statements only, the dates that processes accepted which
are gone, where the window of the last boot starts, and the local day of the last boot
or fire. -/
structure World where
  machine : Machine
  lost : List Date
  since : Int
  seen : Int

/-- The dates a process has accepted, from whatever side. -/
def accepted (s : System) : List Date := s.orch.accepted.map Prod.fst

inductive Event where
  /-- requests, thread steps and the commits of a job -/
  | inner (ev : Catchup.Event)
  | crash
  /-- `Scheduler.start` without a configuration, or with a catch-up that raises -/
  | bootBlind
  | boot (tz : Zone) (now capDays : Int)
  /-- `_fire` -/
  | fire (tz : Zone) (now : Int)

def step (s : World) : Event → Option World
  | .inner ev => (Boot.step s.machine (.inner ev)).map fun machine => { s with machine }
  | .crash => (Boot.step s.machine .crash).map fun machine =>
      { s with machine, lost := s.lost ++ accepted s.machine.system }
  | .bootBlind => (Boot.step s.machine (.boot none)).map fun machine =>
      { s with machine, since := s.seen }
  | .boot tz now capDays =>
    match todayLocal tz now with
    | .error _ => none
    | .ok today => (Boot.step s.machine (.boot (some (today, capDays)))).map fun machine =>
        { s with machine, since := today.ordinal - capDays, seen := today.ordinal }
  | .fire tz now =>
    match todayLocal tz now, DailyFire.fire tz now s.machine.system.orch with
    | .ok today, .ok (_, orch) =>
      if s.machine.up then some { s with
        machine := { s.machine with system := { s.machine.system with orch } }
        seen := max s.seen today.ordinal }
      else none
    | _, _ => none

/-- A boot finds the last boot or fire within its window and not in its future, and a
fire finds it on its own day or the day before. -/
def Prompt (s : World) : Event → Prop
  | .boot tz now capDays => ∀ today, todayLocal tz now = .ok today → s.seen ≤ today.ordinal ∧
      ∃ earliest, today.minusDays capDays = .ok earliest ∧ earliest.ordinal ≤ s.seen
  | .fire tz now => ∀ today, todayLocal tz now = .ok today → today.ordinal ≤ s.seen + 1
  | _ => True

/-- A machine that has not been up yet; the days count from `first` on. -/
def Init (first : Int) (s : World) : Prop :=
  (∃ runs, s.machine = ⟨fresh runs, false⟩) ∧ s.lost = [] ∧ s.seen = first

/-- Ingested, or accepted by the process. -/
def TakenUp (s : System) (d : Date) : Prop := isIngested s.runs d = true ∨ d ∈ accepted s

/-! ## What stays taken up -/

section
variable {s s' : System} {d : Date}

/-- A run that is closed was not the one that ingested a date. -/
theorem isIngested_kept (h : Coherent s) {ev : Catchup.Event} (hs : Catchup.step s ev = some s')
    (hd : isIngested s.runs d = true) : isIngested s'.runs d = true := by
  cases ev with
  | orch a =>
    obtain ⟨_, hruns, _⟩ := step_orch hs
    exact hruns ▸ hd
  | read today capDays =>
    obtain ⟨_, _, _, rfl⟩ := step_read hs
    exact hd
  | append k =>
    obtain ⟨_, _, _, hruns, _⟩ := step_append hs
    exact hruns ▸ hd
  | startRun i now =>
    obtain ⟨_, _, _, _, rfl⟩ := step_startRun hs
    exact (isIngested_insertRun ..).trans hd
  | finalizeRun i cols =>
    obtain ⟨e, runId, runs, hopen, _, hruns, rfl⟩ := step_finalizeRun hs
    obtain ⟨row, hrow, hid, _, _, hrunning⟩ := h.row i e runId hopen
    obtain ⟨r, hr, hing, hdate⟩ := isIngested_iff.mp hd
    have hne : r.id ≠ runId := by
      intro hrid
      rw [RunsTable.eq_of_id hr hrow (hrid.trans hid.symm)] at hing
      simp [ingested, hrunning] at hing
    exact isIngested_iff.mpr ⟨r, (mem_finalize hruns hne).mpr hr, hing, hdate⟩

theorem accepted_orch {o : State} {a : Action} (hs : Orchestrator.step s.orch a = some o)
    (hd : d ∈ accepted s) : d ∈ o.accepted.map Prod.fst := by
  rw [(Step.of_step hs).accepted, List.map_append]
  exact List.mem_append_left _ hd

theorem accepted_kept {ev : Catchup.Event} (hs : Catchup.step s ev = some s')
    (hd : d ∈ accepted s) : d ∈ accepted s' := by
  cases ev with
  | orch a => exact accepted_orch (step_orch hs).1 hd
  | read today capDays =>
    obtain ⟨_, _, _, rfl⟩ := step_read hs
    exact hd
  | append k =>
    obtain ⟨_, _, ho, _⟩ := step_append hs
    exact accepted_orch ho hd
  | startRun i now =>
    obtain ⟨_, _, _, _, rfl⟩ := step_startRun hs
    exact hd
  | finalizeRun i cols =>
    obtain ⟨_, _, _, _, _, _, rfl⟩ := step_finalizeRun hs
    exact hd

theorem TakenUp.step (h : TakenUp s d) (hcoh : Coherent s) {ev : Catchup.Event}
    (hs : Catchup.step s ev = some s') : TakenUp s' d :=
  h.imp (isIngested_kept hcoh hs) (accepted_kept hs)

/-- What the duplicate check knows was accepted by this process. -/
theorem accepted_of_known (h : Inv s.orch) (hd : s.orch.known d = true) : d ∈ accepted s := by
  obtain ⟨run, hrun, hacc, _⟩ := h.flight
  rw [accepted, hacc, List.map_append, List.map_append]
  rcases State.known_iff.mp hd with hflight | hqueued
  · rw [← hrun, Option.map_eq_some_iff] at hflight
    obtain ⟨r, rfl, rfl⟩ := hflight
    exact List.mem_append_left _ (List.mem_append_right _ (List.mem_singleton_self _))
  · exact List.mem_append_right _ hqueued

/-- `try_enqueue` leaves its date accepted, now or before. -/
theorem accepted_tryEnqueue (h : Inv s.orch) {manual : Bool}
    (hs : Catchup.step s (.orch (.tryEnqueue d manual)) = some s') : d ∈ accepted s' := by
  obtain ⟨ho, _⟩ := step_orch hs
  cases hk : s.orch.known d with
  | true => exact accepted_orch ho (accepted_of_known h hk)
  | false =>
    rw [accepted, (Step.of_step ho).accepted, List.map_append]
    refine List.mem_append_right _ ?_
    simp [appended, hk]

end

/-! ## Boot and fire -/

section
variable {runs : RunsTable} {today earliest : Date} {capDays : Int}

/-- A boot takes up every day of its window. -/
theorem takenUp_start (h : today.minusDays capDays = .ok earliest) {d : Date}
    (hfrom : earliest.ordinal ≤ d.ordinal) (hto : d.ordinal < today.ordinal) :
    TakenUp (start runs (some (today, capDays))) d := by
  obtain ⟨candidates, hwindow⟩ := window_of_earliest h
  have hcand : d ∈ candidates := by
    have := minusDays_ok h
    exact (mem_window hwindow).mpr ⟨by omega, by omega⟩
  -- both phases go through: the read on the table, the lock section on an empty queue
  have hstart : start runs (some (today, capDays)) =
      { fresh runs with orch := (initial.catchupSection (ingestedDates runs "Bluewave" earliest)
          candidates).2 } := by
    simp [start, bootCatchup, Catchup.step, fresh, hwindow, Orchestrator.step]
  rw [hstart, TakenUp, accepted]
  by_cases hread : d ∈ ingestedDates runs "Bluewave" earliest
  · have hiff := @mem_ingestedDates_iff { audit := .empty foldCase, runs } today earliest capDays
      candidates hwindow d hcand
    exact Or.inl (hiff.mp hread)
  · right
    simp only [State.catchupSection_eq, accepted_enqueue, List.map_append]
    refine List.mem_append_right _ (List.mem_map.mpr ⟨(d, false), List.mem_map_of_mem ?_, rfl⟩)
    exact List.mem_filter.mpr ⟨hcand, decide_eq_true ⟨hread, rfl⟩⟩

/-- A fire is the `try_enqueue` of the day before its own. -/
theorem fire_ok {tz : Zone} {now : Int} {s : State} {result : EnqueueResult × State}
    (htoday : todayLocal tz now = .ok today) (h : DailyFire.fire tz now s = .ok result) :
    ∃ d, (d.ordinal : Int) = today.ordinal - 1 ∧ result = s.tryEnqueue d false := by
  simp only [DailyFire.fire, fireDate, htoday, bind, Except.bind, pure, Except.pure] at h
  split at h
  · cases h
  · rename_i d hd
    cases h
    exact ⟨d, minusDays_ok hd, rfl⟩

end

/-! ## The invariant -/

structure Covered (first : Int) (s : World) : Prop where
  coherent : Coherent s.machine.system
  /-- a crash has emptied the queue -/
  down : s.machine.up = false → accepted s.machine.system = []
  /-- every day from the first on was taken up once -/
  ever : ∀ d : Date, first ≤ d.ordinal → (d.ordinal : Int) < s.seen →
    TakenUp s.machine.system d ∨ d ∈ s.lost
  /-- the process that is up has taken up every day of its window and since -/
  here : s.machine.up = true → ∀ d : Date, s.since ≤ d.ordinal → (d.ordinal : Int) < s.seen →
    TakenUp s.machine.system d

section
variable {first : Int} {s s' : World}

theorem Covered.init (h : Init first s) : Covered first s := by
  obtain ⟨⟨runs, hm⟩, _, hseen⟩ := h
  refine ⟨hm ▸ coherent_fresh runs, fun _ => hm ▸ rfl, fun d hfrom hto => ?_, fun hup => ?_⟩
  · omega
  · rw [hm] at hup
    cases hup

/-- A step of the process that is up, which may end on a later day if that is all taken up. -/
theorem Covered.inner (h : Covered first s) {ev : Catchup.Event} {system : System} {seen : Int}
    (hup : s.machine.up = true) (hs : Catchup.step s.machine.system ev = some system)
    (hnew : ∀ d : Date, s.seen ≤ d.ordinal → (d.ordinal : Int) < seen → TakenUp system d) :
    Covered first { s with machine := ⟨system, true⟩, seen } := by
  have hold : ∀ d : Date, (d.ordinal : Int) < s.seen ∨ TakenUp system d ∨ seen ≤ d.ordinal := by
    intro d
    rcases lt_or_ge (d.ordinal : Int) s.seen with hlt | hge
    · exact Or.inl hlt
    · rcases lt_or_ge (d.ordinal : Int) seen with hlt | hge'
      · exact Or.inr (Or.inl (hnew d hge hlt))
      · exact Or.inr (Or.inr hge')
  refine ⟨h.coherent.step hs, nofun, fun d hfrom hto => ?_,
    fun _ d hfrom hto => ?_⟩
  · rcases hold d with hlt | htaken | hge
    · exact (h.ever d hfrom hlt).imp_left fun htaken => htaken.step h.coherent hs
    · exact Or.inl htaken
    · exact absurd hto (not_lt.mpr hge)
  · rcases hold d with hlt | htaken | hge
    · exact (h.here hup d hfrom hlt).step h.coherent hs
    · exact htaken
    · exact absurd hto (not_lt.mpr hge)

/-- Between two processes only what is ingested counts. -/
theorem Covered.crash (h : Covered first s) :
    Covered first { s with
      machine := ⟨fresh s.machine.system.runs, false⟩
      lost := s.lost ++ accepted s.machine.system } := by
  refine ⟨coherent_fresh _, fun _ => rfl, fun d hfrom hto => ?_, nofun⟩
  rcases h.ever d hfrom hto with (hing | hacc) | hlost
  · exact Or.inl (Or.inl hing)
  · exact Or.inr (List.mem_append_right _ hacc)
  · exact Or.inr (List.mem_append_left _ hlost)

theorem TakenUp.ingested {system : System} {d : Date} (h : TakenUp system d)
    (hnone : accepted system = []) : isIngested system.runs d = true := by
  rcases h with hing | hacc
  · exact hing
  · rw [hnone] at hacc
    cases hacc

theorem Covered.bootBlind (h : Covered first s) (hdown : accepted s.machine.system = []) :
    Covered first { s with
      machine := ⟨start s.machine.system.runs none, true⟩
      since := s.seen } := by
  refine ⟨coherent_fresh _, nofun, fun d hfrom hto => ?_,
    fun _ d hfrom hto => ?_⟩
  · exact (h.ever d hfrom hto).imp_left fun htaken => Or.inl (htaken.ingested hdown)
  · exact absurd hto (not_lt.mpr hfrom)

theorem Covered.boot (h : Covered first s) (hdown : accepted s.machine.system = [])
    {today earliest : Date} {capDays : Int} (hearliest : today.minusDays capDays = .ok earliest)
    (hreach : (earliest.ordinal : Int) ≤ s.seen) :
    Covered first { s with
      machine := ⟨start s.machine.system.runs (some (today, capDays)), true⟩
      since := today.ordinal - capDays, seen := today.ordinal } := by
  have hfirst := minusDays_ok hearliest
  have hcoh : Coherent (start s.machine.system.runs (some (today, capDays))) :=
    start_cases _ _ (coherent_fresh _) (fun _ _ _ _ hc hs => hc.step hs)
      fun _ _ _ hc hs => hc.step hs
  refine ⟨hcoh, nofun, fun d hfrom hto => ?_, fun _ d hfrom hto => ?_⟩
  · rcases lt_or_ge (d.ordinal : Int) s.seen with hlt | hge
    · refine (h.ever d hfrom hlt).imp_left fun htaken => Or.inl ?_
      rw [start_runs]
      exact htaken.ingested hdown
    · refine Or.inl (takenUp_start hearliest ?_ ?_)
      · omega
      · have : (d.ordinal : Int) < today.ordinal := hto
        omega
  · have hfrom' : (today.ordinal : Int) - capDays ≤ d.ordinal := hfrom
    have hto' : (d.ordinal : Int) < today.ordinal := hto
    exact takenUp_start hearliest (by omega) (by omega)

/-- A step of the process that stays on its day. -/
theorem Covered.inner_same (h : Covered first s) {ev : Catchup.Event} {system : System}
    (hup : s.machine.up = true) (hs : Catchup.step s.machine.system ev = some system) :
    Covered first { s with machine := ⟨system, true⟩ } :=
  h.inner hup hs fun _ hge hlt => absurd hlt (not_lt.mpr hge)

theorem Covered.fire (h : Covered first s) (hup : s.machine.up = true) {tz : Zone} {now : Int}
    {today : Date} {result : EnqueueResult × State} (htoday : todayLocal tz now = .ok today)
    (hfire : DailyFire.fire tz now s.machine.system.orch = .ok result)
    (hprompt : (today.ordinal : Int) ≤ s.seen + 1) :
    Covered first { s with
      machine := ⟨{ s.machine.system with orch := result.2 }, true⟩
      seen := max s.seen today.ordinal } := by
  obtain ⟨d, hd, rfl⟩ := fire_ok htoday hfire
  have hs : Catchup.step s.machine.system (.orch (.tryEnqueue d false)) =
      some { s.machine.system with orch := (s.machine.system.orch.tryEnqueue d false).2 } := rfl
  refine h.inner hup hs fun e hge hlt => Or.inr ?_
  obtain rfl : e = d := CatchupWindow.date_ext (by omega)
  exact accepted_tryEnqueue h.coherent.orch hs

theorem Covered.step (h : Covered first s) {ev : Event} (hprompt : Prompt s ev)
    (hs : Coverage.step s ev = some s') : Covered first s' := by
  cases ev with
  | inner ev =>
    obtain ⟨m, hm, rfl⟩ := Option.map_eq_some_iff.mp hs
    rcases step_cases hm with ⟨_, system, hev, hup, hsys, rfl⟩ | ⟨hev, _⟩ | ⟨_, hev, _⟩
    · cases hev
      exact h.inner_same hup hsys
    · cases hev
    · cases hev
  | crash =>
    obtain ⟨m, hm, rfl⟩ := Option.map_eq_some_iff.mp hs
    rcases step_cases hm with ⟨_, _, hev, _⟩ | ⟨_, _, rfl⟩ | ⟨_, hev, _⟩
    · cases hev
    · exact h.crash
    · cases hev
  | bootBlind =>
    obtain ⟨m, hm, rfl⟩ := Option.map_eq_some_iff.mp hs
    rcases step_cases hm with ⟨_, _, hev, _⟩ | ⟨hev, _⟩ | ⟨settings, hev, hdown, rfl⟩
    · cases hev
    · cases hev
    · cases hev
      exact h.bootBlind (h.down hdown)
  | boot tz now capDays =>
    simp only [Coverage.step] at hs
    split at hs
    · cases hs
    · rename_i today htoday
      obtain ⟨m, hm, rfl⟩ := Option.map_eq_some_iff.mp hs
      obtain ⟨_, earliest, hearliest, hreach⟩ := hprompt today htoday
      rcases step_cases hm with ⟨_, _, hev, _⟩ | ⟨hev, _⟩ | ⟨settings, hev, hdown, rfl⟩
      · cases hev
      · cases hev
      · cases hev
        exact h.boot (h.down hdown) hearliest hreach
  | fire tz now =>
    simp only [Coverage.step] at hs
    split at hs
    · rename_i today result orch htoday hfire
      split at hs
      · rename_i hup
        cases hs
        have hcov := h.fire hup htoday hfire (hprompt today htoday)
        rwa [← hup] at hcov
      · cases hs
    · cases hs

end

/-- The worker has nothing left to do, and so has called everything it accepted. -/
theorem called_of_drained {o : State} (h : Inv o) (hqueue : o.queue = [])
    (hflight : o.inFlight = none) : o.calls = asCalls o.accepted := by
  obtain ⟨run, hrun, hacc, hagree⟩ := h.flight
  rw [hflight, Option.map_eq_none_iff] at hrun
  subst hrun
  rw [hqueue, Option.toList_none, List.append_nil, List.append_nil] at hacc
  rw [hacc]
  rcases hagree.calls with hcalls | hcalls
  · exact hcalls
  · rwa [Option.toList_none, List.append_nil] at hcalls

/-- In every history of boots, fires, crashes and whatever the process does in between,
where no boot comes later than its window reaches and no fire later than the day after the
last boot or fire: each day from the first one to the last boot or fire has been ingested or
was accepted by some process. Of these, the process that is up has accepted every day from
the start of its boot's window that is not ingested, and called a job for it once nothing is
queued or in flight. -/
theorem no_day_missed (first : Int) (s : World) (h : Reachable (Init first) step Prompt s) :
    (∀ d : Date, first ≤ d.ordinal → (d.ordinal : Int) < s.seen →
      isIngested s.machine.system.runs d = true ∨ d ∈ s.lost ++ accepted s.machine.system) ∧
    (s.machine.up = true → ∀ d : Date, s.since ≤ d.ordinal → (d.ordinal : Int) < s.seen →
      isIngested s.machine.system.runs d = false →
      d ∈ accepted s.machine.system ∧
        (s.machine.system.orch.queue = [] → s.machine.system.orch.inFlight = none →
          ∃ manual, (some d, manual) ∈ s.machine.system.orch.calls)) := by
  have hcov : Covered first s := h.invariant (fun _ hs => .init hs)
    fun _ _ _ _ hc hprompt hs => hc.step hprompt hs
  constructor
  · intro d hfrom hto
    rcases hcov.ever d hfrom hto with (hing | hacc) | hlost
    · exact Or.inl hing
    · exact Or.inr (List.mem_append_right _ hacc)
    · exact Or.inr (List.mem_append_left _ hlost)
  · intro hup d hfrom hto hnot
    have hacc : d ∈ accepted s.machine.system :=
      (hcov.here hup d hfrom hto).resolve_left (by rw [hnot]; exact Bool.false_ne_true)
    refine ⟨hacc, fun hqueue hflight => ?_⟩
    obtain ⟨⟨_, manual⟩, hrun, rfl⟩ := List.mem_map.mp hacc
    rw [called_of_drained hcov.coherent.orch hqueue hflight]
    exact ⟨manual, List.mem_map_of_mem hrun⟩

/-- Last seen two days before the 1st of May. -/
def downSince : World := ⟨⟨fresh .empty, false⟩, [], 0, 739735⟩

/-- A boot in the evening of the 1st of May and the fire of the day after. -/
theorem no_day_missed_boot : ∃ s, Reachable (Init 739735) step Prompt s ∧
    s.machine.up = true ∧ s.since = 739735 ∧ s.seen = 739738 ∧
    ∀ d : Date, s.since ≤ d.ordinal → (d.ordinal : Int) < s.seen →
      isIngested s.machine.system.runs d = false → d ∈ accepted s.machine.system := by
  have hboot : (step downSince (.boot newYork 1777692600000000 2)).map (fun s =>
      (s.seen, (step s (.fire newYork 1777779000000000)).map fun s =>
        (s.machine.up, s.since, s.seen))) =
      some (739737, some (true, 739735, 739738)) := by decide
  have hfirst : todayLocal newYork 1777692600000000 = .ok ⟨739737, by decide, by decide⟩ := by decide
  have hsecond : todayLocal newYork 1777779000000000 = .ok ⟨739738, by decide, by decide⟩ := by decide
  obtain ⟨s₁, hs₁, hseen⟩ := Option.map_eq_some_iff.mp hboot
  obtain ⟨hseen₁, hfire⟩ := Prod.mk.inj hseen
  obtain ⟨s₂, hs₂, hfields⟩ := Option.map_eq_some_iff.mp hfire
  obtain ⟨hup, hrest⟩ := Prod.mk.inj hfields
  obtain ⟨hsince, hseen₂⟩ := Prod.mk.inj hrest
  have hreached : Reachable (Init 739735) step Prompt s₂ := by
    refine .next (.next (.start ⟨⟨.empty, rfl⟩, rfl, rfl⟩) ?_ hs₁) ?_ hs₂
    · intro today htoday
      cases hfirst.symm.trans htoday
      exact ⟨by decide, ⟨739735, by decide, by decide⟩, by decide, by decide⟩
    · intro today htoday
      cases hsecond.symm.trans htoday
      rw [hseen₁]
      decide
  exact ⟨s₂, hreached, hup, hsince, hseen₂, fun d hfrom hto hnot =>
    ((no_day_missed 739735 s₂ hreached).2 hup d hfrom hto hnot).1⟩

end Bluewave.Coverage
