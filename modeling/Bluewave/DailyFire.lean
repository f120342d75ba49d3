import Bluewave.Orchestrator
import Bluewave.RunJob
import Bluewave.Scheduler
import Bluewave.Transform

/-! `_fire`, the callback of the daily job. APScheduler may run it up to
`misfire_grace_time` after its nominal time, and it reads the calendar when it runs: the
date it asks for is the day before the local day of its execution. -/
namespace Bluewave.DailyFire
open Lib Bluewave.Exceptions Bluewave.Numerals Bluewave.Datetime Bluewave.Tables
open Bluewave.Orchestrator Bluewave.Scheduler
open Bluewave.RunJob (someConfig someDay)
open Bluewave.Transform (newYork)

/-- The ordinal of the day of a date and time. -/
def dayOf (t : Int) : Int := t / microsPerDay + epochOrdinal

/-- `datetime.date`. -/
def dateOf (t : Int) (h : InRange t) : Date where
  ordinal := (dayOf t).toNat
  one_le := by
    unfold InRange at h
    unfold dayOf microsPerDay epochOrdinal
    omega
  le_max := by
    unfold InRange at h
    unfold dayOf microsPerDay epochOrdinal
    omega

/-- `datetime.now(tz).date()`. -/
def todayLocal (tz : Zone) (now : Int) : Except Exn Date :=
  if h : InRange (tz.toLocal now) then .ok (dateOf (tz.toLocal now) h)
  else .error (overflowError "date value out of range")

/-- `today_local - timedelta(days=1)`. -/
def fireDate (tz : Zone) (now : Int) : Except Exn Date := do
  let today ← todayLocal tz now
  today.minusDays 1

/-- `_fire`. -/
def fire (tz : Zone) (now : Int) (s : State) : Except Exn (EnqueueResult × State) := do
  let yesterday ← fireDate tz now
  pure (s.tryEnqueue yesterday false)

def microsPerSecond : Int := 1000000

section
variable {Trigger : Type} (L : Libraries Zone Trigger)

/-- Since midnight, at the hour and minute of the trigger. -/
def timeOfDay (job : Job Zone Trigger) : Int :=
  (L.hour job.trigger * 60 + L.minute job.trigger) * 60 * microsPerSecond

/-- The trigger is due at the instant `u`, on the local day `day`. -/
def Nominal (job : Job Zone Trigger) (day : Date) (u : Int) : Prop :=
  (L.timezone job.trigger).toLocal u =
    ((day.ordinal : Int) - epochOrdinal) * microsPerDay + timeOfDay L job

/-- An execution of a job that was due at `u`: at `t`, not too late, by a clock that
`datetime` can represent. -/
structure Execution (job : Job Zone Trigger) (day : Date) (u t : Int) : Prop where
  nominal : Nominal L job day u
  notEarly : u ≤ t
  inGrace : t ≤ u + job.misfireGraceTime * microsPerSecond
  represented : InRange (job.fireZone.toLocal t)

instance (job : Job Zone Trigger) (day : Date) (u : Int) : Decidable (Nominal L job day u) :=
  inferInstanceAs (Decidable (_ = _))

/-- How late the execution is on the local clock. -/
def localDelay (job : Job Zone Trigger) (u t : Int) : Int :=
  job.fireZone.toLocal t - job.fireZone.toLocal u

/-- The local clock has not left the day yet. -/
def OnItsDay (job : Job Zone Trigger) (u t : Int) : Prop :=
  0 ≤ timeOfDay L job + localDelay job u t ∧
    timeOfDay L job + localDelay job u t < microsPerDay

instance (job : Job Zone Trigger) (u t : Int) : Decidable (OnItsDay L job u t) :=
  inferInstanceAs (Decidable (_ ∧ _))

/-- Every fire of the registered job asks for the day before its own, however late. -/
def FiresForDayBefore (cfg : Config) : Prop :=
  Registrable L cfg → ∀ jobs sched, registerDaily L cfg (some jobs) = .ok sched → ∀ job ∈ daily sched,
    ∀ day u t, Execution L job day u t →
      ∀ d, day.minusDays 1 = .ok d → fireDate job.fireZone t = .ok d

end

section
variable {Trigger : Type} {L : Libraries Zone Trigger} {cfg : Config}

/-- The date is one less than the local day, as a number. -/
theorem fireDate_eq_ok {tz : Zone} {now : Int} (h : InRange (tz.toLocal now)) {d : Date} :
    fireDate tz now = .ok d ↔ (d.ordinal : Int) + 1 = dayOf (tz.toLocal now) := by
  have hday : ((dateOf (tz.toLocal now) h).ordinal : Int) = dayOf (tz.toLocal now) :=
    Int.toNat_of_nonneg (by
      have hpos := (dateOf (tz.toLocal now) h).one_le
      simp only [dateOf] at hpos
      omega)
  simp only [fireDate, todayLocal, dif_pos h, bind, Except.bind]
  constructor
  · intro hd
    have hminus := minusDays_ok hd
    omega
  · intro hd
    exact minusDays_eq_ok (by omega)

/-- What `registerDaily` hands to APScheduler for a schedule and a zone that parse. -/
theorem registered_job (hreg : Registrable L cfg) {jobs : List (Job Zone Trigger)}
    {sched : Sched Zone Trigger} (h : registerDaily L cfg (some jobs) = .ok sched)
    {job : Job Zone Trigger} (hjob : job ∈ daily sched) :
    (0 ≤ L.hour job.trigger ∧ L.hour job.trigger ≤ 23) ∧
      (0 ≤ L.minute job.trigger ∧ L.minute job.trigger ≤ 59) ∧
      L.timezone job.trigger = job.fireZone ∧ job.misfireGraceTime = 3600 := by
  obtain ⟨⟨hh, mm, hour, minute, hsplit, ⟨hhour, hrange⟩, hminute, mrange⟩, tz, hzone⟩ := hreg
  obtain ⟨trigger, hcron, rfl, rfl, rfl⟩ := L.cronTrigger_ok hour minute tz hrange mrange
  simp only [registerDaily, hsplit, hzone, toInt, hhour, hminute, hcron, bind, Except.bind, pure,
    Except.pure] at h
  cases h
  rw [daily_addJob rfl, List.mem_singleton] at hjob
  subst hjob
  exact ⟨hrange, mrange, rfl, rfl⟩

/-- The local day of an execution, from the day and the time it was due. -/
theorem Execution.dayOf_iff {job : Job Zone Trigger} {day : Date} {u t : Int}
    (h : Execution L job day u t) (hzone : L.timezone job.trigger = job.fireZone) :
    dayOf (job.fireZone.toLocal t) = day.ordinal ↔ OnItsDay L job u t := by
  have hnominal : job.fireZone.toLocal u =
      ((day.ordinal : Int) - epochOrdinal) * microsPerDay + timeOfDay L job := hzone ▸ h.nominal
  unfold dayOf OnItsDay localDelay
  rw [hnominal]
  generalize timeOfDay L job = tod
  unfold microsPerDay epochOrdinal
  omega

/-- An execution asks for the day before its day exactly when the local clock has not
left that day. -/
theorem Execution.fireDate_iff {job : Job Zone Trigger} {day : Date} {u t : Int}
    (h : Execution L job day u t) (hzone : L.timezone job.trigger = job.fireZone) {d : Date}
    (hd : day.minusDays 1 = .ok d) :
    fireDate job.fireZone t = .ok d ↔ OnItsDay L job u t := by
  rw [fireDate_eq_ok h.represented, ← h.dayOf_iff hzone]
  have := minusDays_ok hd
  omega

/-- `_fire` puts the date it asks for into the queue, unless it is there or in flight. -/
theorem fire_queue {tz : Zone} {t : Int} {d : Date} (hd : fireDate tz t = .ok d) (s : State) :
    ∃ result s', fire tz t s = .ok (result, s') ∧
      s'.queue = s.queue ++ (if s.known d then [] else [(d, false)]) := by
  refine ⟨(s.tryEnqueue d false).1, (s.tryEnqueue d false).2, ?_, ?_⟩
  · simp only [fire, hd, bind, Except.bind, pure, Except.pure]
  · unfold State.tryEnqueue
    split
    · simp
    · unfold State.ensureWorkerLocked
      split <;> rfl

end

/-- Whenever the registered job executes, `_fire` asks for the day before the local day
of the execution. That is the day before the day it was due on exactly when the local
clock has not left that day, and then no day is skipped between two fires. -/
theorem fire_dayBefore {Trigger : Type} (L : Libraries Zone Trigger) {cfg : Config}
    (hreg : Registrable L cfg) {jobs : List (Job Zone Trigger)} {sched : Sched Zone Trigger}
    (h : registerDaily L cfg (some jobs) = .ok sched) {job : Job Zone Trigger}
    (hjob : job ∈ daily sched) {day : Date} {u t : Int} (hexec : Execution L job day u t) :
    (∀ d, fireDate job.fireZone t = .ok d ↔
      (d.ordinal : Int) + 1 = dayOf (job.fireZone.toLocal t)) ∧
    (∀ d s, fireDate job.fireZone t = .ok d → ∃ result s', fire job.fireZone t s = .ok (result, s') ∧
      s'.queue = s.queue ++ (if s.known d then [] else [(d, false)])) ∧
    (∀ d, day.minusDays 1 = .ok d → (fireDate job.fireZone t = .ok d ↔ OnItsDay L job u t)) ∧
    ∀ day' u' t' d d', Execution L job day' u' t' → day'.ordinal = day.ordinal + 1 →
      OnItsDay L job u t → OnItsDay L job u' t' → fireDate job.fireZone t = .ok d →
      fireDate job.fireZone t' = .ok d' → d'.ordinal = d.ordinal + 1 := by
  obtain ⟨-, -, hzone, -⟩ := registered_job hreg h hjob
  refine ⟨fun d => fireDate_eq_ok hexec.represented, fun d s hd => fire_queue hd s,
    fun d hd => hexec.fireDate_iff hzone hd, ?_⟩
  intro day' u' t' d d' hexec' hnext hon hon' hd hd'
  have hday := (hexec.dayOf_iff hzone).mpr hon
  have hday' := (hexec'.dayOf_iff hzone).mpr hon'
  have hdate := (fireDate_eq_ok hexec.represented).mp hd
  have hdate' := (fireDate_eq_ok hexec'.represented).mp hd'
  omega

/-! ## A late evening schedule -/

/-- `zoneinfo` with one zone, and a trigger that is its hour, minute and zone. -/
def newYorkLibraries : Libraries Zone (Int × Int × Zone) where
  repr s := "'" ++ s ++ "'"
  zoneInfo key :=
    if key = "America/New_York" then .ok newYork
    else .error (.other "ZoneInfoNotFoundError" "No time zone found with key")
  cronTrigger h m tz :=
    if (0 ≤ h ∧ h ≤ 23) ∧ 0 ≤ m ∧ m ≤ 59 then .ok (h, m, tz)
    else .error (valueError "Error validating expression")
  hour trigger := trigger.1
  minute trigger := trigger.2.1
  timezone trigger := trigger.2.2
  cronTrigger_ok _ _ _ hh hm := ⟨_, if_pos ⟨hh, hm⟩, rfl, rfl, rfl⟩

def lateSchedule : Config :=
  { someConfig with operatorTimezone := "America/New_York", scheduleLocal := "23:30" }

theorem newYorkLibraries_zone : newYorkLibraries.zoneInfo "America/New_York" = .ok newYork := by
  simp only [newYorkLibraries, if_true]

theorem lateSchedule_registrable : Registrable newYorkLibraries lateSchedule :=
  ⟨⟨"23", "30", 23, 30, by decide, by decide, by decide⟩, newYork, newYorkLibraries_zone⟩

def lateJob : Job Zone (Int × Int × Zone) := ⟨jobIdDaily, (23, 30, newYork), newYork, 1, true, 3600⟩

theorem lateSchedule_registered :
    registerDaily newYorkLibraries lateSchedule (some []) = .ok (some [lateJob]) := by
  have hsplit : splitTime lateSchedule.scheduleLocal = .ok ("23", "30") := by decide
  have hzone : newYorkLibraries.zoneInfo lateSchedule.operatorTimezone = .ok newYork :=
    newYorkLibraries_zone
  have hhour : int? "23" = some 23 := by decide
  have hminute : int? "30" = some 30 := by decide
  simp only [registerDaily, hsplit, hzone, toInt, hhour, hminute, bind, Except.bind]
  rfl

theorem lateJob_mem_daily : lateJob ∈ daily (some [lateJob]) :=
  (@daily_addJob _ _ lateJob rfl []).symm ▸ List.mem_singleton_self lateJob

/-- Due on the 1st of May at 23:30, executed three quarters of an hour later. -/
theorem lateJob_execution :
    Execution newYorkLibraries lateJob someDay 1777692600000000 1777695300000000 :=
  ⟨by decide, by decide, by decide, by decide⟩

/-- The fire of the 1st of May asks for the 1st of May. -/
theorem not_firesForDayBefore : ¬ FiresForDayBefore newYorkLibraries lateSchedule := by
  intro h
  have hfire : fireDate newYork 1777695300000000 = .ok ⟨739736, by decide, by decide⟩ :=
    h lateSchedule_registrable _ _ lateSchedule_registered lateJob lateJob_mem_daily _ _ _
      lateJob_execution _ (by decide)
  revert hfire
  decide

/-- Executed at 23:59, the fire of the 1st of May asks for the 30th of April. -/
theorem fire_dayBefore_late :
    fireDate newYork 1777694340000000 = .ok ⟨739736, by decide, by decide⟩ := by
  have hexec : Execution newYorkLibraries lateJob someDay 1777692600000000 1777694340000000 :=
    ⟨by decide, by decide, by decide, by decide⟩
  exact ((fire_dayBefore newYorkLibraries lateSchedule_registrable lateSchedule_registered
    lateJob_mem_daily hexec).2.2.1 _ (by decide)).mpr (by decide)

end Bluewave.DailyFire
