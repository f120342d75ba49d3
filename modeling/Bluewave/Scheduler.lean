import Bluewave.ConfigStore
import Bluewave.Numerals

/-! `scheduler.py`: one daily job, registered at the start of the process and again
after a save of the config. `_sched` is `None` or the jobs APScheduler holds. -/
namespace Bluewave.Scheduler
open Lib Bluewave.Exceptions Bluewave.ConfigStore Bluewave.Numerals

def jobIdDaily : String := "bluewave.daily"

/-- `zoneinfo` over the installed time zones, and APScheduler's `CronTrigger`, which
takes the hours and minutes of a day. `repr` is Python's. -/
structure Libraries (Tz Trigger : Type) where
  repr : String → String
  zoneInfo : String → Except Exn Tz
  cronTrigger : Int → Int → Tz → Except Exn Trigger
  hour : Trigger → Int
  minute : Trigger → Int
  timezone : Trigger → Tz
  cronTrigger_ok : ∀ h m tz, 0 ≤ h ∧ h ≤ 23 → 0 ≤ m ∧ m ≤ 59 →
    ∃ trigger, cronTrigger h m tz = .ok trigger ∧
      hour trigger = h ∧ minute trigger = m ∧ timezone trigger = tz

/-- What `add_job` is given. `fireZone` is the zone in which `_fire` reads the date. -/
structure Job (Tz Trigger : Type) where
  id : String
  trigger : Trigger
  fireZone : Tz
  maxInstances : Nat
  coalesce : Bool
  misfireGraceTime : Nat
  deriving DecidableEq

/-- The attribute `_sched`. -/
abbrev Sched (Tz Trigger : Type) := Option (List (Job Tz Trigger))

section
variable {Tz Trigger : Type}

/-- `add_job` with `replace_existing=True`. -/
def addJob (job : Job Tz Trigger) (jobs : List (Job Tz Trigger)) : List (Job Tz Trigger) :=
  jobs.filter (·.id ≠ job.id) ++ [job]

def removeJob (id : String) (jobs : List (Job Tz Trigger)) : Except Exn (List (Job Tz Trigger)) :=
  if jobs.any (·.id = id) then .ok (jobs.filter (·.id ≠ id))
  else .error (.other "JobLookupError" ("'No job by the id of " ++ id ++ " was found'"))

/-- `try: remove_job(id)`, `except Exception: pass`. -/
def discardJob (id : String) (jobs : List (Job Tz Trigger)) : List (Job Tz Trigger) :=
  match removeJob id jobs with
  | .ok jobs => jobs
  | .error _ => jobs

/-- `hh, mm = s.split(":")`. -/
def splitTime (s : String) : Except Exn (String × String) :=
  match s.toList.splitOn ':' with
  | [hh, mm] => .ok (String.ofList hh, String.ofList mm)
  | [_] => .error (valueError "not enough values to unpack (expected 2, got 1)")
  | _ => .error (valueError "too many values to unpack (expected 2)")

variable (L : Libraries Tz Trigger)

def toInt (s : String) : Except Exn Int :=
  match int? s with
  | some n => .ok n
  | none => .error (valueError ("invalid literal for int() with base 10: " ++ L.repr s))

/-- `_register_daily`. -/
def registerDaily (cfg : Config) : Sched Tz Trigger → Except Exn (Sched Tz Trigger)
  | none => .error (.other "AssertionError" "")
  | some jobs => do
    let (hh, mm) ← splitTime cfg.scheduleLocal
    let tz ← L.zoneInfo cfg.operatorTimezone
    let h ← toInt L hh
    let m ← toInt L mm
    let trigger ← L.cronTrigger h m tz
    pure (some (addJob
      { id := jobIdDaily, trigger, fireZone := tz, maxInstances := 1, coalesce := true
        misfireGraceTime := 3600 } jobs))

section
variable {Key IV Token : Type} (F : Cipher Key IV String Token)

/-- `load`, then `_register_daily`: the end of `start` and of `reconfigure`. The
bootstrap of the audit table before it and the catch-up after it, in `start`, raise
nothing and touch neither the config nor the jobs. -/
def loadAndRegister (ks : Keyring Key) (fault : Option Exn) (t : ConfigTable Token)
    (sched : Sched Tz Trigger) : Except Exn Unit × Sched Tz Trigger :=
  match load F ks fault t with
  | .error e => (.error e, sched)
  | .ok none => (.ok (), sched)
  | .ok (some cfg) =>
    match registerDaily L cfg sched with
    | .error e => (.error e, sched)
    | .ok sched => (.ok (), sched)

def start (ks : Keyring Key) (fault : Option Exn) (t : ConfigTable Token) :
    Except Exn Unit × Sched Tz Trigger := loadAndRegister L F ks fault t (some [])

def shutdown (_ : Sched Tz Trigger) : Sched Tz Trigger := none

def reconfigure (ks : Keyring Key) (fault : Option Exn) (t : ConfigTable Token) :
    Sched Tz Trigger → Except Exn Unit × Sched Tz Trigger
  | none => (.ok (), none)
  | some jobs => loadAndRegister L F ks fault t (some (discardJob jobIdDaily jobs))

end

end

/-! ## The daily job -/

section
variable {Tz Trigger : Type} {L : Libraries Tz Trigger}

/-- The jobs with the daily id. -/
def daily (sched : Sched Tz Trigger) : List (Job Tz Trigger) :=
  (sched.getD []).filter (·.id = jobIdDaily)

/-- The trigger has the hour and minute of the schedule and the operator's zone. -/
structure FiresAt (L : Libraries Tz Trigger) (cfg : Config) (trigger : Trigger) : Prop where
  time : ∃ hh mm, splitTime cfg.scheduleLocal = .ok (hh, mm) ∧
    int? hh = some (L.hour trigger) ∧ int? mm = some (L.minute trigger)
  zone : L.zoneInfo cfg.operatorTimezone = .ok (L.timezone trigger)

/-- The time of day and the zone of a config parse. -/
structure Registrable (L : Libraries Tz Trigger) (cfg : Config) : Prop where
  time : ∃ hh mm h m, splitTime cfg.scheduleLocal = .ok (hh, mm) ∧
    (int? hh = some h ∧ 0 ≤ h ∧ h ≤ 23) ∧ int? mm = some m ∧ 0 ≤ m ∧ m ≤ 59
  zone : ∃ tz, L.zoneInfo cfg.operatorTimezone = .ok tz

/-- There is one daily job, and it is this config's. -/
def Registered (L : Libraries Tz Trigger) (cfg : Config) (sched : Sched Tz Trigger) : Prop :=
  ∃ job, daily sched = [job] ∧ FiresAt L cfg job.trigger

theorem daily_addJob {job : Job Tz Trigger} (h : job.id = jobIdDaily) (jobs : List (Job Tz Trigger)) :
    daily (some (addJob job jobs)) = [job] := by
  simp [daily, addJob, h, List.filter_filter]

/-- Removed, or not there to be removed. -/
theorem discardJob_eq (id : String) (jobs : List (Job Tz Trigger)) :
    discardJob id jobs = jobs.filter (·.id ≠ id) := by
  by_cases h : jobs.any (·.id = id)
  · simp only [discardJob, removeJob, if_pos h]
  · have hall : ∀ job ∈ jobs, job.id ≠ id := by simpa using h
    simp only [discardJob, removeJob, if_neg h]
    exact (List.filter_eq_self.mpr fun job hjob => decide_eq_true (hall job hjob)).symm

theorem daily_discardJob (jobs : List (Job Tz Trigger)) :
    daily (some (discardJob jobIdDaily jobs)) = [] := by
  simp [discardJob_eq, daily]

/-- A config whose time and zone parse is registered. -/
theorem registerDaily_ok {cfg : Config} (h : Registrable L cfg) (jobs : List (Job Tz Trigger)) :
    ∃ sched, registerDaily L cfg (some jobs) = .ok (some sched) ∧ Registered L cfg (some sched) := by
  obtain ⟨⟨hh, mm, hour, minute, hsplit, ⟨hhour, hrange⟩, hminute, mrange⟩, tz, hzone⟩ := h
  obtain ⟨trigger, hcron, rfl, rfl, rfl⟩ := L.cronTrigger_ok hour minute tz hrange mrange
  let job : Job Tz Trigger := ⟨jobIdDaily, trigger, L.timezone trigger, 1, true, 3600⟩
  refine ⟨addJob job jobs, ?_, job, daily_addJob rfl jobs, ⟨hh, mm, hsplit, hhour, hminute⟩, hzone⟩
  simp only [registerDaily, hsplit, hzone, toInt, hhour, hminute, hcron, bind, Except.bind, pure,
    Except.pure, job]

/-- The daily job is the held config's, and there is one only when the scheduler is
started and a config is held. -/
def Matches (L : Libraries Tz Trigger) : Option Config → Sched Tz Trigger → Prop
  | some cfg, some jobs => Registered L cfg (some jobs)
  | _, sched => daily sched = []

theorem matches_none (held : Option Config) : Matches L held none := by cases held <;> rfl

section
variable {Key IV Token : Type} {F : Cipher Key IV String Token} {ks : Keyring Key}
  {fault : Option Exn} {t : ConfigTable Token} {held : Option Config}

/-- What a registration with a started scheduler comes to: the job of the held config, or
the read of the file has raised and no daily job is left. -/
inductive Registration (L : Libraries Tz Trigger) (F : Cipher Key IV String Token)
    (ks : Keyring Key) (fault : Option Exn) (t : ConfigTable Token) (held : Option Config) :
    Except Exn Unit × Sched Tz Trigger → Prop
  | done {sched : Sched Tz Trigger} : load F ks fault t = .ok held → Matches L held sched →
      Registration L F ks fault t held (.ok (), sched)
  | unread {e : Exn} {jobs : List (Job Tz Trigger)} :
      load F ks fault t = .error e → daily (some jobs) = [] →
      Registration L F ks fault t held (.error e, some jobs)

theorem Registration.matches_of_ok {r : Except Exn Unit × Sched Tz Trigger}
    (h : Registration L F ks fault t held r) (hok : r.1 = .ok ()) : Matches L held r.2 := by
  cases h with
  | done _ hmatch => exact hmatch
  | unread _ _ => cases hok

theorem Registration.ok_of_read {r : Except Exn Unit × Sched Tz Trigger} {loaded : Option Config}
    (h : Registration L F ks fault t held r) (hload : load F ks fault t = .ok loaded) :
    r.1 = .ok () := by
  cases h with
  | done _ _ => rfl
  | unread hraised _ =>
    rw [hraised] at hload
    cases hload

theorem Registration.matches_or_none {r : Except Exn Unit × Sched Tz Trigger}
    (h : Registration L F ks fault t held r) : Matches L held r.2 ∨ daily r.2 = [] := by
  cases h with
  | done _ hmatch => exact .inl hmatch
  | unread _ hnone => exact .inr hnone

theorem loadAndRegister_outcome {jobs : List (Job Tz Trigger)} (h : Holds F t held)
    (hreg : ∀ cfg, held = some cfg → Registrable L cfg) (hnone : daily (some jobs) = []) :
    Registration L F ks fault t held (loadAndRegister L F ks fault t (some jobs)) := by
  unfold loadAndRegister
  match hload : load F ks fault t with
  | .error e => exact .unread hload hnone
  | .ok none =>
    obtain rfl := load_holds h hload
    exact .done hload hnone
  | .ok (some cfg) =>
    obtain rfl := load_holds h hload
    obtain ⟨sched, hok, hmatch⟩ := registerDaily_ok (hreg cfg rfl) jobs
    simp only [hok]
    exact .done hload hmatch

theorem start_outcome (h : Holds F t held) (hreg : ∀ cfg, held = some cfg → Registrable L cfg) :
    Registration L F ks fault t held (start L F ks fault t) :=
  loadAndRegister_outcome h hreg rfl

/-- The daily job is removed before the config is read. -/
theorem reconfigure_outcome (h : Holds F t held)
    (hreg : ∀ cfg, held = some cfg → Registrable L cfg) (jobs : List (Job Tz Trigger)) :
    Registration L F ks fault t held (reconfigure L F ks fault t (some jobs)) :=
  loadAndRegister_outcome h hreg (daily_discardJob jobs)

end

end

end Bluewave.Scheduler
