import Mathlib.Data.Int.ConditionallyCompleteOrder
import Bluewave.Lib.Fold
import Bluewave.DailyFire

/-! `_next_run_utc`, the next run that `/healthz` and the dashboard announce. It replaces
the time of day in an aware local time, so the `fold` of now goes into the candidate, and
compares the two as wall-clock times. -/
namespace Bluewave.NextRun
open Lib Lib.Zone Bluewave.Exceptions Bluewave.Datetime Bluewave.Scheduler
open Bluewave.Transform (newYork newYork_regular)
open Bluewave.DailyFire (newYorkLibraries newYorkLibraries_zone)
open Bluewave.RunJob (someConfig)

/-- An aware `datetime`, of a zone that is known. -/
structure Aware where
  wall : Int
  fold : Bool

/-- `a.utcoffset()`. -/
def Aware.utcoffset (tz : Zone) (a : Aware) : Int :=
  if a.fold then tz.fold1 a.wall else tz.fold0 a.wall

def outOfRange : Exn := overflowError "date value out of range"

/-- `datetime.now(tz)`. -/
def datetimeNow (tz : Zone) (now : Int) : Except Exn Aware :=
  if InRange (tz.toLocal now) then .ok ⟨tz.toLocal now, tz.fold now⟩ else .error outOfRange

/-- Microseconds since midnight. -/
def timeOfDay (h m : Int) : Int := (h * 60 + m) * 60000000

/-- `a.replace(hour=h, minute=m, second=0, microsecond=0)`, which keeps the `fold`. -/
def Aware.replace (a : Aware) (h m : Int) : Except Exn Aware :=
  if ¬ (0 ≤ h ∧ h ≤ 23) then .error (valueError "hour must be in 0..23")
  else if ¬ (0 ≤ m ∧ m ≤ 59) then .error (valueError "minute must be in 0..59")
  else .ok { a with wall := a.wall / microsPerDay * microsPerDay + timeOfDay h m }

/-- `a + timedelta(days=1)`, with `fold=0`. -/
def Aware.plusDay (a : Aware) : Except Exn Aware :=
  if InRange (a.wall + microsPerDay) then .ok ⟨a.wall + microsPerDay, false⟩
  else .error outOfRange

/-- `a.astimezone(timezone.utc)`. -/
def Aware.astimezoneUtc (tz : Zone) (a : Aware) : Except Exn Int :=
  if InRange (a.wall - a.utcoffset tz) then .ok (a.wall - a.utcoffset tz) else .error outOfRange

section
variable {Trigger : Type} (L : Libraries Zone Trigger)

/-- `hh, mm = schedule_local.split(":")` and `int` of both. -/
def parseTime (scheduleLocal : String) : Except Exn (Int × Int) := do
  let (hh, mm) ← splitTime scheduleLocal
  let h ← toInt L hh
  let m ← toInt L mm
  pure (h, m)

/-- `_next_run_utc` at the instant `now`. -/
def nextRunUtc (cfg : Config) (now : Int) : Except Exn (Option Int) :=
  match parseTime L cfg.scheduleLocal with
  | .error _ => .ok none
  | .ok (h, m) => do
    let tz ← L.zoneInfo cfg.operatorTimezone
    let nowLocal ← datetimeNow tz now
    let candidate ← nowLocal.replace h m
    let candidate ← if candidate.wall ≤ nowLocal.wall then candidate.plusDay else pure candidate
    let u ← candidate.astimezoneUtc tz
    pure (some u)

end

/-! ## Without the ends of the calendar -/

/-- The candidate from a local time, for a time of day. -/
def candidate (tod : Int) (a : Aware) : Aware :=
  let wall := a.wall / microsPerDay * microsPerDay + tod
  if wall ≤ a.wall then ⟨wall + microsPerDay, false⟩ else ⟨wall, a.fold⟩

def candidateAt (tz : Zone) (tod now : Int) : Aware := candidate tod ⟨tz.toLocal now, tz.fold now⟩

def nextRun (tz : Zone) (tod now : Int) : Int :=
  (candidateAt tz tod now).wall - (candidateAt tz tod now).utcoffset tz

/-- `datetime` can represent what is computed from `now`. -/
@[mk_iff] structure Represented (tz : Zone) (tod now : Int) : Prop where
  nowLocal : InRange (tz.toLocal now)
  candidate : InRange (candidateAt tz tod now).wall
  result : InRange (nextRun tz tod now)

theorem timeOfDay_range {h m : Int} (hvalid : (0 ≤ h ∧ h ≤ 23) ∧ 0 ≤ m ∧ m ≤ 59) :
    0 ≤ timeOfDay h m ∧ timeOfDay h m < microsPerDay := by
  unfold timeOfDay microsPerDay
  omega

/-- The calendar ends with whole days. -/
theorem inRange_replace {t tod : Int} (h : InRange t) (htod : 0 ≤ tod ∧ tod < microsPerDay) :
    InRange (t / microsPerDay * microsPerDay + tod) := by
  unfold microsPerDay at *
  unfold InRange at *
  omega

/-- `_next_run_utc` raises where the calendar ends, and is `nextRun` elsewhere. -/
theorem nextRunUtc_eq_ok {Trigger : Type} (L : Libraries Zone Trigger) {cfg : Config} {h m : Int}
    {tz : Zone} (hparse : parseTime L cfg.scheduleLocal = .ok (h, m))
    (hvalid : (0 ≤ h ∧ h ≤ 23) ∧ 0 ≤ m ∧ m ≤ 59)
    (hzone : L.zoneInfo cfg.operatorTimezone = .ok tz) {now u : Int} :
    nextRunUtc L cfg now = .ok (some u) ↔
      Represented tz (timeOfDay h m) now ∧ u = nextRun tz (timeOfDay h m) now := by
  have hday : InRange (tz.toLocal now) →
      InRange (tz.toLocal now / microsPerDay * microsPerDay + timeOfDay h m) :=
    fun hnow => inRange_replace hnow (timeOfDay_range hvalid)
  simp only [nextRunUtc, hparse, hzone, Result.bind_eq_ok, datetimeNow, Aware.replace, hvalid, and_self,
    not_true, if_false, Result.ite_eq_ok, Except.ok.injEq, exists_eq_left', and_assoc, exists_and_left,
    exists_eq_left]
  rw [represented_iff, nextRun, and_assoc, and_assoc]
  by_cases hle : tz.toLocal now / microsPerDay * microsPerDay + timeOfDay h m ≤ tz.toLocal now
  · have hcand : candidateAt tz (timeOfDay h m) now =
        ⟨tz.toLocal now / microsPerDay * microsPerDay + timeOfDay h m + microsPerDay, false⟩ :=
      if_pos hle
    simp only [if_pos hle, hcand, Result.bind_eq_ok, Aware.plusDay, Aware.astimezoneUtc, Result.ite_eq_ok,
      and_assoc, exists_and_left, exists_eq_left, pure, Except.pure, Except.ok.injEq,
      Option.some.injEq]
    exact ⟨fun hok => ⟨hok.1, hok.2.1, hok.2.2.1, hok.2.2.2.symm⟩, 
      fun hok => ⟨hok.1, hok.2.1, hok.2.2.1, hok.2.2.2.symm⟩⟩
  · have hcand : candidateAt tz (timeOfDay h m) now =
        ⟨tz.toLocal now / microsPerDay * microsPerDay + timeOfDay h m, tz.fold now⟩ :=
      if_neg hle
    simp only [if_neg hle, hcand, Result.bind_eq_ok, Aware.astimezoneUtc, Result.ite_eq_ok, and_assoc,
      exists_and_left, exists_eq_left, exists_eq_left', pure, Except.pure, Except.ok.injEq,
      Option.some.injEq]
    exact ⟨fun hok => ⟨hok.1, hday hok.1, hok.2.1, hok.2.2.symm⟩,
      fun hok => ⟨hok.1, hok.2.2.1, hok.2.2.2.symm⟩⟩

/-! ## The scheduled times -/

def Scheduled (tod c : Int) : Prop := c % microsPerDay = tod

/-- The first scheduled time after the local time `t`. -/
def After (tod t c : Int) : Prop := IsLeast {c | Scheduled tod c ∧ t < c} c

section
variable {tod t t' c : Int}

theorem After.of_le (h : After tod t c) (hle : t ≤ t') (hlt : t' < c) : After tod t' c :=
  ⟨⟨h.1.1, hlt⟩, fun _ hc => h.2 ⟨hc.1, lt_of_le_of_lt hle hc.2⟩⟩

theorem candidate_after (htod : 0 ≤ tod ∧ tod < microsPerDay) (a : Aware) :
    After tod a.wall (candidate tod a).wall := by
  unfold candidate microsPerDay at *
  refine ⟨⟨?_, ?_⟩, fun c hc => ?_⟩
  · unfold Scheduled microsPerDay
    dsimp only
    split <;> dsimp only <;> omega
  · dsimp only
    split <;> dsimp only <;> omega
  · obtain ⟨hmod, hlt⟩ := hc
    unfold Scheduled microsPerDay at hmod
    dsimp only
    split <;> dsimp only <;> omega

/-- The `fold` of now lasts for the day. -/
theorem candidate_fold (htod : 0 ≤ tod ∧ tod < microsPerDay) (a : Aware) :
    (candidate tod a).fold = true ↔
      a.fold = true ∧ (candidate tod a).wall / microsPerDay = a.wall / microsPerDay := by
  unfold candidate microsPerDay at *
  dsimp only
  split
  · simp only [Bool.false_eq_true, false_iff, not_and]
    omega
  · simp only [iff_self_and]
    omega

/-- `nextRun` from the first scheduled time after now, however that is found. -/
theorem nextRun_eq {tz : Zone} {now : Int} (htod : 0 ≤ tod ∧ tod < microsPerDay)
    (hc : After tod (tz.toLocal now) c) :
    nextRun tz tod now =
      if tz.fold now = true ∧ c / microsPerDay = tz.toLocal now / microsPerDay then c - tz.fold1 c
      else c - tz.fold0 c := by
  have hwall : (candidateAt tz tod now).wall = c :=
    (candidate_after htod ⟨tz.toLocal now, tz.fold now⟩).unique hc
  have hfold : (candidateAt tz tod now).fold = true ↔ tz.fold now = true ∧
      (candidateAt tz tod now).wall / microsPerDay = tz.toLocal now / microsPerDay :=
    candidate_fold htod ⟨tz.toLocal now, tz.fold now⟩
  unfold nextRun Aware.utcoffset
  rw [hwall] at hfold ⊢
  by_cases hf : (candidateAt tz tod now).fold = true
  · rw [if_pos hf, if_pos (hfold.mp hf)]
  · rw [if_neg hf, if_neg (fun h => hf (hfold.mpr h))]

theorem exists_after (htod : 0 ≤ tod ∧ tod < microsPerDay) (t : Int) : ∃ c, After tod t c :=
  ⟨_, candidate_after htod ⟨t, false⟩⟩

end

/-! ## When the announcement holds -/

/-- What is announced at these instants lies ahead, and stays until it is reached. -/
def AnnouncedAt (P : Int → Prop) (next : Int → Int) : Prop :=
  ∀ n m, P n → P m → n ≤ m → n < next n ∧ (m < next n → next m = next n)

/-- At all instants. -/
def Announced (next : Int → Int) : Prop :=
  ∀ n m, n ≤ m → n < next n ∧ (m < next n → next m = next n)

/-- The same for what `_next_run_utc` returns. -/
def Announces {Trigger : Type} (L : Libraries Zone Trigger) (cfg : Config) : Prop :=
  ∀ n m a b, n ≤ m → nextRunUtc L cfg n = .ok (some a) → nextRunUtc L cfg m = .ok (some b) →
    n < a ∧ (m < a → b = a)

theorem Announced.monotone {next : Int → Int} (h : Announced next) : Monotone next := by
  intro n m hnm
  by_cases hlt : m < next n
  · exact ((h n m hnm).2 hlt).ge
  · have hm := (h m m le_rfl).1
    omega

theorem announced_of_step {next : Int → Int} (hlt : ∀ n, n < next n)
    (hstep : ∀ n, n + 1 < next n → next (n + 1) = next n) : Announced next := by
  intro n m hnm
  refine ⟨hlt n, fun hm => ?_⟩
  obtain ⟨k, rfl⟩ := Int.le.dest hnm
  induction k with
  | zero => rw [Int.natCast_zero, add_zero]
  | succ k ih =>
    rw [Int.natCast_succ, ← add_assoc] at hm ⊢
    have hk := ih (by omega) (by omega)
    rw [← hk]
    exact hstep _ (by rwa [hk])

/-- The transitions of the zone leave the scheduled time alone. -/
structure Steady (tz : Zone) (tod : Int) : Prop where
  /-- It is not in the middle of an interval that is repeated. -/
  repeated : ∀ j ∈ tz.jumps, j.Back → ∀ c, Scheduled tod c → ¬ (j.lo < c ∧ c < j.hi)
  /-- Where it is in the middle of one that is skipped, the next after that is the same instant. -/
  skipped : ∀ j ∈ tz.jumps, j.Forward → ∀ c c', After tod (j.lo - 1) c → After tod j.hi c' →
    j.lo < c → c < j.hi → c' - tz.fold0 c' = c - j.before
  /-- The first one after a repeated interval, on the day of its end, is not shifted. -/
  carried : ∀ j ∈ tz.jumps, j.Back → ∀ c, After tod (j.hi - 1) c →
    c / microsPerDay = (j.hi - 1) / microsPerDay → ∀ i ∈ tz.jumps, ¬ i.Shifts c

section
variable {tz : Zone} {tod n c : Int}

section
variable (hz : tz.Regular) (htod : 0 ≤ tod ∧ tod < microsPerDay) (hs : Steady tz tod)
include hz htod hs

/-- A `fold` that is carried does not matter. -/
theorem Steady.nextRun_eq (hc : After tod (tz.toLocal n) c) :
    nextRun tz tod n = c - tz.fold0 c := by
  rw [NextRun.nextRun_eq htod hc]
  split
  · rename_i hcarried
    obtain ⟨hfold, hday⟩ := hcarried
    obtain ⟨v, hv, hlocal⟩ := (fold_eq_true_iff hz).mp hfold
    obtain ⟨j, hj, hback, -, -, hlo, hhi⟩ := exists_back_of_le hz hv hlocal.ge
    rw [hlocal] at hlo hhi
    have hlt := hc.1.2
    have hafter : j.hi ≤ c := by
      have := hs.repeated j hj hback c hc.1.1
      omega
    have hend : c / microsPerDay = (j.hi - 1) / microsPerDay := by
      unfold microsPerDay at hday ⊢
      omega
    rw [fold1_of_not_shifts (hs.carried j hj hback c (hc.of_le (by omega) (by omega)) hend)]
  · rfl

theorem Steady.lt_nextRun (n : Int) : n < nextRun tz tod n := by
  obtain ⟨c, hc⟩ := exists_after htod (tz.toLocal n)
  rw [hs.nextRun_eq hz htod hc]
  exact lt_fold0_of_lt hz (fun j hj hback => hs.repeated j hj hback c hc.1.1) hc.1.2

/-- The clock goes on by one, falls back or springs forward; in each case the next
scheduled time is still the same instant. -/
theorem Steady.nextRun_succ (hlt : n + 1 < nextRun tz tod n) :
    nextRun tz tod (n + 1) = nextRun tz tod n := by
  obtain ⟨c, hc⟩ := exists_after htod (tz.toLocal n)
  have hnc := hc.1.2
  rw [hs.nextRun_eq hz htod hc] at hlt ⊢
  -- the scheduled time is not reached in this step
  have hne : tz.toLocal (n + 1) ≠ c := by
    intro hreached
    have := fold0_le hz hreached
    omega
  rcases toLocal_succ hz n with ⟨j, hj, htime, hbefore, hafter⟩ | hsucc
  · rcases lt_trichotomy j.after j.before with hback | hsame | hforward
    · have hback : j.Back := hback
      have hlo := hback.lo_eq
      have hhi := hback.hi_eq
      have hrepeated := hs.repeated j hj hback
      have hc' : After tod (tz.toLocal (n + 1)) c := by
        refine ⟨⟨hc.1.1, ?_⟩, fun d hd => hc.2 ⟨hd.1, ?_⟩⟩
        · omega
        · have := hrepeated d hd.1
          have := hd.2
          omega
      exact hs.nextRun_eq hz htod hc'
    · exact hs.nextRun_eq hz htod (hc.of_le (by omega) (by omega))
    · have hforward : j.Forward := hforward
      have hlo := hforward.lo_eq
      have hhi := hforward.hi_eq
      by_cases hskipped : c < j.hi
      · have hbefore0 : tz.fold0 c = j.before := fold0_of_shifts hz hj ⟨by omega, hskipped⟩
        obtain ⟨c', hc'⟩ := exists_after htod j.hi
        have hlocal : tz.toLocal (n + 1) = j.hi := by omega
        rw [hs.nextRun_eq hz htod (hlocal ▸ hc'), hbefore0]
        refine hs.skipped j hj hforward c c' ?_ hc' ?_ hskipped
        · exact hc.of_le (by omega) (by omega)
        · omega
      · exact hs.nextRun_eq hz htod (hc.of_le (by omega) (by omega))
  · exact hs.nextRun_eq hz htod (hc.of_le (by omega) (by omega))

theorem Steady.announced : Announced (nextRun tz tod) :=
  announced_of_step (hs.lt_nextRun hz htod) fun _ => hs.nextRun_succ hz htod

end

section
variable {P : Int → Prop} (hz : tz.Regular) (htod : 0 ≤ tod ∧ tod < microsPerDay)
  (h : AnnouncedAt P (nextRun tz tod)) {j : Jump} (hj : j ∈ tz.jumps) (hp : P (j.time - 1))
include hz htod h hj hp

/-- The instant before a jump back announces the first scheduled time that comes after the
repeated ones, and it is not reached at the jump. -/
theorem AnnouncedAt.before_back (hback : j.Back) (hc : After tod (j.hi - 1) c) :
    nextRun tz tod (j.time - 1) = c - tz.fold0 c ∧ j.time < c - tz.fold0 c := by
  have hlo := hback.lo_eq
  have hhi := hback.hi_eq
  have hlt := hback.lt
  obtain ⟨hafter, hbefore⟩ := toLocal_jump hz hj
  have hlocal : tz.toLocal (j.time - 1) = j.hi - 1 := by omega
  have hnext : nextRun tz tod (j.time - 1) = c - tz.fold0 c := by
    rw [nextRun_eq htod (hlocal.symm ▸ hc), fold_before_back hz hj hback]
    exact if_neg fun hcarried => Bool.false_ne_true hcarried.1
  have hahead := (h (j.time - 1) (j.time - 1) hp hp le_rfl).1
  have hlate := le_toLocal_fold0 hz c
  have hcn := hc.1.2
  refine ⟨hnext, lt_of_le_of_ne (by omega) fun heq => ?_⟩
  rw [← heq] at hlate
  omega

theorem AnnouncedAt.not_repeated (hback : j.Back) (hp' : P j.time) (hscheduled : Scheduled tod c) :
    ¬ (j.lo < c ∧ c < j.hi) := by
  intro hmiddle
  have hlo := hback.lo_eq
  have hhi := hback.hi_eq
  obtain ⟨hafter, -⟩ := toLocal_jump hz hj
  have hlocal : tz.toLocal j.time = j.lo := by omega
  obtain ⟨d, hd⟩ := exists_after htod (j.hi - 1)
  obtain ⟨hnext, hlt⟩ := h.before_back hz htod hj hp hback hd
  have hlate := le_toLocal_fold0 hz d
  have hdn := hd.1.2
  -- in the second pass the first scheduled time in the middle is announced instead
  obtain ⟨e, he⟩ := exists_after htod j.lo
  have hlow := he.1.2
  have hec := he.2 ⟨hscheduled, hmiddle.1⟩
  have hshift : j.Shifts e := ⟨by omega, by omega⟩
  have hsame := (h (j.time - 1) j.time hp hp' (by omega)).2 (by omega)
  rw [hnext, nextRun_eq htod (hlocal.symm ▸ he), fold0_of_shifts hz hj hshift,
    fold1_of_shifts hz hj hshift] at hsame
  split at hsame
  · have hsecond := @toLocal_second_pass tz (e - j.after) j hz hj hback (by omega) (by omega)
    rw [hsame] at hsecond
    omega
  · omega

theorem AnnouncedAt.skipped (hforward : j.Forward) (hp' : P j.time) {c' : Int}
    (hc : After tod (j.lo - 1) c) (hc' : After tod j.hi c') (hlow : j.lo < c) (hhigh : c < j.hi) :
    c' - tz.fold0 c' = c - j.before := by
  have hlo := hforward.lo_eq
  have hhi := hforward.hi_eq
  obtain ⟨hafter, hbefore⟩ := toLocal_jump hz hj
  have hlocal : tz.toLocal (j.time - 1) = j.lo - 1 := by omega
  have hlocal' : tz.toLocal j.time = j.hi := by omega
  have hshift : j.Shifts c := ⟨by omega, hhigh⟩
  obtain ⟨hahead, hstay⟩ := h (j.time - 1) j.time hp hp' (by omega)
  rw [nextRun_eq htod (hlocal.symm ▸ hc), fold0_of_shifts hz hj hshift,
    fold1_of_shifts hz hj hshift] at hahead hstay
  split at hahead
  · omega
  · rename_i hcarried
    rw [if_neg hcarried, nextRun_eq htod (hlocal'.symm ▸ hc'),
      fold_after_forward hz hj hforward,
      if_neg fun hcarried => Bool.false_ne_true hcarried.1] at hstay
    exact hstay (by omega)

theorem AnnouncedAt.not_carried (hback : j.Back) (hp' : P (j.hi - j.after - 1))
    (hc : After tod (j.hi - 1) c)
    (hday : c / microsPerDay = (j.hi - 1) / microsPerDay) {i : Jump} (hi : i ∈ tz.jumps) :
    ¬ i.Shifts c := by
  intro hshift
  have hlo := hback.lo_eq
  have hhi := hback.hi_eq
  have hlt := hback.lt
  obtain ⟨-, hbefore⟩ := toLocal_jump hz hj
  obtain ⟨hnext, hltx⟩ := h.before_back hz htod hj hp hback hc
  have hlate := le_toLocal_fold0 hz c
  have hcn := hc.1.2
  -- the last instant of the second pass
  have hlast := @toLocal_second_pass tz (j.hi - j.after - 1) j hz hj hback (by omega) (by omega)
  have hlocal : tz.toLocal (j.hi - j.after - 1) = j.hi - 1 := by omega
  have hfold : tz.fold (j.hi - j.after - 1) = true :=
    (fold_eq_true_iff hz).mpr ⟨j.time - 1, by omega, by omega⟩
  have hahead : j.hi - j.after - 1 < c - tz.fold0 c := by
    by_contra hle
    have hsecond := @toLocal_second_pass tz (c - tz.fold0 c) j hz hj hback (by omega) (by omega)
    omega
  have hsame := (h (j.time - 1) (j.hi - j.after - 1) hp hp' (by omega)).2 (by omega)
  rw [hnext, nextRun_eq htod (hlocal.symm ▸ hc), hlocal, if_pos ⟨hfold, hday⟩,
    fold0_of_shifts hz hi hshift, fold1_of_shifts hz hi hshift] at hsame
  -- an interval has two different offsets
  obtain ⟨hilo, hihi⟩ := hshift
  unfold Jump.lo at hilo
  unfold Jump.hi at hihi
  omega

end

/-- Around the jumps of the zone. -/
def AroundJumps (tz : Zone) (P : Int → Prop) : Prop :=
  ∀ j ∈ tz.jumps, P (j.time - 1) ∧ P j.time ∧ (j.Back → P (j.hi - j.after - 1))

theorem AnnouncedAt.steady {P : Int → Prop} (hz : tz.Regular)
    (htod : 0 ≤ tod ∧ tod < microsPerDay) (hjumps : AroundJumps tz P)
    (h : AnnouncedAt P (nextRun tz tod)) : Steady tz tod where
  repeated j hj hback _ hc :=
    h.not_repeated hz htod hj (hjumps j hj).1 hback (hjumps j hj).2.1 hc
  skipped j hj hforward _ _ hc hc' :=
    h.skipped hz htod hj (hjumps j hj).1 hforward (hjumps j hj).2.1 hc hc'
  carried j hj hback _ hc hday _ hi :=
    h.not_carried hz htod hj (hjumps j hj).1 hback ((hjumps j hj).2.2 hback) hc hday hi

theorem announced_iff (hz : tz.Regular) (htod : 0 ≤ tod ∧ tod < microsPerDay) :
    Announced (nextRun tz tod) ↔ Steady tz tod := by
  refine ⟨fun h => ?_, fun h => h.announced hz htod⟩
  have hat : AnnouncedAt (fun _ => True) (nextRun tz tod) := fun n m _ _ => h n m
  exact hat.steady hz htod fun _ _ => ⟨trivial, trivial, fun _ => trivial⟩

/-- A time of day that no transition repeats or skips is steady. -/
theorem steady_of_not_shifts (h : ∀ c, Scheduled tod c → ∀ j ∈ tz.jumps, ¬ j.Shifts c) :
    Steady tz tod where
  repeated j hj _ c hc hmiddle := h c hc j hj ⟨hmiddle.1.le, hmiddle.2⟩
  skipped j hj _ c _ hc _ hlow hhigh := absurd ⟨hlow.le, hhigh⟩ (h c hc.1.1 j hj)
  carried _ _ _ c hc _ i hi := h c hc.1.1 i hi

end

/-- Where the calendar can represent it, `_next_run_utc` is `nextRun`. That is ahead of now
and stays until it is reached exactly when the zone is steady at the time of day, and then
it never goes back. What `_next_run_utc` returns says the same of every zone whose
transitions the calendar can represent. -/
theorem nextRunUtc_announced_iff {Trigger : Type} (L : Libraries Zone Trigger) {cfg : Config}
    {h m : Int} {tz : Zone} (hparse : parseTime L cfg.scheduleLocal = .ok (h, m))
    (hvalid : (0 ≤ h ∧ h ≤ 23) ∧ 0 ≤ m ∧ m ≤ 59)
    (hzone : L.zoneInfo cfg.operatorTimezone = .ok tz) (hz : tz.Regular) :
    (∀ now u, nextRunUtc L cfg now = .ok (some u) ↔
      Represented tz (timeOfDay h m) now ∧ u = nextRun tz (timeOfDay h m) now) ∧
    (Announced (nextRun tz (timeOfDay h m)) ↔ Steady tz (timeOfDay h m)) ∧
    (Steady tz (timeOfDay h m) → Announces L cfg ∧ Monotone (nextRun tz (timeOfDay h m))) ∧
    (AroundJumps tz (Represented tz (timeOfDay h m)) → Announces L cfg →
      Steady tz (timeOfDay h m)) := by
  have hok := fun now u => @nextRunUtc_eq_ok _ L cfg h m tz hparse hvalid hzone now u
  have htod := timeOfDay_range hvalid
  have hiff := @announced_iff tz (timeOfDay h m) hz htod
  refine ⟨hok, hiff, fun hs => ⟨fun n n' a b hle ha hb => ?_, (hiff.mpr hs).monotone⟩,
    fun hjumps hreturns => ?_⟩
  · obtain ⟨-, ha⟩ := (hok n a).mp ha
    obtain ⟨-, hb⟩ := (hok n' b).mp hb
    rw [ha, hb]
    exact hiff.mpr hs n n' hle
  · have hat : AnnouncedAt (Represented tz (timeOfDay h m)) (nextRun tz (timeOfDay h m)) :=
      fun n n' hn hn' hle =>
        hreturns n n' _ _ hle ((hok n _).mpr ⟨hn, rfl⟩) ((hok n' _).mpr ⟨hn', rfl⟩)
    exact hat.steady hz htod hjumps

def scheduledAt (time : String) : Config :=
  { someConfig with operatorTimezone := "America/New_York", scheduleLocal := time }

/-- At six the clocks of New York leave the schedule alone. -/
theorem nextRunUtc_announced_iff_morning :
    Announced (nextRun newYork (timeOfDay 6 0)) ∧
      nextRunUtc newYorkLibraries (scheduledAt "06:00") 1772953199999999 =
        .ok (some 1772964000000000) ∧
      (Announces newYorkLibraries (scheduledAt "06:00") ↔ Steady newYork (timeOfDay 6 0)) := by
  obtain ⟨hok, hiff, hsteady, hreturns⟩ := @nextRunUtc_announced_iff _ newYorkLibraries
    (scheduledAt "06:00") 6 0 newYork (by decide) (by decide) newYorkLibraries_zone newYork_regular
  refine ⟨hiff.mpr (steady_of_not_shifts fun c hc j hj hshift => ?_),
    (hok _ _).mpr ⟨⟨by decide, by decide, by decide⟩, by decide⟩,
    hreturns fun j hj => ?_, fun hs => (hsteady hs).1⟩
  · obtain ⟨hlo, hhi⟩ := hshift
    unfold Scheduled timeOfDay microsPerDay at hc
    unfold Jump.lo at hlo
    unfold Jump.hi at hhi
    rcases List.mem_cons.mp hj with rfl | hj
    · simp only [newYork] at hlo hhi
      omega
    · rw [List.mem_singleton.mp hj] at hlo hhi
      simp only at hlo hhi
      omega
  · rcases List.mem_cons.mp hj with rfl | hj
    · exact ⟨⟨by decide, by decide, by decide⟩, ⟨by decide, by decide, by decide⟩,
        fun _ => ⟨by decide, by decide, by decide⟩⟩
    · rw [List.mem_singleton.mp hj]
      exact ⟨⟨by decide, by decide, by decide⟩, ⟨by decide, by decide, by decide⟩,
        fun _ => ⟨by decide, by decide, by decide⟩⟩

/-! ## Half past two on the 8th of March -/

/-- Before the gap the run of half past two is announced for half past three, and right
after the gap for the next day. -/
theorem not_announces_gap : ¬ Announces newYorkLibraries (scheduledAt "02:30") := by
  intro h
  have hok := fun now u => @nextRunUtc_eq_ok _ newYorkLibraries (scheduledAt "02:30") 2 30 newYork
    (by decide) (by decide) newYorkLibraries_zone now u
  have hbefore := (hok 1772953199999999 1772955000000000).mpr
    ⟨⟨by decide, by decide, by decide⟩, by decide⟩
  have hafter := (hok 1772953200000000 1773037800000000).mpr
    ⟨⟨by decide, by decide, by decide⟩, by decide⟩
  have hsame := (h _ _ _ _ (by decide) hbefore hafter).2 (by decide)
  revert hsame
  decide

end Bluewave.NextRun
