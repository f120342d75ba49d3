import Bluewave.Auth
import Bluewave.CatchupWindow
import Bluewave.DailyFire
import Bluewave.DateText

/-! The requests that start runs, `POST /run` and `POST /run/catchup`, beside the daily
job and the catch-up at boot. All four count from the operator's calendar, and all four
stop at yesterday: whatever order they and the worker come in, no run is called for a
day that was not over when it was accepted. -/
namespace Bluewave.RunRequests
open Lib Bluewave.Auth Bluewave.DailyFire Bluewave.DateText Bluewave.Exceptions
open Bluewave.Numerals Bluewave.Orchestrator Bluewave.RunHistory Bluewave.SingleFlight
open Bluewave.Tables Bluewave.CatchupWindow

/-- What a handler reads from outside. -/
structure Surroundings where
  load : Except Exn (Option Config)
  zoneInfo : String → Except Exn Zone
  now : Int

/-- Any exception but an `HTTPException`. -/
def unhandled {α : Type} : Except Exn α → Except Failure α
  | .ok a => .ok a
  | .error _ => .error internalServerError

/-- `cfg = store.load()`, and the 409 without one. -/
def configured (w : Surroundings) : Except Failure Config := do
  match ← unhandled w.load with
  | none => .error ⟨409, "unconfigured", []⟩
  | some cfg => pure cfg

def utc : Zone := ⟨0, []⟩

/-- `_today_local`. -/
def todayIn (w : Surroundings) : Option Config → Except Exn Date
  | some cfg => do
    let tz ← w.zoneInfo cfg.operatorTimezone
    todayLocal tz w.now
  | none => todayLocal utc w.now

/-- `report_date` of the body, yesterday when it is left out. -/
def reportDate (today : Date) : Option String → Except Failure Date
  | none => unhandled (today.minusDays 1)
  | some text =>
    match strptimeDate? text with
    | some d => .ok d
    | none => .error ⟨400, "report_date must be YYYY-MM-DD", []⟩

/-- The first checks of `post_run` and `post_dry_run`; `purpose` ends the text of the
second one. They give today and the date asked for. -/
def pastDate (purpose : String) (w : Surroundings) (body : Option String) :
    Except Failure (Date × Date) := do
  let cfg ← configured w
  let today ← unhandled (todayIn w (some cfg))
  let d ← reportDate today body
  if today ≤ d then
    .error ⟨400, "report_date " ++ strDate d ++ " is today or future; " ++ purpose, []⟩
  else pure (today, d)

/-- `int(os.environ.get("BACKFILL_SAFETY_CAP_DAYS", "365"))`. -/
def safetyCap (env : Option String) : Except Exn Int :=
  match int? (env.getD "365") with
  | some n => .ok n
  | none => .error (valueError "invalid literal for int() with base 10")

/-- `post_run` up to `try_enqueue`. -/
def requestedRun (cap : Option String) (w : Surroundings) (body : Option String) :
    Except Failure Date := do
  let (today, d) ← pastDate "manual runs only support past dates (spec L18)" w body
  let cap ← unhandled (safetyCap cap)
  if (today.ordinal : Int) - d.ordinal > cap then
    .error ⟨400, "report_date older than " ++ toString cap ++ "-day safety cap", []⟩
  else pure d

/-- The 202 of `post_run`. -/
structure Enqueued where
  reportDate : String
  queueDepth : Nat

/-- `post_run`; `cap` is the environment variable. -/
def postRun (cap : Option String) (w : Surroundings) (body : Option String) (s : State) :
    Except Failure Enqueued × State :=
  match requestedRun cap w body with
  | .error f => (.error f, s)
  | .ok d =>
    let (result, s') := s.tryEnqueue d true
    if result.accepted then (.ok ⟨strDate d, result.queueDepth⟩, s')
    else (.error ⟨409, "run not accepted: " ++ result.reason, []⟩, s')

/-- `post_dry_run`, up to the call of `dry_run`. -/
def requestedDryRun (w : Surroundings) (body : Option String) : Except Failure Date :=
  (pastDate "dry-run only supports past dates" w body).map Prod.snd

/-- The 202 of `post_catchup`. -/
structure CaughtUp where
  enqueued : List String
  skippedAlreadyQueued : List String

/-- `post_catchup`. -/
def postCatchup (w : Surroundings) (r : Reads) (db : Db) (s : State) :
    Except Failure CaughtUp × State :=
  match configured w with
  | .error f => (.error f, s)
  | .ok cfg =>
    match todayIn w (some cfg) with
    | .error _ => (.error internalServerError, s)
    | .ok today =>
      match catchupMissing r db today cfg.catchUpCapDays s with
      | (.ok (enqueued, skipped), s') => (.ok ⟨enqueued.map strDate, skipped.map strDate⟩, s')
      | (.error _, s') => (.error internalServerError, s')

/-! ## One request -/

/-- The request asks for this date, which is over and within the cap. -/
def Requested (cap : Option String) (w : Surroundings) (body : Option String) (d : Date) : Prop :=
  ∃ cfg today n, w.load = .ok (some cfg) ∧ todayIn w (some cfg) = .ok today ∧
    (match body with
      | none => today.minusDays 1 = .ok d
      | some text => strptimeDate? text = some d) ∧
    d.ordinal < today.ordinal ∧ int? (cap.getD "365") = some n ∧
    (today.ordinal : Int) - d.ordinal ≤ n

section
variable {cap : Option String} {w : Surroundings} {body : Option String} {d today : Date}
  {s : State}

theorem unhandled_eq_ok {α : Type} {x : Except Exn α} {a : α} :
    unhandled x = .ok a ↔ x = .ok a := by
  cases x <;> simp [unhandled]

theorem configured_eq_ok {cfg : Config} : configured w = .ok cfg ↔ w.load = .ok (some cfg) := by
  unfold configured
  rcases w.load with e | _ | cfg' <;> simp [unhandled, bind, Except.bind, pure, Except.pure]

theorem reportDate_eq_ok : reportDate today body = .ok d ↔
    match body with
    | none => today.minusDays 1 = .ok d
    | some text => strptimeDate? text = some d := by
  rcases body with _ | text
  · exact unhandled_eq_ok
  · cases hparse : strptimeDate? text <;> simp [reportDate, hparse]

theorem pastDate_eq_ok {purpose : String} :
    pastDate purpose w body = .ok (today, d) ↔ ∃ cfg, w.load = .ok (some cfg) ∧
      todayIn w (some cfg) = .ok today ∧ reportDate today body = .ok d ∧
      d.ordinal < today.ordinal := by
  have hle : ∀ t e : Date, t ≤ e ↔ ¬ e.ordinal < t.ordinal := fun t e => Nat.not_lt.symm
  simp only [pastDate, Result.bind_eq_ok, configured_eq_ok, unhandled_eq_ok]
  constructor
  · rintro ⟨cfg, hcfg, t, ht, e, he, hguard⟩
    split at hguard
    · cases hguard
    · rename_i hnot
      cases hguard
      exact ⟨cfg, hcfg, ht, he, by rwa [hle, not_not] at hnot⟩
  · rintro ⟨cfg, hcfg, ht, he, hlt⟩
    exact ⟨cfg, hcfg, today, ht, d, he, by rw [if_neg (by rwa [hle, not_not])]; rfl⟩

/-- The checks let a date through exactly when the request asks for it. -/
theorem requestedRun_eq_ok : requestedRun cap w body = .ok d ↔ Requested cap w body d := by
  have hcap : ∀ n, safetyCap cap = .ok n ↔ int? (cap.getD "365") = some n := by
    intro n
    cases h : int? (cap.getD "365") <;> simp [safetyCap, h]
  simp only [requestedRun, Result.bind_eq_ok, unhandled_eq_ok, hcap]
  constructor
  · rintro ⟨⟨today, e⟩, hpast, n, hn, hguard⟩
    obtain ⟨cfg, hcfg, htoday, hdate, hlt⟩ := pastDate_eq_ok.mp hpast
    dsimp only at hguard
    split at hguard
    · cases hguard
    · cases hguard
      exact ⟨cfg, today, n, hcfg, htoday, reportDate_eq_ok.mp hdate, hlt, hn, by omega⟩
  · rintro ⟨cfg, today, n, hcfg, htoday, hdate, hlt, hn, hle⟩
    refine ⟨(today, d), pastDate_eq_ok.mpr ⟨cfg, hcfg, htoday, reportDate_eq_ok.mpr hdate, hlt⟩,
      n, hn, ?_⟩
    dsimp only
    rw [if_neg (by omega)]
    rfl

theorem postRun_accepted (h : Requested cap w body d) (hnew : s.known d = false) :
    postRun cap w body s = (.ok ⟨strDate d, s.queue.length + 1⟩, s.enqueue [(d, true)]) := by
  have hstate : s.enqueue [(d, true)] = (s.append (d, true)).ensureWorkerLocked := rfl
  rw [postRun, requestedRun_eq_ok.mpr h]
  simp [State.tryEnqueue, hnew, hstate, State.append]

theorem postRun_known (h : Requested cap w body d) (hknown : s.known d = true) :
    postRun cap w body s = (.error ⟨409, "run not accepted: already_queued", []⟩, s) := by
  rw [postRun, requestedRun_eq_ok.mpr h]
  simp [State.tryEnqueue, hknown]

theorem postRun_refused (h : ¬ ∃ d, Requested cap w body d) :
    ∃ f, postRun cap w body s = (.error f, s) := by
  rw [postRun]
  cases hreq : requestedRun cap w body with
  | error f => exact ⟨f, rfl⟩
  | ok d => exact (h ⟨d, requestedRun_eq_ok.mp hreq⟩).elim

/-- A request is accepted exactly when it asks for a date that is over, within the cap and
not known to the queue; otherwise nothing changes. Its answer names the date so that, as long
as the run is queued or under way, asking for what the answer says is refused. -/
theorem postRun_once (cap : Option String) (w : Surroundings) (body : Option String) (s : State)
    (h : Reached s) :
    ((∃ d, Requested cap w body d ∧ s.known d = false) ∨
      ∃ f, postRun cap w body s = (.error f, s)) ∧
    ∀ d, Requested cap w body d → s.known d = false → ∃ answer s',
      postRun cap w body s = (.ok answer, s') ∧ s'.accepted = s.accepted ++ [(d, true)] ∧
      ∀ later, Reachable (· = s') Orchestrator.step (Holding [d]) later →
        ∀ w' d', Requested cap w' (some answer.reportDate) d' →
          postRun cap w' (some answer.reportDate) later =
            (.error ⟨409, "run not accepted: already_queued", []⟩, later) := by
  constructor
  · by_cases hreq : ∃ d, Requested cap w body d
    · obtain ⟨d, hd⟩ := hreq
      cases hk : s.known d with
      | false => exact .inl ⟨d, hd, hk⟩
      | true => exact .inr ⟨_, postRun_known hd hk⟩
    · exact .inr (postRun_refused hreq)
  · intro d hd hnew
    refine ⟨_, _, postRun_accepted hd hnew, accepted_enqueue s _, fun later hlater w' d' hd' => ?_⟩
    -- the text of the answer is read as the date of the run
    have hsame : d' = d := by
      obtain ⟨_, _, _, _, _, hparse, _⟩ := hd'
      exact Option.some.inj (hparse.symm.trans (strptimeDate?_strDate d))
    have hinv : Inv (s.enqueue [(d, true)]) := by
      have hstep := h.inv.enqueue (.tryEnqueue d true)
      rwa [appended, hnew] at hstep
    have hknown : (s.enqueue [(d, true)]).known d = true := by
      rw [State.known_iff, queue_enqueue]
      exact .inr (by simp)
    have hall : ∀ e ∈ [d], (s.enqueue [(d, true)]).known e = true := by simpa using hknown
    have hstill := (known_run hinv hall hlater).2 d (List.mem_singleton_self d)
    exact postRun_known (hsame ▸ hd') (hsame ▸ hstill)

end

/-- The 1st of May 2026 at 06:00 UTC, with an operator in UTC. -/
def firstOfMay : Surroundings where
  load := .ok (some RunJob.someConfig)
  zoneInfo _ := .ok utc
  now := 1777615200000000

/-- A request without a date is for the 30th of April. -/
theorem postRun_once_yesterday : ∃ answer s',
    postRun none firstOfMay none initial = (.ok answer, s') ∧ answer.reportDate = "2026-04-30" ∧
      ∀ w' d', Requested none w' (some answer.reportDate) d' →
        postRun none w' (some answer.reportDate) s' =
          (.error ⟨409, "run not accepted: already_queued", []⟩, s') := by
  have hreq : requestedRun none firstOfMay none = .ok ⟨739736, by decide, by decide⟩ := by decide
  obtain ⟨answer, s', hok, -, hagain⟩ := (postRun_once none firstOfMay none initial (.start rfl)).2
    _ (requestedRun_eq_ok.mp hreq) rfl
  have hanswer := hok.symm.trans (postRun_accepted (requestedRun_eq_ok.mp hreq) rfl)
  refine ⟨answer, s', hok, ?_, fun w' d' hd' => hagain s' (.start rfl) w' d' hd'⟩
  cases hanswer
  decide

/-! ## All sources of runs -/

/-- What appends to the queue, and what the worker does. -/
inductive Event where
  | postRun (w : Surroundings) (body : Option String)
  | postCatchup (w : Surroundings) (r : Reads) (db : Db)
  /-- `_fire` -/
  | fire (tz : Zone) (now : Int)
  /-- `_boot_catchup` -/
  | bootCatchup (tz : Zone) (now capDays : Int) (r : Reads) (db : Db)
  /-- a thread step, or the shutdown -/
  | worker (a : Action)

/-- The operator's calendar day, as the event reads it. -/
def Event.today? : Event → Option Date
  | .postRun w _ | .postCatchup w _ _ =>
    match w.load with
    | .ok (some cfg) => (todayIn w (some cfg)).toOption
    | _ => none
  | .fire tz now | .bootCatchup tz now _ _ _ => (todayLocal tz now).toOption
  | _ => none

/-- The queue after an event; what `_fire` and `_boot_catchup` raise is logged. -/
def Event.run (cap : Option String) (s : State) : Event → Option State
  | .postRun w body => some (RunRequests.postRun cap w body s).2
  | .postCatchup w r db => some (RunRequests.postCatchup w r db s).2
  | .fire tz now =>
    match DailyFire.fire tz now s with
    | .ok (_, s') => some s'
    | .error _ => some s
  | .bootCatchup tz now capDays r db =>
    match todayLocal tz now with
    | .ok today => some (catchupMissing r db today capDays s).2
    | .error _ => some s
  | .worker (.tryEnqueue ..) | .worker (.catchup ..) => none
  | .worker a => Orchestrator.step s a

/-- The orchestrator and, for the statements only, the accepted runs with the day each was
accepted on. -/
structure World where
  orch : State
  admitted : List ((Date × Bool) × Date)

def step (cap : Option String) (s : World) (e : Event) : Option World :=
  (e.run cap s.orch).map fun orch => {
    orch
    admitted := s.admitted ++ match e.today? with
      | some today => (orch.accepted.drop s.orch.accepted.length).map fun run => (run, today)
      | none => [] }

/-- The run is for a day before `today`, and if it is manual for one within the cap. -/
def Over (cap : Option String) (run : Date × Bool) (today : Date) : Prop :=
  run.1.ordinal < today.ordinal ∧
    (run.2 = true → ∃ n, int? (cap.getD "365") = some n ∧
      (today.ordinal : Int) - run.1.ordinal ≤ n)

/-- The event keeps the queue single-flight and accepts no run of a day that is not over. -/
def Admits (cap : Option String) (s : State) (today? : Option Date) (s' : State) : Prop :=
  Inv s' ∧ ∃ runs, s'.accepted = s.accepted ++ runs ∧
    (runs = [] ∨ ∃ today, today? = some today ∧ ∀ run ∈ runs, Over cap run today)

section
variable {cap : Option String} {s s' : State} {today : Date} {today? : Option Date}

theorem Admits.refl (h : Inv s) : Admits cap s today? s := ⟨h, [], by simp, .inl rfl⟩

theorem Admits.worker (h : Inv s) {a : Action} (hs : Orchestrator.step s a = some s')
    (ha : appended s a = []) : Admits cap s today? s' :=
  ⟨h.step hs, [], by rw [(Step.of_step hs).accepted, ha], .inl rfl⟩

theorem Admits.enqueue (h : Inv s) (a : Action)
    (hover : ∀ run ∈ appended s a, Over cap run today) :
    Admits cap s (some today) (s.enqueue (appended s a)) :=
  ⟨h.enqueue a, appended s a, accepted_enqueue s _, .inr ⟨today, rfl, hover⟩⟩

theorem over_tryEnqueue {d : Date} {manual : Bool} (h : Over cap (d, manual) today) :
    ∀ run ∈ appended s (.tryEnqueue d manual), Over cap run today := by
  intro run hrun
  simp only [appended] at hrun
  split at hrun
  · cases hrun
  · exact List.mem_singleton.mp hrun ▸ h

/-- The window of a catch-up ends yesterday. -/
theorem admits_catchupMissing (h : Inv s) (r : Reads) (db : Db) (capDays : Int) :
    Admits cap s (some today) (catchupMissing r db today capDays s).2 := by
  by_cases hanswered : Answered r ∧ ∃ e, today.minusDays capDays = .ok e
  · obtain ⟨hr, earliest, hearliest⟩ := hanswered
    obtain ⟨candidates, hwindow⟩ := window_of_earliest hearliest
    have hover : ∀ run ∈ appended s
        (.catchup (Runs.ingestedDates db.runs "Bluewave" earliest) today capDays),
        Over cap run today := by
      intro run hrun
      simp only [appended, hwindow] at hrun
      obtain ⟨d, hd, rfl⟩ := List.mem_map.mp hrun
      exact ⟨((mem_missing_iff hwindow).1.mp hd).1.2.1, fun h => by cases h⟩
    have hadmits := Admits.enqueue h _ hover
    rw [catchupMissing_answered hr hwindow]
    simpa only [appended, hwindow] using hadmits
  · rw [(catchupMissing_unanswered hanswered).2]
    exact .refl h

theorem admits_postRun (h : Inv s) (w : Surroundings) (body : Option String) :
    Admits cap s (Event.postRun w body).today? (postRun cap w body s).2 := by
  by_cases hreq : ∃ d, Requested cap w body d
  · obtain ⟨d, hd⟩ := hreq
    obtain ⟨cfg, today, n, hload, htoday, -, hlt, hn, hle⟩ := id hd
    have hday : (Event.postRun w body).today? = some today := by
      simp [Event.today?, hload, htoday, Except.toOption]
    rw [hday]
    have hover : Over cap (d, true) today := ⟨hlt, fun _ => ⟨n, hn, hle⟩⟩
    have hadmits := Admits.enqueue h (.tryEnqueue d true) (over_tryEnqueue hover)
    cases hk : s.known d with
    | true =>
      rw [postRun_known hd hk]
      exact .refl h
    | false =>
      rw [postRun_accepted hd hk]
      simpa [appended, hk] using hadmits
  · obtain ⟨f, hf⟩ := @postRun_refused cap w body s hreq
    rw [hf]
    exact .refl h

theorem admits_postCatchup (h : Inv s) (w : Surroundings) (r : Reads) (db : Db) :
    Admits cap s (Event.postCatchup w r db).today? (postCatchup w r db s).2 := by
  rw [postCatchup]
  cases hcfg : configured w with
  | error f => exact .refl h
  | ok cfg =>
    simp only
    cases htoday : todayIn w (some cfg) with
    | error e => exact .refl h
    | ok today =>
      have hday : (Event.postCatchup w r db).today? = some today := by
        simp [Event.today?, configured_eq_ok.mp hcfg, htoday, Except.toOption]
      have hadmits := @admits_catchupMissing cap s today h r db cfg.catchUpCapDays
      rw [hday]
      simp only
      rcases hmissing : catchupMissing r db today cfg.catchUpCapDays s with ⟨_ | _, s'⟩ <;>
        rwa [hmissing] at hadmits

theorem admits_fire (h : Inv s) (tz : Zone) (now : Int) {result : EnqueueResult}
    (hfire : DailyFire.fire tz now s = .ok (result, s')) :
    Admits cap s (Event.fire tz now).today? s' := by
  obtain ⟨d, hd, hret⟩ := Result.bind_eq_ok.mp hfire
  obtain ⟨today, htoday, hminus⟩ := Result.bind_eq_ok.mp hd
  have hday : (Event.fire tz now).today? = some today := by
    simp [Event.today?, htoday, Except.toOption]
  have hlt := minusDays_ok hminus
  obtain rfl : (s.tryEnqueue d false).2 = s' := congrArg Prod.snd (Except.ok.inj hret)
  rw [hday, s.tryEnqueue_eq d false]
  exact .enqueue h (.tryEnqueue d false) (over_tryEnqueue ⟨by simp only; omega, fun h => by cases h⟩)

theorem Event.admits (h : Inv s) {e : Event} (hs : e.run cap s = some s') :
    Admits cap s e.today? s' := by
  cases e with
  | postRun w body =>
    cases hs
    exact admits_postRun h w body
  | postCatchup w r db =>
    cases hs
    exact admits_postCatchup h w r db
  | fire tz now =>
    simp only [Event.run] at hs
    split at hs
    · rename_i hfire
      cases hs
      exact admits_fire h tz now hfire
    · cases hs
      exact .refl h
  | bootCatchup tz now capDays r db =>
    simp only [Event.run] at hs
    split at hs
    · rename_i today htoday
      cases hs
      have hday : (Event.bootCatchup tz now capDays r db).today? = some today := by
        simp [Event.today?, htoday, Except.toOption]
      exact hday ▸ admits_catchupMissing h r db capDays
    · cases hs
      exact .refl h
  | worker a =>
    cases a with
    | tryEnqueue | catchup => cases hs
    | checkShutdown i => exact .worker (a := .checkShutdown i) h hs rfl
    | takeNext i => exact .worker (a := .takeNext i) h hs rfl
    | callJob i => exact .worker (a := .callJob i) h hs rfl
    | jobEnds i outcome => exact .worker (a := .jobEnds i outcome) h hs rfl
    | clear i => exact .worker (a := .clear i) h hs rfl
    | dies i => exact .worker (a := .dies i) h hs rfl
    | shutdown => exact .worker (a := .shutdown) h hs rfl

end

/-- Every accepted run is on record with the day it was accepted on, which is later. -/
structure Past (cap : Option String) (s : World) : Prop where
  inv : Inv s.orch
  admitted : s.admitted.map Prod.fst = s.orch.accepted
  ended : ∀ e ∈ s.admitted, Over cap e.1 e.2

theorem Past.step {cap : Option String} {s s' : World} (h : Past cap s) {e : Event}
    (hs : RunRequests.step cap s e = some s') : Past cap s' := by
  obtain ⟨orch, horch, rfl⟩ := Option.map_eq_some_iff.mp hs
  obtain ⟨hinv, runs, hacc, hover⟩ := Event.admits h.inv horch
  have hdrop : orch.accepted.drop s.orch.accepted.length = runs := by rw [hacc]; simp
  refine ⟨hinv, ?_, ?_⟩
  · simp only [List.map_append, h.admitted, hacc, List.append_cancel_left_eq]
    rcases hover with rfl | ⟨today, htoday, -⟩
    · cases e.today? <;> simp
    · simp [htoday, Function.comp_def]
  · intro entry hentry
    rcases List.mem_append.mp hentry with hold | hnew
    · exact h.ended entry hold
    · rw [hdrop] at hnew
      rcases hover with rfl | ⟨today, htoday, hover⟩
      · cases htoday : e.today? <;> simp [htoday] at hnew
      · rw [htoday] at hnew
        obtain ⟨run, hrun, rfl⟩ := List.mem_map.mp hnew
        exact hover run hrun

/-- In every interleaving of requests, fires, catch-ups and the worker, at whatever times and
under whatever configurations: each call of the worker is for a run accepted on a day later
than its date, and a manual one for a date within the cap of that day. -/
theorem only_past_days (cap : Option String) (s : World)
    (h : Reachable (· = ⟨initial, []⟩) (step cap) Free s) :
    s.admitted.map Prod.fst = s.orch.accepted ∧
    ∀ call ∈ s.orch.calls, ∃ d manual today, call = (some d, manual) ∧
      ((d, manual), today) ∈ s.admitted ∧ d.ordinal < today.ordinal ∧
      (manual = true → ∃ n, int? (cap.getD "365") = some n ∧
        (today.ordinal : Int) - d.ordinal ≤ n) := by
  have hpast : Past cap s := h.invariant
    (by rintro _ rfl; exact ⟨inv_initial, rfl, by simp⟩) fun _ _ _ _ hp _ hs => hp.step hs
  refine ⟨hpast.admitted, fun call hcall => ?_⟩
  obtain ⟨run, -, hacc, hagree⟩ := hpast.inv.flight
  have hmem : ∃ r ∈ s.orch.accepted, call = (some r.1, r.2) := by
    rw [hacc]
    rcases hagree.calls with hcalls | hcalls <;> rw [hcalls] at hcall <;>
      obtain ⟨r, hr, rfl⟩ := List.mem_map.mp hcall
    · exact ⟨r, List.mem_append_left _ (List.mem_append_left _ hr), rfl⟩
    · exact ⟨r, List.mem_append_left _ hr, rfl⟩
  obtain ⟨⟨d, manual⟩, hr, rfl⟩ := hmem
  rw [← hpast.admitted] at hr
  obtain ⟨⟨_, today⟩, hentry, rfl⟩ := List.mem_map.mp hr
  obtain ⟨hlt, hcap⟩ := hpast.ended _ hentry
  exact ⟨d, manual, today, rfl, hentry, hlt, hcap⟩

/-- A request of the 1st of May, and the call it leads to. -/
theorem only_past_days_one : ∃ (s : World) (d today : Date), s.orch.calls = [(some d, true)] ∧
    ((d, true), today) ∈ s.admitted ∧ d.ordinal < today.ordinal := by
  have hrun : (runSchedule (step none) ⟨initial, []⟩ [.postRun firstOfMay none,
      .worker (.checkShutdown 0), .worker (.takeNext 0), .worker (.callJob 0)]).map
      (fun s => s.orch.calls.map Prod.snd) = some [true] := by decide
  obtain ⟨s, hs, hcalls⟩ := Option.map_eq_some_iff.mp hrun
  obtain ⟨call, hcall, hmanual⟩ := List.map_eq_singleton_iff.mp hcalls
  have hreached : Reachable (· = ⟨initial, []⟩) (step none) Free s :=
    Reachable.schedule (.start rfl) hs
  obtain ⟨d, manual, today, rfl, hentry, hlt, -⟩ := (only_past_days none s hreached).2 call
    (hcall ▸ List.mem_singleton_self call)
  obtain rfl : manual = true := hmanual
  exact ⟨s, d, today, hcall, hentry, hlt⟩

end Bluewave.RunRequests
