import Bluewave.NextRun
import Bluewave.RunRequests
import Bluewave.Web

/-! What a client without credentials can learn. The one endpoint open to it is
`/healthz`, and its body is made of the site label, the schedule with its zone, and the
length of the queue, or it is the 500 of a store that cannot be read. Two states of the
worker that agree on these answer every request without credentials alike, whatever it
asks for. -/
namespace Bluewave.Healthz
open Lib Bluewave.Auth Bluewave.Datetime Bluewave.Exceptions Bluewave.NextRun
open Bluewave.Orchestrator (initial)
open Bluewave.RunRequests (unhandled)
open Bluewave.Scheduler (Libraries)
open Bluewave.Web

/-- What the handler reads besides the store and the queue. `diskFreeMb` is `None` behind
an `OSError`. -/
structure Host where
  uptimeSeconds : Int
  diskFreeMb : Option Int
  version : String
  now : Int

/-- The three contents of the reply. -/
inductive Health where
  | unconfigured (uptimeSeconds : Int) (diskFreeMb : Option Int) (version : String)
  | degraded (reasons : List String) (uptimeSeconds : Int) (siteLabel operatorTz : String)
      (nextRunAtUtc : Option String) (diskFreeMb : Option Int) (catchupPending : Nat)
      (version : String)
  | ok (uptimeSeconds : Int) (siteLabel operatorTz : String) (nextRunAtUtc nextRunAtLocal :
      Option String) (catchupPending : Nat) (diskFreeMb : Option Int) (version : String)

def Health.status : Health → Nat
  | .unconfigured .. => 503
  | .degraded .. => 503
  | .ok .. => 200

/-- `isoformat` of an aware datetime in UTC. -/
def isoformatUtc (u : Int) : String := isoformat u ++ "+00:00"

/-- `strftime("%Y-%m-%d %H:%M:%S")`, whose `%Y` has no leading zeros. -/
def strftime (t : Int) : String :=
  let f := fields t
  toString f.year ++ "-" ++ pad 2 f.month ++ "-" ++ pad 2 f.day ++ " " ++ pad 2 f.hour ++ ":" ++
    pad 2 f.minute ++ ":" ++ pad 2 f.second

section
variable {Trigger : Type} (L : Libraries Zone Trigger)

/-- `next_run.astimezone(ZoneInfo(cfg.operator_timezone)).strftime(...)`. -/
def nextRunLocal (cfg : Config) : Option Int → Except Exn (Option String)
  | none => .ok none
  | some u => do
    let tz ← L.zoneInfo cfg.operatorTimezone
    if InRange (tz.toLocal u) then pure (some (strftime (tz.toLocal u))) else .error outOfRange

/-- `healthz`. Nothing catches what `store.exists` and `store.load` raise. -/
def healthz (host : Host) (st : AppState) : Except Failure Health := do
  let held ← unhandled st.store
  match held with
  | none => .ok (.unconfigured host.uptimeSeconds host.diskFreeMb host.version)
  | some cfg =>
    let nextRun ← unhandled (nextRunUtc L cfg host.now)
    let catchupPending := st.orchestrator.queue.length
    let reasons := if host.diskFreeMb.any (· < 100) then ["disk_low"] else []
    if reasons = [] then
      let nextRunAtLocal ← unhandled (nextRunLocal L cfg nextRun)
      pure (.ok host.uptimeSeconds cfg.siteLabel cfg.operatorTimezone (nextRun.map isoformatUtc)
        nextRunAtLocal catchupPending host.diskFreeMb host.version)
    else
      pure (.degraded reasons host.uptimeSeconds cfg.siteLabel cfg.operatorTimezone
        (nextRun.map isoformatUtc) host.diskFreeMb catchupPending host.version)

/-- The handlers, `healthz` at its place. `json` is `json.dumps`, `host` what the request
finds. -/
def handlers (host : Request → Host) (json : Health → String) (H : Handlers) : Handlers :=
  { H with
    get := fun endpoint req st =>
      if endpoint = .healthz then
        (healthz L (host req) st).map fun health => ⟨health.status, json health⟩
      else H.get endpoint req st }

end

/-- What of a configured state is public. -/
structure Public where
  siteLabel : String
  operatorTimezone : String
  scheduleLocal : String
  catchupPending : Nat

/-- What of a state is public: that its store cannot be read, that it has no config, or
the public part of it. -/
def view (st : AppState) : Option (Option Public) :=
  st.store.toOption.map fun held => held.map fun cfg =>
    ⟨cfg.siteLabel, cfg.operatorTimezone, cfg.scheduleLocal, st.orchestrator.queue.length⟩

section
variable {Trigger : Type} {L : Libraries Zone Trigger} {F : Framework} {H : Handlers} {env : Env}
  {req : Request} {st st' : AppState} {host : Request → Host} {json : Health → String} {r : Route}

/-- The next run is a matter of the schedule and its zone. -/
theorem nextRunUtc_congr {cfg cfg' : Config} (hzone : cfg.operatorTimezone = cfg'.operatorTimezone)
    (hschedule : cfg.scheduleLocal = cfg'.scheduleLocal) (now : Int) :
    nextRunUtc L cfg now = nextRunUtc L cfg' now := by
  unfold nextRunUtc
  rw [hzone, hschedule]

/-- The answer is made of the public part of a state only. -/
theorem healthz_congr (h : view st = view st') (host : Host) :
    healthz L host st = healthz L host st' := by
  unfold view at h
  rcases hst : st.store with e | _ | cfg <;> rcases hst' : st'.store with e' | _ | cfg' <;>
    rw [hst, hst'] at h
  case error.error =>
    simp only [healthz, hst, hst']
    rfl
  case ok.none.ok.none =>
    simp only [healthz, hst, hst']
    rfl
  case ok.some.ok.some =>
    have hpublic := Option.some.inj (Option.some.inj h)
    obtain ⟨hlabel, hzone, hschedule, hqueue⟩ := Public.mk.inj hpublic
    have hlocal (u : Option Int) : nextRunLocal L cfg u = nextRunLocal L cfg' u := by
      cases u <;> simp [nextRunLocal, hzone]
    simp only [healthz, hst, hst', unhandled, bind, Except.bind, hlabel, hzone, hqueue, hlocal,
      nextRunUtc_congr hzone hschedule]
  all_goals cases h

/-- Behind its dependencies only `/healthz` runs without credentials. -/
theorem healthz_of_anonymous (hr : r ∈ routes env) (hanon : ¬ Carries F.toLibraries env req)
    (hprepare : prepare F env r req = .ok ()) (hkind : r.kind ≠ .page) :
    r.endpoint = .healthz ∧ ∀ ds, r.kind ≠ .post ds := by
  have hreg : r ∈ registerRoutes := by
    unfold routes at hr
    split at hr
    · rcases List.mem_append.mp hr with hsetup | hreg
      · exact absurd (setup_kind r hsetup) hkind
      · exact hreg
    · exact hr
  have hopen : r.endpoint.isProtected = false := by
    by_contra hprot
    have hprot : r.endpoint.isProtected = true := by simpa using hprot
    exact hanon (carries_of_prepare hprepare (registerRoutes_requireBasicAuth r hreg hprot))
  constructor
  · have honly : ∀ r ∈ registerRoutes, r.endpoint.isProtected = false → r.endpoint = .healthz := by
      simp [registerRoutes, Endpoint.isProtected]
    exact honly r hreg hopen
  · intro ds hpost
    exact hanon (carries_of_prepare hprepare (registerRoutes_post r hreg ds hpost).1)

/-- One call of a route, in two states of the same view. -/
theorem call_congr (hr : r ∈ routes env) (hanon : ¬ Carries F.toLibraries env req)
    (hview : view st = view st') :
    (call F (handlers L host json H) env r req st).1 =
        (call F (handlers L host json H) env r req st').1 ∧
      (call F (handlers L host json H) env r req st).2 = st := by
  unfold call
  rcases hkind : r.kind with - | ds | ds
  · exact ⟨rfl, rfl⟩
  · rcases hprepare : prepare F env r req with f | u
    · exact ⟨rfl, rfl⟩
    · have hhealthz := (healthz_of_anonymous hr hanon hprepare (by rw [hkind]; nofun)).1
      refine ⟨?_, rfl⟩
      simp only [handlers, hhealthz, if_true, healthz_congr hview]
  · rcases hprepare : prepare F env r req with f | u
    · exact ⟨rfl, rfl⟩
    · exact absurd hkind ((healthz_of_anonymous hr hanon hprepare (by rw [hkind]; nofun)).2 ds)

theorem router_congr (hanon : ¬ Carries F.toLibraries env req) (hview : view st = view st') :
    (router F (handlers L host json H) env req st).1 =
        (router F (handlers L host json H) env req st').1 ∧
      (router F (handlers L host json H) env req st).2 = st := by
  unfold router
  rcases hfind : (routes env).find? (Route.matches req) with - | r
  · exact ⟨rfl, rfl⟩
  · exact call_congr (List.mem_of_find?_eq_some hfind) hanon hview

end

/-- Whatever a request without credentials asks for, whatever the other handlers are, it
changes nothing, and two states with the same public part answer it alike. -/
theorem anonymous_sees_public {Trigger : Type} (L : Libraries Zone Trigger) (F : Framework)
    (H : Handlers) (env : Env) (req : Request) (host : Request → Host) (json : Health → String)
    (st st' : AppState) (hanon : ¬ Carries F.toLibraries env req) (hview : view st = view st') :
    (app F (handlers L host json H) env req st).1 =
        (app F (handlers L host json H) env req st').1 ∧
      (app F (handlers L host json H) env req st).2 = st := by
  have hrouter := @router_congr _ L F H env req st st' host json hanon hview
  unfold app gateDocs
  split
  · split
    · split
      · exact hrouter
      · exact ⟨rfl, rfl⟩
    · exact hrouter
  · exact hrouter

/-- A configured worker with this password for BlueWeb. -/
def holding (password : String) : AppState :=
  ⟨.ok (some { DailyFire.lateSchedule with bluewebPassword := password }), initial⟩

/-- The handlers of a New Yorker, whose `/healthz` answers with its status. -/
def someHealthz : Handlers :=
  handlers DailyFire.newYorkLibraries (fun _ => ⟨0, none, "0.1.0", 1777615200000000⟩)
    (fun health => toString health.status) someHandlers

/-- `GET /healthz` without a header tells two passwords not apart. -/
theorem anonymous_sees_public_healthz :
    (app someFramework someHealthz debugEnv ⟨"GET", "/healthz", [], ""⟩ (holding "old")).1 =
      (app someFramework someHealthz debugEnv ⟨"GET", "/healthz", [], ""⟩ (holding "new")).1 := by
  have hanon : ¬ Carries someFramework.toLibraries debugEnv ⟨"GET", "/healthz", [], ""⟩ := by
    rintro ⟨creds, hcreds, -⟩
    cases hcreds
  exact (anonymous_sees_public _ _ _ _ _ _ _ (holding "old") (holding "new") hanon rfl).1

end Bluewave.Healthz
