import Bluewave.Auth
import Bluewave.Config
import Bluewave.Exceptions
import Bluewave.Orchestrator

/-! The application `create_app` builds: its routes in the order they are tried, the
dependencies FastAPI runs before a handler, and the middleware in front of the
generated pages. The routes are guarded by what they declare, the pages by the
middleware alone, and that one looks at the scheme of the header only. -/
namespace Bluewave.Web
open Bluewave.Auth Bluewave.Exceptions

inductive Endpoint where
  | openapi
  | swaggerUi
  | swaggerUiRedirect
  | healthz
  | csrf
  | getConfig
  | postConfig
  | testBluewave
  | testMysql
  | postRun
  | postDryRun
  | postCatchup
  | getRuns
  | getRun
  | index
  deriving DecidableEq

/-- Whether the answer is for the operator only. The redirect page of the docs is a
constant text. -/
def Endpoint.isProtected : Endpoint → Bool
  | .healthz => false
  | .swaggerUiRedirect => false
  | _ => true

/-- `app.state`, as far as a handler can change it: what reading the store comes to, which
raises on a locked file and on tokens that no key decrypts, and the queue. -/
structure AppState where
  store : Except Exn (Option Config)
  orchestrator : Orchestrator.State

structure Response where
  status : Nat
  body : String

/-- What the application answers, before the server drops the body of a `HEAD`. -/
inductive Reply where
  | failure (f : Failure)
  | content (endpoint : Endpoint) (response : Response)

def Reply.isProtected : Reply → Bool
  | .failure _ => false
  | .content endpoint _ => endpoint.isProtected

structure Framework extends Libraries where
  /-- `request.url.path`: the `Host` header takes part in it -/
  urlPath : Request → String
  /-- `get_authorization_scheme_param` -/
  schemeParam : String → String × String
  /-- reading the body, before the dependencies run -/
  parse : Endpoint → Request → Except Failure Unit
  /-- the parameters and the body against their types, after them -/
  validate : Endpoint → Request → Except Failure Unit
  /-- a generated page -/
  page : Endpoint → Request → Response
  /-- no route for this path and method: 404, 405 or a redirect to the path with or
  without its last slash -/
  unmatched : Request → Failure

/-- The bodies of the endpoints, which only run behind their dependencies. Those of
`app.get` call `store.exists`, `store.load` and `orch.state`, and change nothing. -/
structure Handlers where
  get : Endpoint → Request → AppState → Except Failure Response
  post : Endpoint → Request → AppState → Except Failure Response × AppState

inductive Dependency where
  | requireBasicAuth
  | requireCsrf
  deriving DecidableEq

inductive Path where
  | exactly (path : String)
  /-- a path with one parameter at its end -/
  | item (base : String)

/-- `re.match` of the compiled path; its `$` also stands before a final newline. -/
def Path.matches (path : String) : Path → Bool
  | .exactly p => path.toList = p.toList ∨ path.toList = p.toList ++ ['\n']
  | .item base =>
    let param := path.toList.drop base.toList.length
    base.toList = path.toList.take base.toList.length ∧ param ≠ [] ∧ '/' ∉ param

inductive Kind where
  /-- a page FastAPI adds for itself, a route of Starlette without dependencies -/
  | page
  /-- `app.get` -/
  | get (dependencies : List Dependency)
  /-- `app.post` -/
  | post (dependencies : List Dependency)

def Kind.methods : Kind → List String
  | .page => ["GET", "HEAD"]
  | .get _ => ["GET"]
  | .post _ => ["POST"]

def Kind.dependencies : Kind → List Dependency
  | .page => []
  | .get dependencies => dependencies
  | .post dependencies => dependencies

structure Route where
  path : Path
  endpoint : Endpoint
  kind : Kind

/-- `Match.FULL`. -/
def Route.matches (req : Request) (r : Route) : Bool :=
  r.path.matches req.path && decide (req.method ∈ r.kind.methods)

/-- `FastAPI.setup`, with the urls given under `LOG_LEVEL=DEBUG`. -/
def setup : List Route :=
  [⟨.exactly "/openapi.json", .openapi, .page⟩,
   ⟨.exactly "/docs", .swaggerUi, .page⟩,
   ⟨.exactly "/docs/oauth2-redirect", .swaggerUiRedirect, .page⟩]

def registerRoutes : List Route :=
  [⟨.exactly "/healthz", .healthz, .get []⟩,
   ⟨.exactly "/csrf", .csrf, .get [.requireBasicAuth]⟩,
   ⟨.exactly "/config", .getConfig, .get [.requireBasicAuth]⟩,
   ⟨.exactly "/config", .postConfig, .post [.requireBasicAuth, .requireCsrf]⟩,
   ⟨.exactly "/config/test/bluewave", .testBluewave, .post [.requireBasicAuth, .requireCsrf]⟩,
   ⟨.exactly "/config/test/mysql", .testMysql, .post [.requireBasicAuth, .requireCsrf]⟩,
   ⟨.exactly "/run", .postRun, .post [.requireBasicAuth, .requireCsrf]⟩,
   ⟨.exactly "/run/dry", .postDryRun, .post [.requireBasicAuth, .requireCsrf]⟩,
   ⟨.exactly "/run/catchup", .postCatchup, .post [.requireBasicAuth, .requireCsrf]⟩,
   ⟨.exactly "/runs", .getRuns, .get [.requireBasicAuth]⟩,
   ⟨.item "/runs/", .getRun, .get [.requireBasicAuth]⟩,
   ⟨.exactly "/", .index, .get [.requireBasicAuth]⟩]

def docsEnabled (env : Env) : Bool := upper (env.logLevel.getD "INFO") = "DEBUG"

/-- The routes, in the order Starlette tries them. -/
def routes (env : Env) : List Route :=
  if docsEnabled env then setup ++ registerRoutes else registerRoutes

def Dependency.solve (F : Framework) (env : Env) (req : Request) : Dependency → Except Failure Unit
  | .requireBasicAuth => (Auth.requireBasicAuth F.toLibraries env req).map fun _ => ()
  | .requireCsrf => Auth.requireCsrf F.toLibraries env req

/-- `solve_dependencies`: the declared ones in order, the first that raises ends it. -/
def solveDependencies (F : Framework) (env : Env) (req : Request) :
    List Dependency → Except Failure Unit
  | [] => .ok ()
  | d :: rest => do
    d.solve F env req
    solveDependencies F env req rest

/-- FastAPI's part of a call, up to the handler. -/
def prepare (F : Framework) (env : Env) (r : Route) (req : Request) : Except Failure Unit := do
  F.parse r.endpoint req
  solveDependencies F env req r.kind.dependencies
  F.validate r.endpoint req

def reply (endpoint : Endpoint) : Except Failure Response → Reply
  | .error f => .failure f
  | .ok response => .content endpoint response

def call (F : Framework) (H : Handlers) (env : Env) (r : Route) (req : Request) (st : AppState) :
    Reply × AppState :=
  match r.kind with
  | .page => (.content r.endpoint (F.page r.endpoint req), st)
  | .get _ =>
    match prepare F env r req with
    | .error f => (.failure f, st)
    | .ok () => (reply r.endpoint (H.get r.endpoint req st), st)
  | .post _ =>
    match prepare F env r req with
    | .error f => (.failure f, st)
    | .ok () =>
      let (response, st') := H.post r.endpoint req st
      (reply r.endpoint response, st')

def router (F : Framework) (H : Handlers) (env : Env) (req : Request) (st : AppState) :
    Reply × AppState :=
  match (routes env).find? (Route.matches req) with
  | none => (.failure (F.unmatched req), st)
  | some r => call F H env r req st

/-- The scheme of the `Authorization` header is `basic`. -/
def schemeIsBasic (F : Framework) (req : Request) : Bool :=
  lower (F.schemeParam ((req.header "Authorization").getD "")).1 = "basic"

def gatedPaths : List String := ["/docs", "/openapi.json"]

/-- `gate_docs`. It imports `_check_credentials` and does not call it. -/
def gateDocs (F : Framework) (callNext : Request → AppState → Reply × AppState) (req : Request)
    (st : AppState) : Reply × AppState :=
  if F.urlPath req ∈ gatedPaths then
    if schemeIsBasic F req then callNext req st
    else (.failure ⟨401, "", [("WWW-Authenticate", "Basic")]⟩, st)
  else callNext req st

/-- The application `create_app` returns. -/
def app (F : Framework) (H : Handlers) (env : Env) (req : Request) (st : AppState) :
    Reply × AppState :=
  if docsEnabled env then gateDocs F (router F H env) req st else router F H env req st

/-- What the operator is promised about one request. -/
structure Guarded (F : Framework) (H : Handlers) (env : Env) (req : Request) (st : AppState) :
    Prop where
  refused : ¬ Carries F.toLibraries env req → req.path ≠ "/healthz" →
    (app F H env req st).1.isProtected = false ∧ (app F H env req st).2 = st
  forged : Carries F.toLibraries env req → req.method = "POST" →
    ¬ CarriesCsrf F.toLibraries env req → (app F H env req st).2 = st

/-- A request for a generated page that the middleware lets through without genuine
credentials. -/
structure Slips (F : Framework) (env : Env) (req : Request) : Prop where
  docs : docsEnabled env
  anonymous : ¬ Carries F.toLibraries env req
  method : req.method ∈ ["GET", "HEAD"]
  path : ∃ p ∈ gatedPaths, (Path.exactly p).matches req.path
  gate : F.urlPath req ∈ gatedPaths → schemeIsBasic F req

section
variable {F : Framework} {H : Handlers} {env : Env} {req : Request} {st : AppState} {r : Route}

theorem solveDependencies_mem {ds : List Dependency} (h : solveDependencies F env req ds = .ok ())
    {d : Dependency} (hd : d ∈ ds) : d.solve F env req = .ok () := by
  induction ds with
  | nil => cases hd
  | cons d₀ rest ih =>
    unfold solveDependencies at h
    rcases hsolve : d₀.solve F env req with f | u
    · rw [hsolve] at h; cases h
    · rw [hsolve] at h
      rcases List.mem_cons.mp hd with rfl | hrest
      · exact hsolve
      · exact ih h hrest

theorem prepare_mem (h : prepare F env r req = .ok ()) {d : Dependency}
    (hd : d ∈ r.kind.dependencies) : d.solve F env req = .ok () := by
  unfold prepare at h
  rcases hparse : F.parse r.endpoint req with f | u
  · rw [hparse] at h; cases h
  · rw [hparse] at h
    rcases hdeps : solveDependencies F env req r.kind.dependencies with f | u
    · simp only [bind, Except.bind, hdeps] at h
      cases h
    · exact solveDependencies_mem hdeps hd

theorem carries_of_prepare (h : prepare F env r req = .ok ())
    (hr : .requireBasicAuth ∈ r.kind.dependencies) : Carries F.toLibraries env req := by
  have hsolve := prepare_mem h hr
  rcases hauth : Auth.requireBasicAuth F.toLibraries env req with f | user
  · simp only [Dependency.solve, hauth] at hsolve
    cases hsolve
  · exact requireBasicAuth_ok hauth

theorem carriesCsrf_of_prepare (h : prepare F env r req = .ok ())
    (hr : .requireCsrf ∈ r.kind.dependencies) : CarriesCsrf F.toLibraries env req :=
  requireCsrf_ok (prepare_mem h hr)

/-- Everything a call can do: refuse, answer without touching the state, or, behind
its dependencies, run the handler of an `app.post`. -/
theorem call_cases (F : Framework) (H : Handlers) (env : Env) (r : Route) (req : Request)
    (st : AppState) :
    (∃ f, call F H env r req st = (.failure f, st)) ∨
    (r.kind = .page ∧
      call F H env r req st = (.content r.endpoint (F.page r.endpoint req), st)) ∨
    (prepare F env r req = .ok () ∧ (∃ ds, r.kind = .get ds) ∧
      call F H env r req st = (reply r.endpoint (H.get r.endpoint req st), st)) ∨
    (prepare F env r req = .ok () ∧ (∃ ds, r.kind = .post ds) ∧
      call F H env r req st =
        (reply r.endpoint (H.post r.endpoint req st).1, (H.post r.endpoint req st).2)) := by
  unfold call
  rcases hkind : r.kind with - | ds | ds
  · exact .inr (.inl ⟨rfl, rfl⟩)
  · rcases hprepare : prepare F env r req with f | u
    · exact .inl ⟨f, rfl⟩
    · exact .inr (.inr (.inl ⟨rfl, ⟨ds, rfl⟩, rfl⟩))
  · rcases hprepare : prepare F env r req with f | u
    · exact .inl ⟨f, rfl⟩
    · exact .inr (.inr (.inr ⟨rfl, ⟨ds, rfl⟩, rfl⟩))

theorem call_page (hkind : r.kind = .page) :
    call F H env r req st = (.content r.endpoint (F.page r.endpoint req), st) := by
  unfold call
  rw [hkind]

theorem reply_isProtected {e : Endpoint} (x : Except Failure Response)
    (he : e.isProtected = false) : (reply e x).isProtected = false := by
  cases x with
  | error f => rfl
  | ok response => exact he

/-- The routes of `routes.py` declare what they need. -/
theorem registerRoutes_requireBasicAuth : ∀ r ∈ registerRoutes,
    r.endpoint.isProtected = true → .requireBasicAuth ∈ r.kind.dependencies := by
  simp [registerRoutes, Endpoint.isProtected, Kind.dependencies]

theorem registerRoutes_post : ∀ r ∈ registerRoutes, ∀ ds, r.kind = .post ds →
    .requireBasicAuth ∈ r.kind.dependencies ∧ .requireCsrf ∈ r.kind.dependencies := by
  simp [registerRoutes, Kind.dependencies]

theorem setup_kind : ∀ r ∈ setup, r.kind = .page := by
  simp [setup]

/-- Without credentials no route of `routes.py` gives anything away or changes
anything. -/
theorem call_anonymous (hr : r ∈ registerRoutes) (hanon : ¬ Carries F.toLibraries env req) :
    (call F H env r req st).1.isProtected = false ∧ (call F H env r req st).2 = st := by
  have hopen : prepare F env r req = .ok () → r.endpoint.isProtected = false := by
    intro hprepare
    by_contra hprot
    have hprot : r.endpoint.isProtected = true := by simpa using hprot
    exact hanon (carries_of_prepare hprepare (registerRoutes_requireBasicAuth r hr hprot))
  rcases call_cases F H env r req st with ⟨f, hcall⟩ | ⟨hkind, hcall⟩ | ⟨hprepare, -, hcall⟩ |
    ⟨hprepare, ⟨ds, hkind⟩, -⟩
  · rw [hcall]; exact ⟨rfl, rfl⟩
  · have hnot : ∀ r ∈ registerRoutes, r.kind ≠ .page := by simp [registerRoutes]
    exact absurd hkind (hnot r hr)
  · rw [hcall]; exact ⟨reply_isProtected _ (hopen hprepare), rfl⟩
  · exact absurd (carries_of_prepare hprepare (registerRoutes_post r hr ds hkind).1) hanon

/-- Without a token no call changes the state. -/
theorem call_forged (hr : r ∈ routes env)
    (hforged : ¬ CarriesCsrf F.toLibraries env req) : (call F H env r req st).2 = st := by
  rcases call_cases F H env r req st with ⟨f, hcall⟩ | ⟨-, hcall⟩ | ⟨-, -, hcall⟩ |
    ⟨hprepare, ⟨ds, hkind⟩, -⟩
  · rw [hcall]
  · rw [hcall]
  · rw [hcall]
  · have hreg : r ∈ registerRoutes := by
      unfold routes at hr
      split at hr
      · rcases List.mem_append.mp hr with hsetup | hreg
        · rw [setup_kind r hsetup] at hkind; cases hkind
        · exact hreg
      · exact hr
    exact absurd (carriesCsrf_of_prepare hprepare (registerRoutes_post r hreg ds hkind).2) hforged

theorem router_of_find (hfind : (routes env).find? (Route.matches req) = some r) :
    router F H env req st = call F H env r req st := by
  unfold router
  rw [hfind]

theorem router_cases (F : Framework) (H : Handlers) (env : Env) (req : Request) (st : AppState) :
    (∃ f, router F H env req st = (.failure f, st)) ∨
    ∃ r ∈ routes env, r.matches req = true ∧ router F H env req st = call F H env r req st := by
  unfold router
  rcases hfind : (routes env).find? (Route.matches req) with - | r
  · exact .inl ⟨_, rfl⟩
  · exact .inr ⟨r, List.mem_of_find?_eq_some hfind, List.find?_some hfind, rfl⟩

/-- The middleware lets a request through or answers itself. -/
theorem app_cases (F : Framework) (H : Handlers) (env : Env) (req : Request) (st : AppState) :
    (∃ f, app F H env req st = (.failure f, st)) ∨
    ((docsEnabled env = true → F.urlPath req ∈ gatedPaths → schemeIsBasic F req = true) ∧
      app F H env req st = router F H env req st) := by
  unfold app gateDocs
  split
  · split
    · split
      · rename_i hbasic
        exact .inr ⟨fun _ _ => hbasic, rfl⟩
      · exact .inl ⟨_, rfl⟩
    · rename_i hpath
      exact .inr ⟨fun _ h => absurd h hpath, rfl⟩
  · rename_i hdocs
    exact .inr ⟨fun h => absurd h hdocs, rfl⟩

theorem app_of_gate (hgate : F.urlPath req ∈ gatedPaths → schemeIsBasic F req = true) :
    app F H env req st = router F H env req st := by
  unfold app gateDocs
  split
  · split
    · rename_i hpath
      rw [if_pos (hgate hpath)]
    · rfl
  · rfl

theorem setup_gated : ∀ r ∈ setup, r.endpoint.isProtected = true →
    ∃ p ∈ gatedPaths, r.path = .exactly p := by
  simp [setup, gatedPaths, Endpoint.isProtected]

/-- Under `LOG_LEVEL=DEBUG` the generated pages come first in the table. -/
theorem find_page (hdocs : docsEnabled env = true) (hmethod : req.method ∈ ["GET", "HEAD"])
    {p : String} (hp : p ∈ gatedPaths) (hpath : (Path.exactly p).matches req.path = true) :
    ∃ r ∈ setup, r.endpoint.isProtected = true ∧
      (routes env).find? (Route.matches req) = some r := by
  have hpath := of_decide_eq_true hpath
  have hmethods : req.method ∈ Kind.page.methods := hmethod
  rw [routes, if_pos hdocs]
  rcases List.mem_pair.mp hp with rfl | rfl
  · refine ⟨⟨.exactly "/docs", .swaggerUi, .page⟩, by simp [setup], rfl, ?_⟩
    rcases hpath with hpath | hpath <;>
      simp [setup, Route.matches, Path.matches, hpath, hmethods]
  · refine ⟨⟨.exactly "/openapi.json", .openapi, .page⟩, by simp [setup], rfl, ?_⟩
    rcases hpath with hpath | hpath <;>
      simp [setup, Route.matches, Path.matches, hpath, hmethods]

theorem app_refused (hslips : ¬ Slips F env req) (hanon : ¬ Carries F.toLibraries env req) :
    (app F H env req st).1.isProtected = false ∧ (app F H env req st).2 = st := by
  rcases app_cases F H env req st with ⟨f, happ⟩ | ⟨hgate, happ⟩
  · rw [happ]; exact ⟨rfl, rfl⟩
  · rcases router_cases F H env req st with ⟨f, hrouter⟩ | ⟨r, hr, hmatch, hrouter⟩
    · rw [happ, hrouter]; exact ⟨rfl, rfl⟩
    · rw [happ, hrouter]
      unfold routes at hr
      split at hr
      · rename_i hdocs
        rcases List.mem_append.mp hr with hsetup | hreg
        · -- a generated page: only the middleware has looked at the request
          have hkind := setup_kind r hsetup
          rw [call_page hkind]
          refine ⟨?_, rfl⟩
          by_contra hprot
          have hprot : r.endpoint.isProtected = true := by simpa [Reply.isProtected] using hprot
          obtain ⟨p, hp, hpath⟩ := setup_gated r hsetup hprot
          have hmatch := Bool.and_eq_true_iff.mp hmatch
          rw [hpath, hkind, decide_eq_true_iff] at hmatch
          exact hslips ⟨hdocs, hanon, hmatch.2, ⟨p, hp, hmatch.1⟩, hgate hdocs⟩
        · exact call_anonymous hreg hanon
      · exact call_anonymous hr hanon

theorem app_forged (hforged : ¬ CarriesCsrf F.toLibraries env req) :
    (app F H env req st).2 = st := by
  rcases app_cases F H env req st with ⟨f, happ⟩ | ⟨-, happ⟩
  · rw [happ]
  · rcases router_cases F H env req st with ⟨f, hrouter⟩ | ⟨r, hr, -, hrouter⟩
    · rw [happ, hrouter]
    · rw [happ, hrouter]
      exact call_forged hr hforged

/-- What slips through is answered with the page. -/
theorem app_slips (h : Slips F env req) : (app F H env req st).1.isProtected = true := by
  obtain ⟨p, hp, hpath⟩ := h.path
  obtain ⟨r, hsetup, hprot, hfind⟩ := find_page h.docs h.method hp hpath
  rw [app_of_gate h.gate, router_of_find hfind, call_page (setup_kind r hsetup)]
  exact hprot

theorem Slips.path_ne (h : Slips F env req) : req.path ≠ "/healthz" := by
  obtain ⟨p, hp, hpath⟩ := h.path
  intro heq
  rw [heq] at hpath
  have hno : ∀ p ∈ gatedPaths, (Path.exactly p).matches "/healthz" = false := by decide
  rw [hno p hp] at hpath
  cases hpath

/-- A request is refused unless it carries the operator's credentials, and changes
nothing unless it carries a token, exactly if it is not one for a generated page
that any header of scheme `basic` opens. -/
theorem guarded_iff (F : Framework) (H : Handlers) (env : Env) (req : Request) (st : AppState) :
    Guarded F H env req st ↔ ¬ Slips F env req := by
  constructor
  · intro hguarded hslips
    have hrefused := hguarded.refused hslips.anonymous hslips.path_ne
    rw [app_slips hslips] at hrefused
    cases hrefused.1
  · intro hslips
    exact ⟨fun hanon _ => app_refused hslips hanon, fun _ _ hforged => app_forged hforged⟩

end

/-- `Authorization: Basic x` is not base64, so `HTTPBasic` would refuse it. -/
def malformed : Request := ⟨"GET", "/docs", [("host", "worker"), ("authorization", "Basic x")], ""⟩

def debugEnv : Env where
  logLevel := some "DEBUG"
  webUser := some "admin"
  webPassHash := some "$2b$12$abcdefghijklmnopqrstuuabcdefghijklmnopqrstuvwxyzABCDE"
  configEncKeys := some "AAAAAAAAAAAAAAAAAAAAAAAAAAAAAAAAAAAAAAAAAAA="

def someFramework : Framework where
  httpBasic _ := .error ⟨401, "Invalid authentication credentials",
    [("WWW-Authenticate", "Basic realm=\"bluewave-worker\"")]⟩
  checkpw _ _ := .ok false
  loads _ _ := .error .badSignature
  formField _ _ := .ok none
  urlPath req := req.path
  schemeParam s := (String.ofList (s.toList.takeWhile (· ≠ ' ')),
    String.ofList ((s.toList.dropWhile (· ≠ ' ')).drop 1))
  parse _ _ := .ok ()
  validate _ _ := .ok ()
  page _ _ := ⟨200, "<!DOCTYPE html>"⟩
  unmatched _ := ⟨404, "Not Found", []⟩

def someHandlers : Handlers where
  get _ _ _ := .ok ⟨200, ""⟩
  post _ _ st := (.ok ⟨200, ""⟩, st)

/-- At `LOG_LEVEL=DEBUG` the OpenAPI page is served to a header that names no user. -/
theorem not_guarded_malformed :
    ¬ Guarded someFramework someHandlers debugEnv malformed ⟨.ok none, Orchestrator.initial⟩ := by
  intro h
  have hanon : ¬ Carries someFramework.toLibraries debugEnv malformed := by
    rintro ⟨creds, hcreds, -⟩
    cases hcreds
  have hslips : (app someFramework someHandlers debugEnv malformed
      ⟨.ok none, Orchestrator.initial⟩).1.isProtected = true := by decide
  have hrefused := (h.refused hanon (by decide)).1
  rw [hslips] at hrefused
  cases hrefused

end Bluewave.Web
