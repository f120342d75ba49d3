import Bluewave.Credentials
import Bluewave.PostConfig

/-! The probes behind `POST /config` and the two test buttons, against what is outside: an HTTP
server, a database and a site in a browser. A config is saved when all of them are as they have to
be, and what the operator is told does not depend on the credentials of the site. -/
namespace Bluewave.Probes
open Lib Bluewave.Exceptions Bluewave.ConfigStore Bluewave.Schema
open Bluewave.SafeDriver Bluewave.ReportFlow Bluewave.Credentials Bluewave.PostConfig
open Bluewave.Scheduler (Libraries)

/-- What `urlopen` raises. -/
inductive UrlFailure where
  | urlError (reason : String)
  | other (e : Exn)

/-- What the connection and the two queries raise: a `pymysql.err.Error`, or anything else. -/
inductive MysqlFailure where
  | pymysql (e : Exn)
  | other (e : Exn)

/-- What is outside, as it is during one request: the status of a URL, which one of another scheme
than HTTP does not have, the character set and the collation of a visible database, what keeps the
browser from starting, the site's answers to a login, and the names of the driver's exception
classes. For a final status outside 2xx `urlopen` raises an `HTTPError`, which is a `URLError`. -/
structure Outside where
  urlopen : String → Except UrlFailure (Option Nat)
  urlopen_ok : ∀ url code, urlopen url = .ok (some code) → 200 ≤ code ∧ code < 300
  schemata : MysqlConfig → Except MysqlFailure (Option (Option String × Option String))
  browser : Option Exn
  visit : Visit
  className : WebDriverException → String

section
variable (o : Outside)

def probeBluewebHttp (url : String) : ProbeResult :=
  match o.urlopen url with
  | .ok none =>
    ⟨false, "TypeError: '>=' not supported between instances of 'NoneType' and 'int'"⟩
  | .ok (some code) =>
    if 500 ≤ code then ⟨false, "HTTP " ++ toString code ++ " from BlueWeb"⟩
    else ⟨true, "HEAD " ++ toString code⟩
  | .error (.urlError reason) => ⟨false, "unreachable: " ++ reason⟩
  | .error (.other e) => ⟨false, e.describe⟩

/-- `isinstance(co, str) and co.startswith("utf8mb4_")`. -/
def utf8mb4Collation : Option String → Bool
  | some co => "utf8mb4_".toList.isPrefixOf co.toList
  | none => false

def probeMysql (repr : String → String) (cfg : MysqlConfig) : Except Exn ProbeResult :=
  match o.schemata cfg with
  | .error (.pymysql e) => .ok ⟨false, e.describe⟩
  | .error (.other e) => .error e
  | .ok none => .ok ⟨false, "database " ++ repr cfg.database ++ " not visible"⟩
  | .ok (some (cs, co)) =>
    if cs ≠ some "utf8mb4" then
      .ok ⟨false, "database charset " ++ reprOption repr cs ++ ", expected 'utf8mb4' " ++
        "(legacy `utf8` truncates 4-byte chars; spec L20)"⟩
    else if ¬ utf8mb4Collation co then
      .ok ⟨false, "database collation " ++ reprOption repr co ++
        ", expected a utf8mb4_* collation"⟩
    else if co ≠ some "utf8mb4_unicode_ci" then
      .ok ⟨true, "SELECT 1 OK (DB collation " ++ reprOption repr co ++ "; the audit table will be " ++
        "created with utf8mb4_unicode_ci regardless)"⟩
    else .ok ⟨true, "SELECT 1 OK, charset + collation OK"⟩

/-- The three `except` clauses around the login. -/
def loginFailure : Raised → ProbeResult
  | .exn (.runFailure .authFailed message) => ⟨false, "auth_failed: " ++ message⟩
  | .exn (.runFailure cls message) => ⟨false, cls.status ++ ": " ++ message⟩
  | .exn e => ⟨false, e.describe⟩
  | .webDriver e => ⟨false, o.className e ++ ": " ++ e.text⟩

def probeBluewaveLogin (url user password : String) : ProbeResult :=
  match o.browser with
  | some e => loginFailure o (.exn e)
  | none =>
    match (Logged.outcome (loginAndNavigate o.visit url user password 20 10) []).1 with
    | .error raised => loginFailure o raised
    | .ok () => ⟨true, "login + Reports navigation OK"⟩

def probes (repr : String → String) : Probes where
  bluewebHttp url := .ok (probeBluewebHttp o url)
  mysql := probeMysql o repr
  bluewaveLogin url user password := .ok (probeBluewaveLogin o url user password)

/-! ## The test buttons -/

structure BlueWebTestPayload where
  bluewebUrl : String
  bluewebUser : String
  bluewebPassword : String
  filled : bluewebUrl ≠ "" ∧ bluewebUser ≠ "" ∧ bluewebPassword ≠ ""

structure MysqlTestPayload where
  mysqlHost : String
  mysqlPort : Int := 3306
  mysqlDatabase : String
  mysqlUser : String
  mysqlPassword : String
  mysqlPort_range : 1 ≤ mysqlPort ∧ mysqlPort ≤ 65535
  filled : mysqlHost ≠ "" ∧ mysqlDatabase ≠ "" ∧ mysqlUser ≠ "" ∧ mysqlPassword ≠ ""

structure TestReply where
  result : String
  detail : String
  deriving DecidableEq

def testReply (r : ProbeResult) : TestReply := ⟨if r.ok then "ok" else "failed", r.detail⟩

def testBluewave (p : BlueWebTestPayload) : TestReply :=
  testReply (probeBluewaveLogin o p.bluewebUrl p.bluewebUser p.bluewebPassword)

def MysqlTestPayload.mysql (p : MysqlTestPayload) : MysqlConfig where
  host := p.mysqlHost
  port := p.mysqlPort
  user := p.mysqlUser
  password := p.mysqlPassword
  database := p.mysqlDatabase

def testMysql (repr : String → String) (p : MysqlTestPayload) : Except Exn TestReply :=
  (probeMysql o repr p.mysql).map testReply

/-! ## What a saved config was good for -/

/-- All that is outside is there for a config and as it has to be. -/
structure Usable (cfg : Config) : Prop where
  head : ∃ code, o.urlopen cfg.bluewebUrl = .ok (some code) ∧ 200 ≤ code ∧ code < 300
  database : ∃ collation, o.schemata cfg.mysql = .ok (some (some "utf8mb4", some collation)) ∧
    "utf8mb4_".toList <+: collation.toList
  browser : o.browser = none
  login : (Logged.outcome (loginAndNavigate o.visit cfg.bluewebUrl cfg.bluewebUser
    cfg.bluewebPassword 20 10) []).1 = .ok ()

end

section
variable {o : Outside} {repr : String → String} {cfg : Config}

theorem probeBluewebHttp_ok {url : String} :
    (∃ detail, probeBluewebHttp o url = ⟨true, detail⟩) ↔
      ∃ code, o.urlopen url = .ok (some code) ∧ 200 ≤ code ∧ code < 300 := by
  unfold probeBluewebHttp
  rcases hopen : o.urlopen url with (reason | e) | _ | code
  · simp
  · simp
  · simp
  · -- a status that `urlopen` returns is no server error
    obtain ⟨hlow, hhigh⟩ := o.urlopen_ok url code hopen
    simp only [if_neg (show ¬ 500 ≤ code by omega)]
    exact iff_of_true ⟨_, rfl⟩ ⟨code, rfl, hlow, hhigh⟩

theorem probeMysql_ok (repr : String → String) {cfg : MysqlConfig} :
    (∃ detail, probeMysql o repr cfg = .ok ⟨true, detail⟩) ↔
      ∃ collation, o.schemata cfg = .ok (some (some "utf8mb4", some collation)) ∧
        "utf8mb4_".toList <+: collation.toList := by
  unfold probeMysql
  rcases o.schemata cfg with (e | e) | _ | ⟨cs, co⟩
  · simp
  · simp
  · simp
  · by_cases hcs : cs = some "utf8mb4"
    · subst hcs
      by_cases hco : utf8mb4Collation co = true
      · rcases co with _ | collation
        · cases hco
        · refine ⟨fun _ => ⟨collation, rfl, List.isPrefixOf_iff_prefix.mp hco⟩, fun _ => ?_⟩
          simp only [ne_eq, not_true_eq_false, if_false, hco]
          split <;> exact ⟨_, rfl⟩
      · simp only [ne_eq, not_true_eq_false, if_false, hco, Bool.false_eq_true, not_false_eq_true,
          if_true]
        constructor
        · rintro ⟨detail, h⟩
          cases h
        · rintro ⟨collation, h, hprefix⟩
          cases h
          exact absurd (List.isPrefixOf_iff_prefix.mpr hprefix) hco
    · simp only [ne_eq, hcs, not_false_eq_true, if_true]
      constructor
      · rintro ⟨detail, h⟩
        cases h
      · rintro ⟨collation, h, -⟩
        cases h
        exact absurd rfl hcs

theorem loginFailure_ok (raised : Raised) : (loginFailure o raised).ok = false := by
  rcases raised with e | (⟨cls, message⟩ | ⟨type, text⟩)
  · rfl
  · cases cls <;> rfl
  · rfl

theorem probeBluewaveLogin_ok {url user password : String} :
    (∃ detail, probeBluewaveLogin o url user password = ⟨true, detail⟩) ↔
      o.browser = none ∧
        (Logged.outcome (loginAndNavigate o.visit url user password 20 10) []).1 = .ok () := by
  have hfailed : ∀ raised, ¬ ∃ detail, loginFailure o raised = ⟨true, detail⟩ := by
    rintro raised ⟨detail, h⟩
    have hok := loginFailure_ok (o := o) raised
    rw [h] at hok
    cases hok
  unfold probeBluewaveLogin
  cases o.browser with
  | some e => simpa using hfailed (.exn e)
  | none =>
    rcases (Logged.outcome (loginAndNavigate o.visit url user password 20 10) []).1 with raised | _
    · simpa using hfailed raised
    · simp

theorem usable_iff : Usable o cfg ↔ ∃ http mysql login, Succeed (probes o repr) cfg http mysql login := by
  constructor
  · intro h
    obtain ⟨http, hhttp⟩ := probeBluewebHttp_ok.mpr h.head
    obtain ⟨mysql, hmysql⟩ := (probeMysql_ok repr).mpr h.database
    obtain ⟨login, hlogin⟩ := probeBluewaveLogin_ok.mpr ⟨h.browser, h.login⟩
    exact ⟨http, mysql, login, congrArg _ hhttp, hmysql, congrArg _ hlogin⟩
  · rintro ⟨http, mysql, login, hhttp, hmysql, hlogin⟩
    obtain ⟨hbrowser, hlogin⟩ := probeBluewaveLogin_ok.mp ⟨login, Except.ok.inj hlogin⟩
    exact ⟨probeBluewebHttp_ok.mp ⟨http, Except.ok.inj hhttp⟩, (probeMysql_ok repr).mp ⟨mysql, hmysql⟩,
      hbrowser, hlogin⟩

/-! ## What the operator is told -/

theorem probeBluewaveLogin_alike (url user password user' password' : String) :
    probeBluewaveLogin o url user password = probeBluewaveLogin o url user' password' := by
  have hlogin := (loginAndNavigate_alike o.visit url user password user' password' 20 10 [] [] .nil).1
  unfold probeBluewaveLogin
  rw [hlogin]

/-- The same config with other credentials of the site. -/
def signedInAs (cfg : Config) (user password : String) : Config :=
  { cfg with bluewebUser := user, bluewebPassword := password }

theorem tripleProbe_alike (user password : String) :
    tripleProbe (probes o repr) (signedInAs cfg user password) = tripleProbe (probes o repr) cfg := by
  unfold tripleProbe probes
  simp only [Config.mysql, signedInAs, probeBluewaveLogin_alike cfg.bluewebUrl user password
    cfg.bluewebUser cfg.bluewebPassword]

end

section
variable {Key IV Token : Type} {F : Cipher Key IV String Token} {ks : Keyring Key} {f : SaveFaults IV}
  {t : ConfigTable Token}

/-- How a save fails depends on the integers of its config alone. -/
theorem save_alike {cfg cfg' : Config} (hport : cfg.mysqlPort = cfg'.mysqlPort)
    (hcap : cfg.catchUpCapDays = cfg'.catchUpCapDays) :
    (save F ks f cfg t).1 = (save F ks f cfg' t).1 := by
  obtain ⟨opening, delete, blueweb, mysql, insert, commit⟩ := f
  simp only [save, withConn, saveBody, hport, hcap]
  rcases opening with _ | e
  · rcases delete with _ | e
    · rcases blueweb with e | iv
      · rfl
      · rcases mysql with e | iv'
        · rfl
        · rcases bindInt cfg'.mysqlPort with e | port
          · rfl
          · rcases bindInt cfg'.catchUpCapDays with e | cap
            · rfl
            · cases insert <;> cases commit <;> rfl
    · rfl
  · rfl

end

section
variable {Tz Trigger : Type} {L : Libraries Tz Trigger}

/-- The same request with other credentials of the site. -/
def withCredentials (p : ConfigPayload L) (user password : String) : ConfigPayload L :=
  { p with bluewebUser := user, bluewebPassword := password }

/-- A password is kept, or required, in both or in neither. -/
theorem newConfig_withCredentials {p : ConfigPayload L} {password : String} (user : String)
    (existing : Option Config) (h : p.bluewebPassword = "" ↔ password = "") :
    newConfig (withCredentials p user password) existing =
      (newConfig p existing).map fun cfg =>
        signedInAs cfg user (orExisting password (existing.map Config.bluewebPassword)) := by
  have hblank : orExisting p.bluewebPassword (existing.map Config.bluewebPassword) = "" ↔
      orExisting (withCredentials p user password).bluewebPassword
        (existing.map Config.bluewebPassword) = "" := by
    show _ ↔ orExisting password _ = ""
    unfold orExisting
    by_cases hp : p.bluewebPassword = ""
    · rw [hp, h.mp hp]
    · rw [if_pos hp, if_pos (mt h.mpr hp)]
      exact h
  simp only [newConfig]
  by_cases hp : orExisting p.bluewebPassword (existing.map Config.bluewebPassword) = ""
  · rw [if_pos hp, if_pos (hblank.mp hp)]
    rfl
  · rw [if_neg hp, if_neg (mt hblank.mpr hp)]
    show (if orExisting p.mysqlPassword (existing.map Config.mysqlPassword) = "" then _ else _) = _
    split <;> rfl

end

/-- With the probes as they are, a request saves its config exactly when all that is outside is as
it has to be for it and nothing fails around the save. Of two requests that differ in the
credentials of the site, both with a password or both without, on one site and one file, the
operator gets the same reply. -/
theorem postConfig_probed {Key IV Token Tz Trigger : Type} (L : Libraries Tz Trigger)
    (F : Cipher Key IV String Token) (ks : Keyring Key) (w : World IV) (o : Outside)
    (p : ConfigPayload L) (app : App Token Tz Trigger) :
    (Reply.IsSaved (postConfig L F ks { w with probes := probes o L.repr } p app).1 ↔
      ∃ existing cfg, load F ks w.load app.table = .ok existing ∧ Asks p existing cfg ∧
        Usable o cfg ∧ w.save.Clear) ∧
    ∀ user password, (p.bluewebPassword = "" ↔ password = "") →
      (postConfig L F ks { w with probes := probes o L.repr } p app).1 =
        (postConfig L F ks { w with probes := probes o L.repr }
          (withCredentials p user password) app).1 := by
  refine ⟨isSaved_iff.trans ⟨?_, ?_⟩, fun user password hblank => ?_⟩
  · rintro ⟨cfg, http, mysql, login, ⟨existing, hload, hasks⟩, hsucceed, hclear⟩
    exact ⟨existing, cfg, hload, hasks, usable_iff.mpr ⟨http, mysql, login, hsucceed⟩, hclear⟩
  · rintro ⟨existing, cfg, hload, hasks, husable, hclear⟩
    obtain ⟨http, mysql, login, hsucceed⟩ := usable_iff.mp husable
    exact ⟨cfg, http, mysql, login, ⟨existing, hload, hasks⟩, hsucceed, hclear⟩
  · unfold postConfig
    rcases load F ks w.load app.table with e | existing
    · rfl
    · simp only [newConfig_withCredentials user existing hblank]
      rcases newConfig p existing with detail | cfg
      · rfl
      · simp only [Except.map, tripleProbe_alike]
        generalize hcfg : signedInAs cfg user _ = cfg'
        rcases tripleProbe (probes o L.repr) cfg with e | ⟨passed, report⟩
        · rfl
        · cases passed with
          | false => rfl
          | true =>
            have hsave : (save F ks w.save cfg app.table).1 = (save F ks w.save cfg' app.table).1 := by
              rw [← hcfg]
              exact save_alike rfl rfl
            have hschema : bootstrapAuditTable L.repr w.connect cfg =
                bootstrapAuditTable L.repr w.connect cfg' := by
              rw [← hcfg]
              rfl
            rcases hs : save F ks w.save cfg app.table with ⟨result, table⟩
            rcases hs' : save F ks w.save cfg' app.table with ⟨result', table'⟩
            rw [hs, hs'] at hsave
            obtain rfl : result = result' := hsave
            cases result with
            | error e => rfl
            | ok _ => simp only [hschema]

end Bluewave.Probes
