import Bluewave.Schema
import Bluewave.Scheduler

/-! `POST /config`, from the validated payload on: blank passwords keep the stored ones,
three probes in order, the save, and behind it the audit table's bootstrap and the new
registration of the daily job. -/
namespace Bluewave.PostConfig
open Lib Bluewave.Exceptions Bluewave.ConfigStore Bluewave.Numerals
open Bluewave.Schema Bluewave.Scheduler

/-! ## The payload -/

section
variable {Tz Trigger : Type} (L : Libraries Tz Trigger)

/-- `_schedule_format`. -/
def scheduleFormat (v : String) : Except String String :=
  let refused := "schedule_local must be HH:MM, got " ++ L.repr v
  match splitTime v with
  | .error _ => .error refused
  | .ok (h, m) =>
    match int? h with
    | none => .error refused
    | some hour =>
      if ¬ (0 ≤ hour ∧ hour ≤ 23) then .error refused
      else
        match int? m with
        | none => .error refused
        | some minute => if ¬ (0 ≤ minute ∧ minute ≤ 59) then .error refused else .ok v

/-- `_tz_known`. -/
def tzKnown (v : String) : Except String String :=
  match L.zoneInfo v with
  | .ok _ => .ok v
  | .error _ => .error ("unknown IANA timezone: " ++ L.repr v)

/-- `ConfigPayload`: the body of a request that passed validation. -/
structure ConfigPayload where
  siteLabel : String
  bluewebUrl : String
  bluewebUser : String
  bluewebPassword : String := ""
  operatorTimezone : String
  mysqlHost : String
  mysqlPort : Int := 3306
  mysqlDatabase : String
  mysqlUser : String
  mysqlPassword : String := ""
  scheduleLocal : String
  catchUpCapDays : Int := 14
  siteLabel_length : 1 ≤ siteLabel.length ∧ siteLabel.length ≤ 80
  mysqlPort_range : 1 ≤ mysqlPort ∧ mysqlPort ≤ 65535
  catchUpCapDays_range : 1 ≤ catchUpCapDays ∧ catchUpCapDays ≤ 90
  schedule_format : scheduleFormat L scheduleLocal = .ok scheduleLocal
  tz_known : tzKnown L operatorTimezone = .ok operatorTimezone

end

section
variable {Tz Trigger : Type} {L : Libraries Tz Trigger}

theorem scheduleFormat_ok {v : String} (h : scheduleFormat L v = .ok v) :
    ∃ hh mm hour minute, splitTime v = .ok (hh, mm) ∧
      (int? hh = some hour ∧ 0 ≤ hour ∧ hour ≤ 23) ∧
      int? mm = some minute ∧ 0 ≤ minute ∧ minute ≤ 59 := by
  unfold scheduleFormat at h
  split at h
  · cases h
  · rename_i hh mm hsplit
    split at h
    · cases h
    · rename_i hour hhour
      split_ifs at h with hrange
      split at h
      · cases h
      · rename_i minute hminute
        split_ifs at h with mrange
        exact ⟨hh, mm, hour, minute, hsplit, ⟨hhour, hrange⟩, hminute, mrange⟩

theorem tzKnown_ok {v : String} (h : tzKnown L v = .ok v) : ∃ tz, L.zoneInfo v = .ok tz := by
  unfold tzKnown at h
  split at h
  · rename_i tz hzone
    exact ⟨tz, hzone⟩
  · cases h

/-- The `Config` of a payload and two passwords. -/
def ConfigPayload.toConfig (p : ConfigPayload L) (bluewebPassword mysqlPassword : String) :
    Config where
  siteLabel := p.siteLabel
  bluewebUrl := p.bluewebUrl
  bluewebUser := p.bluewebUser
  bluewebPassword
  operatorTimezone := p.operatorTimezone
  mysqlHost := p.mysqlHost
  mysqlPort := p.mysqlPort
  mysqlDatabase := p.mysqlDatabase
  mysqlUser := p.mysqlUser
  mysqlPassword
  scheduleLocal := p.scheduleLocal
  catchUpCapDays := p.catchUpCapDays

/-- A schedule and a zone the validators let through can be registered. -/
theorem ConfigPayload.registrable (p : ConfigPayload L) (bluewebPassword mysqlPassword : String) :
    Registrable L (p.toConfig bluewebPassword mysqlPassword) :=
  ⟨scheduleFormat_ok p.schedule_format, tzKnown_ok p.tz_known⟩

/-- `typed or (existing if existing else "")`. -/
def orExisting (typed : String) (existing : Option String) : String :=
  if typed ≠ "" then typed else existing.getD ""

/-- The config to save, or the detail of the 400. -/
def newConfig (p : ConfigPayload L) (existing : Option Config) : Except String Config :=
  let bluewebPw := orExisting p.bluewebPassword (existing.map Config.bluewebPassword)
  let mysqlPw := orExisting p.mysqlPassword (existing.map Config.mysqlPassword)
  if bluewebPw = "" then .error "blueweb_password required on first save"
  else if mysqlPw = "" then .error "mysql_password required on first save"
  else .ok (p.toConfig bluewebPw mysqlPw)

end

/-! ## Probes -/

structure ProbeResult where
  ok : Bool
  detail : String
  deriving DecidableEq

/-- The three probes against the outside as it is during one request: of a URL, of a
database, and of a login with URL, user and password. -/
structure Probes where
  bluewebHttp : String → Except Exn ProbeResult
  mysql : MysqlConfig → Except Exn ProbeResult
  bluewaveLogin : String → String → String → Except Exn ProbeResult

abbrev ProbeReport := List (String × ProbeResult)

/-- `triple_probe`. -/
def tripleProbe (P : Probes) (cfg : Config) : Except Exn (Bool × ProbeReport) := do
  let http ← P.bluewebHttp cfg.bluewebUrl
  let results := [("blueweb_http", http)]
  if ¬ http.ok then return (false, results)
  let mysql ← P.mysql cfg.mysql
  let results := results ++ [("mysql", mysql)]
  if ¬ mysql.ok then return (false, results)
  let login ← P.bluewaveLogin cfg.bluewebUrl cfg.bluewebUser cfg.bluewebPassword
  let results := results ++ [("bluewave_login", login)]
  if ¬ login.ok then return (false, results)
  return (true, results)

/-- All three probes of this config run and succeed, with these details. -/
def Succeed (P : Probes) (cfg : Config) (http mysql login : String) : Prop :=
  P.bluewebHttp cfg.bluewebUrl = .ok ⟨true, http⟩ ∧
  P.mysql cfg.mysql = .ok ⟨true, mysql⟩ ∧
  P.bluewaveLogin cfg.bluewebUrl cfg.bluewebUser cfg.bluewebPassword = .ok ⟨true, login⟩

def successReport (http mysql login : String) : ProbeReport :=
  [("blueweb_http", ⟨true, http⟩), ("mysql", ⟨true, mysql⟩), ("bluewave_login", ⟨true, login⟩)]

theorem tripleProbe_true {P : Probes} {cfg : Config} {report : ProbeReport} :
    tripleProbe P cfg = .ok (true, report) ↔ ∃ http mysql login, Succeed P cfg http mysql login ∧
      report = successReport http mysql login := by
  unfold tripleProbe Succeed successReport
  match P.bluewebHttp cfg.bluewebUrl with
  | .error e => simp [bind, Except.bind]
  | .ok ⟨false, http⟩ => simp [bind, Except.bind, pure, Except.pure]
  | .ok ⟨true, http⟩ =>
    match P.mysql cfg.mysql with
    | .error e => simp [bind, Except.bind]
    | .ok ⟨false, mysql⟩ => simp [bind, Except.bind, pure, Except.pure]
    | .ok ⟨true, mysql⟩ =>
      match P.bluewaveLogin cfg.bluewebUrl cfg.bluewebUser cfg.bluewebPassword with
      | .error e => simp [bind, Except.bind]
      | .ok ⟨false, login⟩ => simp [bind, Except.bind, pure, Except.pure]
      | .ok ⟨true, login⟩ => simp [bind, Except.bind, pure, Except.pure, eq_comm]

/-! ## The route -/

/-- What `_bootstrap_audit_table` puts into the response. -/
structure SchemaReport where
  ok : Bool
  kind : String
  message : String
  diffs : List String
  deriving DecidableEq

/-- `x or y` on an optional string. -/
def orElse (x : Option String) (y : String) : String :=
  match x with
  | some s => if s ≠ "" then s else y
  | none => y

/-- A MySQL server over one connection: the outcome of `bootstrap`, and what the server says
of its tables after it. -/
structure Server where
  bootstrap : Except DbFailure Unit
  schema : InformationSchema

/-- `_bootstrap_audit_table`. An exception becomes part of the report. -/
def bootstrapAuditTable (repr : String → String) (connect : MysqlConfig → Except Exn Server)
    (cfg : Config) : SchemaReport :=
  let outcome := do
    let server ← connect cfg.mysql
    bootstrapAndValidate repr server.bootstrap server.schema cfg.mysqlDatabase
  match outcome with
  | .error e =>
    { ok := false, kind := "connection_error"
      message := "could not connect to MySQL: " ++ e.describe, diffs := [] }
  | .ok result =>
    let diffs := (result.schemaCheck.map SchemaCheck.diffs).getD []
    if result.ok then
      { ok := true, kind := "ready", message := "audit table z_audit_logs_efk is ready", diffs := [] }
    else
      { ok := false
        kind := orElse result.errorKind "unknown"
        message := orElse result.errorMessage
          (if diffs ≠ [] then String.intercalate "; " diffs else "schema bootstrap failed")
        diffs }

/-- What surrounds one request: failures of its reads and of its save, the probes, and the
databases it may connect to. -/
structure World (IV : Type) where
  load : Option Exn
  probes : Probes
  save : SaveFaults IV
  connect : MysqlConfig → Except Exn Server
  reload : Option Exn

/-- The file and `app.state.scheduler`. -/
structure App (Token Tz Trigger : Type) where
  table : ConfigTable Token
  scheduler : Option (Sched Tz Trigger)

/-- The `HTTPException` of a first save without a password, the 400 with the report of
the probes, or the 200. -/
inductive Reply where
  | badRequest (detail : String)
  | rejected (probes : ProbeReport)
  | saved (probes : ProbeReport) (schema : SchemaReport)

section
variable {Key IV Token Tz Trigger : Type} (L : Libraries Tz Trigger) (F : Cipher Key IV String Token)

/-- `post_config`. An exception ends the request in a 500. -/
def postConfig (ks : Keyring Key) (w : World IV) (p : ConfigPayload L)
    (app : App Token Tz Trigger) : Except Exn Reply × App Token Tz Trigger :=
  match load F ks w.load app.table with
  | .error e => (.error e, app)
  | .ok existing =>
    match newConfig p existing with
    | .error detail => (.ok (.badRequest detail), app)
    | .ok cfg =>
      match tripleProbe w.probes cfg with
      | .error e => (.error e, app)
      | .ok (false, report) => (.ok (.rejected report), app)
      | .ok (true, report) =>
        match save F ks w.save cfg app.table with
        | (.error e, table) => (.error e, { app with table })
        | (.ok (), table) =>
          let schema := bootstrapAuditTable L.repr w.connect cfg
          -- what `reconfigure` raises goes unnoticed
          let scheduler := app.scheduler.map fun sched =>
            (reconfigure L F ks w.reload table sched).2
          (.ok (.saved report schema), { table, scheduler })

end

/-! ## All or nothing -/

section
variable {Key IV Token Tz Trigger : Type} {L : Libraries Tz Trigger} {F : Cipher Key IV String Token}
  {ks : Keyring Key} {w : World IV} {p : ConfigPayload L} {app : App Token Tz Trigger}

/-- The response says saved. -/
def Reply.IsSaved (r : Except Exn Reply) : Prop := ∃ report schema, r = .ok (.saved report schema)

/-- The password is the typed one, and where nothing is typed the stored one. Neither counts
when it is empty. -/
structure Password (entry : String) (old : Option String) (password : String) : Prop where
  typed : entry ≠ "" → password = entry
  stored : entry = "" → old = some password
  ne_empty : password ≠ ""

/-- The config that a payload asks for, on top of the stored one. -/
structure Asks (p : ConfigPayload L) (existing : Option Config) (cfg : Config) : Prop where
  siteLabel : cfg.siteLabel = p.siteLabel
  bluewebUrl : cfg.bluewebUrl = p.bluewebUrl
  bluewebUser : cfg.bluewebUser = p.bluewebUser
  operatorTimezone : cfg.operatorTimezone = p.operatorTimezone
  mysqlHost : cfg.mysqlHost = p.mysqlHost
  mysqlPort : cfg.mysqlPort = p.mysqlPort
  mysqlDatabase : cfg.mysqlDatabase = p.mysqlDatabase
  mysqlUser : cfg.mysqlUser = p.mysqlUser
  scheduleLocal : cfg.scheduleLocal = p.scheduleLocal
  catchUpCapDays : cfg.catchUpCapDays = p.catchUpCapDays
  bluewebPassword : Password p.bluewebPassword (existing.map Config.bluewebPassword)
    cfg.bluewebPassword
  mysqlPassword : Password p.mysqlPassword (existing.map Config.mysqlPassword) cfg.mysqlPassword

/-- A field is blank, and there is nothing stored for it. -/
def Missing (typed : String) (stored : Option String) : Prop :=
  typed = "" ∧ (stored = none ∨ stored = some "")

/-- With the stored config read as `existing`, `cfg` is what the payload asks for, passes the
three probes with these details, and nothing fails around its save. -/
def Commits (F : Cipher Key IV String Token) (ks : Keyring Key) (w : World IV)
    (p : ConfigPayload L) (t : ConfigTable Token) (cfg : Config) (http mysql login : String) : Prop :=
  (∃ existing, load F ks w.load t = .ok existing ∧ Asks p existing cfg) ∧
    Succeed w.probes cfg http mysql login ∧ w.save.Clear

theorem password_iff {typed password : String} {stored : Option String} :
    Password typed stored password ↔ orExisting typed stored = password ∧ password ≠ "" := by
  by_cases hblank : typed = ""
  · constructor
    · intro h
      exact ⟨by simp [orExisting, hblank, h.stored hblank], h.ne_empty⟩
    · rintro ⟨hkept, hne⟩
      have hstored : stored.getD "" = password := by simpa [orExisting, hblank] using hkept
      cases stored with
      | none => exact absurd hstored.symm hne
      | some pw => exact ⟨fun h => absurd hblank h, fun _ => congrArg some hstored, hne⟩
  · constructor
    · intro h
      exact ⟨by simp [orExisting, hblank, h.typed hblank], h.ne_empty⟩
    · rintro ⟨htyped, hne⟩
      have htyped' : typed = password := by simpa [orExisting, hblank] using htyped
      exact ⟨fun _ => htyped'.symm, fun h => absurd h hblank, hne⟩

theorem missing_iff {typed : String} {stored : Option String} :
    Missing typed stored ↔ orExisting typed stored = "" := by
  by_cases hblank : typed = ""
  · cases stored <;> simp [Missing, orExisting, hblank]
  · simp [Missing, orExisting, hblank]

theorem newConfig_eq_ok {existing : Option Config} {cfg : Config} :
    newConfig p existing = .ok cfg ↔ Asks p existing cfg := by
  constructor
  · intro h
    simp only [newConfig] at h
    split_ifs at h with hblueweb hmysql
    obtain rfl := Except.ok.inj h
    exact ⟨rfl, rfl, rfl, rfl, rfl, rfl, rfl, rfl, rfl, rfl,
      password_iff.mpr ⟨rfl, hblueweb⟩, password_iff.mpr ⟨rfl, hmysql⟩⟩
  · intro h
    obtain ⟨hblueweb, hblueweb'⟩ := password_iff.mp h.bluewebPassword
    obtain ⟨hmysql, hmysql'⟩ := password_iff.mp h.mysqlPassword
    rw [newConfig, hblueweb, hmysql, if_neg hblueweb', if_neg hmysql', ConfigPayload.toConfig,
      ← h.siteLabel, ← h.bluewebUrl, ← h.bluewebUser, ← h.operatorTimezone, ← h.mysqlHost,
      ← h.mysqlPort, ← h.mysqlDatabase, ← h.mysqlUser, ← h.scheduleLocal, ← h.catchUpCapDays]

theorem newConfig_ok {existing : Option Config} {cfg : Config} (h : newConfig p existing = .ok cfg) :
    cfg = p.toConfig (orExisting p.bluewebPassword (existing.map Config.bluewebPassword))
      (orExisting p.mysqlPassword (existing.map Config.mysqlPassword)) := by
  simp only [newConfig] at h
  split_ifs at h
  exact (Except.ok.inj h).symm

/-- What a payload asks for is refused only when a password is missing. -/
theorem newConfig_error {existing : Option Config} :
    (∃ detail, newConfig p existing = .error detail) ↔
      Missing p.bluewebPassword (existing.map Config.bluewebPassword) ∨
        Missing p.mysqlPassword (existing.map Config.mysqlPassword) := by
  rw [missing_iff, missing_iff]
  simp only [newConfig]
  split_ifs with hblueweb hmysql
  · exact iff_of_true ⟨_, rfl⟩ (.inl hblueweb)
  · exact iff_of_true ⟨_, rfl⟩ (.inr hmysql)
  · exact iff_of_false (fun ⟨_, h⟩ => by cases h) (not_or.mpr ⟨hblueweb, hmysql⟩)

/-- The integers of a payload fit into a column, so only what surrounds the save can
fail it. -/
theorem save_newConfig (F : Cipher Key IV String Token) (ks : Keyring Key) (f : SaveFaults IV)
    (t : ConfigTable Token) {existing : Option Config} {cfg : Config}
    (h : newConfig p existing = .ok cfg) :
    (¬ f.Clear ∧ ∃ e, save F ks f cfg t = (.error e, t)) ∨
      (f.Clear ∧ ∃ iv iv', save F ks f cfg t = (.ok (), single (rowUnder F ks.head iv iv' cfg) rfl)) := by
  have hport := p.mysqlPort_range
  have hcap := p.catchUpCapDays_range
  have hclear : (save F ks f cfg t).1 = .ok () ↔ f.Clear := by
    rw [newConfig_ok h]
    exact save_ok_iff (by simp only [ConfigPayload.toConfig]; omega)
      (by simp only [ConfigPayload.toConfig]; omega)
  rcases @save_cases _ _ _ F ks t f cfg with ⟨e, hs⟩ | ⟨iv, iv', hs⟩ <;> rw [hs] at hclear
  · exact .inl ⟨fun hc => (by cases hclear.mpr hc), e, hs⟩
  · exact .inr ⟨hclear.mp rfl, iv, iv', hs⟩

theorem Commits.config {existing : Option Config} {cfg cfg' : Config} {http mysql login : String}
    (h : Commits F ks w p app.table cfg' http mysql login)
    (hload : load F ks w.load app.table = .ok existing) (hnew : newConfig p existing = .ok cfg) :
    cfg' = cfg := by
  obtain ⟨⟨existing', hload', hasks⟩, -, -⟩ := h
  rw [hload] at hload'
  cases hload'
  rw [newConfig_eq_ok.mpr hasks] at hnew
  exact Except.ok.inj hnew

theorem Commits.unique {cfg cfg' : Config} {http http' mysql mysql' login login' : String}
    (h : Commits F ks w p app.table cfg http mysql login)
    (h' : Commits F ks w p app.table cfg' http' mysql' login') :
    cfg' = cfg ∧ http' = http ∧ mysql' = mysql ∧ login' = login := by
  obtain ⟨⟨existing, hload, hasks⟩, ⟨hhttp, hmysql, hlogin⟩, -⟩ := h
  obtain rfl := h'.config hload (newConfig_eq_ok.mpr hasks)
  obtain ⟨-, ⟨hhttp', hmysql', hlogin'⟩, -⟩ := h'
  rw [hhttp] at hhttp'
  rw [hmysql] at hmysql'
  rw [hlogin] at hlogin'
  cases hhttp'; cases hmysql'; cases hlogin'
  exact ⟨rfl, rfl, rfl, rfl⟩

/-- Everything is as it was, and the response does not say saved. -/
def Untouched (app : App Token Tz Trigger) (r : Except Exn Reply × App Token Tz Trigger) : Prop :=
  r.2 = app ∧ ¬ Reply.IsSaved r.1

theorem untouched_error (e : Exn) : Untouched app (.error e, app) :=
  ⟨rfl, fun ⟨_, _, h⟩ => by cases h⟩

theorem untouched_badRequest (detail : String) : Untouched app (.ok (.badRequest detail), app) :=
  ⟨rfl, fun ⟨_, _, h⟩ => by cases h⟩

theorem untouched_rejected (report : ProbeReport) : Untouched app (.ok (.rejected report), app) :=
  ⟨rfl, fun ⟨_, _, h⟩ => by cases h⟩

/-- A request commits its config and says so, or leaves everything as it was. -/
theorem postConfig_cases (L : Libraries Tz Trigger) (F : Cipher Key IV String Token)
    (ks : Keyring Key) (w : World IV) (p : ConfigPayload L) (app : App Token Tz Trigger) :
    (∃ cfg http mysql login table, Commits F ks w p app.table cfg http mysql login ∧
      save F ks w.save cfg app.table = (.ok (), table) ∧ Stores F table ks.head cfg ∧
      postConfig L F ks w p app =
        (.ok (.saved (successReport http mysql login) (bootstrapAuditTable L.repr w.connect cfg)),
          ⟨table, app.scheduler.map fun sched => (reconfigure L F ks w.reload table sched).2⟩)) ∨
      (∀ cfg http mysql login, ¬ Commits F ks w p app.table cfg http mysql login) ∧
        Untouched app (postConfig L F ks w p app) := by
  unfold postConfig
  rcases hload : load F ks w.load app.table with e | existing
  · refine .inr ⟨fun cfg http mysql login h => ?_, untouched_error e⟩
    obtain ⟨⟨existing, hload', -⟩, -⟩ := h
    rw [hload] at hload'
    cases hload'
  · rcases hnew : newConfig p existing with detail | cfg
    · refine .inr ⟨fun cfg http mysql login h => ?_, by simp only [hnew]; exact untouched_badRequest detail⟩
      obtain ⟨⟨existing', hload', hasks⟩, -⟩ := h
      rw [hload] at hload'
      cases hload'
      rw [newConfig_eq_ok.mpr hasks] at hnew
      cases hnew
    · simp only [hnew]
      by_cases hpass : ∃ report, tripleProbe w.probes cfg = .ok (true, report)
      · obtain ⟨report, hprobe⟩ := hpass
        obtain ⟨http, mysql, login, hsucceed, rfl⟩ := tripleProbe_true.mp hprobe
        simp only [hprobe]
        rcases save_newConfig F ks w.save app.table hnew with
          ⟨hfault, e, hs⟩ | ⟨hclear, iv, iv', hs⟩
        · simp only [hs]
          exact .inr ⟨fun _ _ _ _ h => hfault h.2.2, untouched_error e⟩
        · simp only [hs]
          exact .inl ⟨cfg, http, mysql, login, _, ⟨⟨existing, hload, newConfig_eq_ok.mp hnew⟩, hsucceed, hclear⟩,
            hs, stores_single ks.head iv iv' cfg, rfl⟩
      · refine .inr ⟨fun cfg' http mysql login h => ?_, ?_⟩
        · obtain rfl := h.config hload hnew
          exact hpass ⟨_, tripleProbe_true.mpr ⟨http, mysql, login, h.2.1, rfl⟩⟩
        · rcases hprobe : tripleProbe w.probes cfg with e | ⟨passed, report⟩
          · exact untouched_error e
          · cases passed with
            | false => exact untouched_rejected report
            | true => exact (hpass ⟨report, hprobe⟩).elim

theorem isSaved_iff : Reply.IsSaved (postConfig L F ks w p app).1 ↔
    ∃ cfg http mysql login, Commits F ks w p app.table cfg http mysql login := by
  rcases postConfig_cases L F ks w p app with
    ⟨cfg, http, mysql, login, table, hcommits, -, -, hrun⟩ | ⟨hnone, -, hreply⟩
  · exact ⟨fun _ => ⟨cfg, http, mysql, login, hcommits⟩, fun _ => ⟨_, _, congrArg Prod.fst hrun⟩⟩
  · exact ⟨fun h => (hreply h).elim, fun ⟨_, _, _, _, h⟩ => (hnone _ _ _ _ h).elim⟩

theorem postConfig_of_commits {cfg : Config} {http mysql login : String}
    (h : Commits F ks w p app.table cfg http mysql login) :
    load F ks none (postConfig L F ks w p app).2.table = .ok (some cfg) ∧
      (postConfig L F ks w p app).1 = .ok (.saved (successReport http mysql login)
        (bootstrapAuditTable L.repr w.connect cfg)) := by
  rcases postConfig_cases L F ks w p app with
    ⟨cfg', http', mysql', login', table, hcommits, -, hstores, hrun⟩ | ⟨hnone, -⟩
  · obtain ⟨rfl, rfl, rfl, rfl⟩ := h.unique hcommits
    rw [hrun]
    exact ⟨load_stored hstores (Keyring.head_mem ks), rfl⟩
  · exact (hnone _ _ _ _ h).elim

theorem postConfig_unchanged
    (h : ∀ cfg http mysql login, ¬ Commits F ks w p app.table cfg http mysql login) :
    (postConfig L F ks w p app).2.table = app.table := by
  rcases postConfig_cases L F ks w p app with
    ⟨cfg, http, mysql, login, table, hcommits, -⟩ | ⟨-, huntouched, -⟩
  · exact (h _ _ _ _ hcommits).elim
  · rw [huntouched]

/-- What makes a request commit is decided before the database or the scheduler is asked. -/
theorem postConfig_table_later (connect : MysqlConfig → Except Exn Server) (reload : Option Exn)
    (scheduler : Option (Sched Tz Trigger)) :
    (postConfig L F ks { w with connect, reload } p { app with scheduler }).2.table =
      (postConfig L F ks w p app).2.table := by
  rcases postConfig_cases L F ks w p app with
    ⟨cfg, http, mysql, login, table, hcommits, hsave, -, hrun⟩ | ⟨hnone, huntouched, -⟩ <;>
  rcases postConfig_cases L F ks { w with connect, reload } p { app with scheduler } with
    ⟨cfg', http', mysql', login', table', hcommits', hsave', -, hrun'⟩ | ⟨hnone', huntouched', -⟩
  · obtain ⟨rfl, -⟩ := hcommits.unique hcommits'
    rw [hsave] at hsave'
    cases hsave'
    rw [hrun, hrun']
  · exact (hnone' _ _ _ _ hcommits).elim
  · exact (hnone _ _ _ _ hcommits').elim
  · rw [huntouched, huntouched']

/-- A request is turned down for want of a password when one is missing, and only then. -/
theorem badRequest_iff : (∃ detail, (postConfig L F ks w p app).1 = .ok (.badRequest detail)) ↔
    ∃ existing, load F ks w.load app.table = .ok existing ∧
      (Missing p.bluewebPassword (existing.map Config.bluewebPassword) ∨
        Missing p.mysqlPassword (existing.map Config.mysqlPassword)) := by
  rcases hload : load F ks w.load app.table with e | existing
  · have hrun : postConfig L F ks w p app = (.error e, app) := by rw [postConfig, hload]
    rw [hrun]
    exact iff_of_false (fun ⟨_, h⟩ => by cases h) fun ⟨_, h, _⟩ => by cases h
  · have hexists : (∃ existing', Except.ok (ε := Exn) existing = .ok existing' ∧
        (Missing p.bluewebPassword (existing'.map Config.bluewebPassword) ∨
          Missing p.mysqlPassword (existing'.map Config.mysqlPassword))) ↔
        ∃ detail, newConfig p existing = .error detail := by
      simp only [Except.ok.injEq, exists_eq_left', newConfig_error]
    rw [hexists]
    rcases hnew : newConfig p existing with detail | cfg
    · have hrun : postConfig L F ks w p app = (.ok (.badRequest detail), app) := by
        rw [postConfig, hload]
        simp only [hnew]
      rw [hrun]
      exact iff_of_true ⟨_, rfl⟩ ⟨_, rfl⟩
    · refine iff_of_false (fun ⟨detail, hreply⟩ => ?_) fun ⟨_, h⟩ => by cases h
      rw [postConfig, hload] at hreply
      simp only [hnew] at hreply
      split at hreply
      · cases hreply
      · cases hreply
      · split at hreply <;> cases hreply

/-- A request stores the config it asks for, each blank password replaced by the stored one,
exactly when the three probes succeed and nothing fails up to the COMMIT, and says so exactly
then; otherwise the file is as it was. It is refused without probes exactly when a field is
blank for which nothing is stored. The bootstrap of the audit table and the scheduler have no
say in any of this. -/
theorem post_allOrNothing (L : Libraries Tz Trigger) (F : Cipher Key IV String Token)
    (ks : Keyring Key) (w : World IV) (p : ConfigPayload L) (app : App Token Tz Trigger) :
    (Reply.IsSaved (postConfig L F ks w p app).1 ↔
      ∃ cfg http mysql login, Commits F ks w p app.table cfg http mysql login) ∧
    (∀ cfg http mysql login, Commits F ks w p app.table cfg http mysql login →
      load F ks none (postConfig L F ks w p app).2.table = .ok (some cfg) ∧
      (postConfig L F ks w p app).1 = .ok (.saved (successReport http mysql login)
        (bootstrapAuditTable L.repr w.connect cfg))) ∧
    ((∀ cfg http mysql login, ¬ Commits F ks w p app.table cfg http mysql login) →
      (postConfig L F ks w p app).2.table = app.table) ∧
    ((∃ detail, (postConfig L F ks w p app).1 = .ok (.badRequest detail)) ↔
      ∃ existing, load F ks w.load app.table = .ok existing ∧
        (Missing p.bluewebPassword (existing.map Config.bluewebPassword) ∨
          Missing p.mysqlPassword (existing.map Config.mysqlPassword))) ∧
    ∀ connect reload scheduler,
      (Reply.IsSaved (postConfig L F ks { w with connect, reload } p { app with scheduler }).1 ↔
        Reply.IsSaved (postConfig L F ks w p app).1) ∧
      (postConfig L F ks { w with connect, reload } p { app with scheduler }).2.table =
        (postConfig L F ks w p app).2.table :=
  ⟨isSaved_iff, fun _ _ _ _ h => postConfig_of_commits h, postConfig_unchanged, badRequest_iff,
    fun _ _ _ => ⟨isSaved_iff.trans (@isSaved_iff _ _ _ _ _ L F ks w p app).symm,
      postConfig_table_later ..⟩⟩

end

end Bluewave.PostConfig
