import Bluewave.Healthz
import Bluewave.Lib.Markup
import Bluewave.RunHistory

/-! The three HTML pages. An f-string is a template here: its own text, and the values in
its braces. They are written through `_esc`; the numbers and the few words that the source
writes as they are, `_esc` would not change. -/
namespace Bluewave.Pages
open Lib Lib.Markup Bluewave.Auth Bluewave.Datetime Bluewave.Exceptions
open Bluewave.Healthz Bluewave.NextRun Bluewave.Orchestrator Bluewave.RunHistory
open Bluewave.RunRequests (unhandled)
open Bluewave.Scheduler (Libraries)
open Bluewave.Tables

/-- `_BASE_CSS`, `_CONFIG_JS` and `_DASHBOARD_JS`. -/
structure Assets where
  baseCss : String
  configJs : String
  dashboardJs : String

/-- None of them ends the element it stands in. -/
structure Assets.Closed (A : Assets) : Prop where
  baseCss : Markup.Closed "style".toList A.baseCss.toList
  configJs : Markup.Closed "script".toList A.configJs.toList
  dashboardJs : Markup.Closed "script".toList A.dashboardJs.toList

/-- A page has one `<style>`, and one `<script>` at most. -/
def writer {α : Type} (A : Assets) (js : String) (text : α → String) : Rendering α where
  value a := esc (text a)
  block name := if name = "style" then A.baseCss else js

abbrev Html := List (Piece String)

/-- `_page_shell`. -/
def pageShell {α : Type} (title : α) (bodyHtml headExtra : List (Piece α)) : List (Piece α) :=
  [.fixed "<!doctype html>\n<html lang=\"en\">\n<head>\n<meta charset=\"utf-8\">\n",
    .fixed "<meta name=\"viewport\" content=\"width=device-width, initial-scale=1\">\n<title>",
    .value title, .fixed "</title>\n", .block "style", .fixed "\n"] ++
  headExtra ++
  [.fixed "\n</head>\n<body>\n"] ++
  bodyHtml ++
  [.fixed "\n</body>\n</html>"]

/-! ## The table of runs -/

/-- The row of a run. -/
def runRow (r : RunEntry) : Html :=
  [.fixed "<tr class='", .value (css r.status), .fixed "'>",
    .fixed "<td><a href='/runs/", .value (toString r.id), .fixed "'>#", .value (toString r.id),
    .fixed "</a></td>",
    .fixed "<td>", .value (strDate r.reportDate), .fixed "</td>",
    .fixed "<td>", .value (strDatetime r.startedAt), .fixed "</td>",
    .fixed "<td>", .value ((r.finishedAt.map strDatetime).getD ""), .fixed "</td>",
    .fixed "<td class='status-cell'>", .value r.status.text, .fixed "</td>",
    .fixed "<td>", .value ((r.rowsInCsv.map toString).getD ""), .fixed "</td>",
    .fixed "<td>", .value ((r.rowsInserted.map toString).getD ""), .fixed "</td>",
    .fixed "<td>", .value ((r.rowsDuplicate.map toString).getD ""), .fixed "</td>",
    .fixed "<td>", .value (if r.manual then "yes" else "no"), .fixed "</td>",
    .fixed "</tr>"]

def runsTable (rows : List RunEntry) : Html :=
  [.fixed "<table class='runs'><thead><tr>",
    .fixed "<th>id</th><th>report_date</th><th>started (UTC)</th>",
    .fixed "<th>finished (UTC)</th><th>status</th>",
    .fixed "<th>rows in</th><th>inserted</th><th>dup</th><th>manual</th>",
    .fixed "</tr></thead><tbody>"] ++
  rows.flatMap runRow ++ [.fixed "</tbody></table>"]

/-- `_render_runs_html`. -/
def runsPage (cfg : Config) (rows : List RunEntry) (q : RunsQuery) : Html :=
  pageShell ("Runs — " ++ cfg.siteLabel)
    ([.fixed "<header>\n<h1>", .value cfg.siteLabel,
      .fixed " — runs</h1>\n<div class='meta'>showing ", .value (toString (q.offset + 1)),
      .fixed "–", .value (toString (q.offset + rows.length)), .fixed " (limit ",
      .value (toString q.limit.rows), .fixed ")</div>\n</header>\n<main>\n",
      .fixed "<nav><a href='/'>&larr; Dashboard</a> <a href='/config'>Configure</a></nav>\n"] ++
    runsTable rows ++
    [.fixed "\n<div class='button-row'>\n", .fixed "<a href='", .fixed "/runs?limit=",
      .value (toString q.previous.limit.rows), .fixed "&offset=",
      .value (toString q.previous.offset),
      .fixed "'><button class='secondary' type='button'>&larr; Previous</button></a>\n",
      .fixed "<a href='", .fixed "/runs?limit=", .value (toString q.next.limit.rows),
      .fixed "&offset=", .value (toString q.next.offset),
      .fixed "'><button class='secondary' type='button'>Next &rarr;</button></a>\n",
      .fixed "</div>\n</main>\n"]) []

/-! ## The dashboard -/

/-- `_format_eta` at the instant `now`. -/
def formatEta (now : Int) : Option Int → Option String
  | none => none
  | some whenUtc =>
    let secs := (whenUtc - now).tdiv 1000000
    if secs ≤ 0 then some "overdue"
    else
      let days := secs / 86400
      let hours := secs % 86400 / 3600
      let minutes := secs % 3600 / 60
      let parts := (if days ≠ 0 then [toString days ++ "d"] else []) ++
        if hours ≠ 0 then [toString hours ++ "h"] else []
      let parts := parts ++
        if minutes ≠ 0 ∨ parts = [] then [toString minutes ++ "m"] else []
      some ("in " ++ " ".intercalate parts)

section
variable {Trigger : Type} (L : Libraries Zone Trigger)

/-- `next_local`: what goes wrong with the zone leaves it blank. -/
def nextLocal (cfg : Config) (u : Int) : String :=
  match nextRunLocal L cfg (some u) with
  | .ok (some text) => text
  | _ => ""

def nextLocalHtml (nextLocal : String) : Html :=
  if nextLocal ≠ "" then
    [.fixed " &middot; local <code>", .value nextLocal, .fixed "</code>"]
  else []

/-- `next_run_html`. -/
def nextRunHtml (cfg : Config) (now : Int) : Option Int → Html
  | none => []
  | some u =>
    [.fixed "<br>next run <code>", .value (strftime u ++ " UTC"), .fixed " (",
      .value ((formatEta now (some u)).getD ""), .fixed ")</code>"] ++
    nextLocalHtml (nextLocal L cfg u)

/-- `in_flight_html`. -/
def inFlightHtml : Option Date → Html
  | some d => [.value (strDate d)]
  | none => [.fixed "<span class='muted'>idle</span>"]

/-- `status_pill`. -/
def statusPill (healthzStatus : String) : Html :=
  if healthzStatus ≠ "" then
    [.fixed " &middot; status <code>", .value healthzStatus, .fixed "</code>"]
  else []

/-- The page of a worker without a config. -/
def setupPage : Html :=
  pageShell "Setup — bluewave-worker"
    [.fixed "<header><h1>bluewave-worker</h1><div class='meta'>Setup required</div></header>",
      .fixed "<main><div class='banner'>Container is <strong>unconfigured</strong>. ",
      .fixed "Open <a href='/config'>/config</a> to enter BlueWeb / MySQL / schedule.</div></main>"]
    []

/-- `_render_dashboard_html`. -/
def dashboardPage (now : Int) (cfg : Option Config) (state : State) (recentRuns : List RunEntry)
    (csrfToken healthzStatus : String) (nextRunAtUtc : Option Int) : Html :=
  match cfg with
  | none => setupPage
  | some cfg =>
    pageShell (cfg.siteLabel ++ " — bluewave-worker")
      ([.fixed "<header>\n<h1>", .value cfg.siteLabel,
        .fixed "</h1>\n<div class='meta'>BlueWeb audit ingest worker &middot;\n TZ <code>",
        .value cfg.operatorTimezone, .fixed "</code> &middot;\n schedule <code>",
        .value cfg.scheduleLocal, .fixed " local</code> &middot;\n queue <code>",
        .value (toString state.queue.length), .fixed "</code> &middot;\n in flight "] ++
      inFlightHtml state.inFlight ++ statusPill healthzStatus ++
      nextRunHtml L cfg now nextRunAtUtc ++
      [.fixed "</div>\n</header>\n<main>\n<nav>\n<a href='/runs'>Full run history</a>\n",
        .fixed "<a href='/config'>Configure</a>\n</nav>\n\n<h2>Actions</h2>\n",
        .fixed "<div class='button-row'>\n",
        .fixed "<button id='run-now' class='primary' type='button'>Run now (yesterday)</button>\n",
        .fixed "<button id='dry-run' class='secondary' type='button'>",
        .fixed "Dry-run preview (yesterday)</button>\n",
        .fixed "<button id='catchup' class='secondary' type='button'>Catch up missing</button>\n",
        .fixed "</div>\n<p class='muted' style='margin-top:0.4rem;'>\n",
        .fixed "Dry-run logs in, downloads the CSV, transforms rows, and shows how many would be\n",
        .fixed "inserted vs. duplicates — without writing anything to the DB.\n</p>\n",
        .fixed "<div id='status' class='status'></div>\n\n<h2>Recent runs</h2>\n"] ++
      (if recentRuns ≠ [] then runsTable recentRuns
        else [.fixed "<p class='muted'>No runs yet.</p>"]) ++
      [.fixed "\n</main>\n", .block "script", .fixed "\n"])
      [.fixed "<meta name='csrf-token' content='", .value csrfToken, .fixed "'>"]

end

/-! ## The form -/

/-- The values of the page, by where they stand. -/
inductive Slot where
  | title
  | heading
  | csrfToken
  | siteLabel
  | bluewebUrl
  | bluewebUser
  | bluewebHint
  | operatorTimezone
  | mysqlHost
  | mysqlPort
  | mysqlDatabase
  | mysqlUser
  | mysqlHint
  | scheduleLocal
  | catchUpCapDays
  deriving DecidableEq

/-- `x or y` on strings. -/
def orText (x y : String) : String := if x ≠ "" then x else y

def passwordHint (cfg : Option Config) (unset : String) : String :=
  orText (if cfg.isSome then "••••••• (set, leave blank to keep)" else "") unset

/-- What `_esc` is given at each place. `v` has escaped the schedule before. -/
def Slot.text (cfg : Option Config) (csrfToken : String) : Slot → String
  | .title => "Configure — bluewave-worker"
  | .heading => (cfg.map Config.siteLabel).getD "Initial setup"
  | .csrfToken => csrfToken
  | .siteLabel => (cfg.map Config.siteLabel).getD ""
  | .bluewebUrl => (cfg.map Config.bluewebUrl).getD ""
  | .bluewebUser => (cfg.map Config.bluewebUser).getD ""
  | .bluewebHint => passwordHint cfg "BlueWeb account password"
  | .operatorTimezone => (cfg.map Config.operatorTimezone).getD ""
  | .mysqlHost => (cfg.map Config.mysqlHost).getD ""
  | .mysqlPort => (cfg.map fun cfg => toString cfg.mysqlPort).getD "3306"
  | .mysqlDatabase => (cfg.map Config.mysqlDatabase).getD ""
  | .mysqlUser => (cfg.map Config.mysqlUser).getD ""
  | .mysqlHint => passwordHint cfg "DB user password"
  | .scheduleLocal => orText (esc ((cfg.map Config.scheduleLocal).getD "")) "03:00"
  | .catchUpCapDays => (cfg.map fun cfg => toString cfg.catchUpCapDays).getD "14"

/-- `site_banner`. -/
def siteBanner (configured : Bool) : List (Piece Slot) :=
  if configured then []
  else
    [.fixed "<div class='banner'>First-time setup. Fill all required fields, then ",
      .fixed "<strong>Test</strong> and <strong>Save</strong>. Probes (BlueWeb HEAD &rarr; MySQL ",
      .fixed "&rarr; Selenium login) run before any data is persisted.</div>"]

/-- The inputs of the form. -/
def configFields : List (Piece Slot) :=
  [.fixed "<form id='cfg' autocomplete='off'>\n<input type='hidden' name='csrf_token' value='",
    .value .csrfToken,
    .fixed "'>\n\n<h2>Site</h2>\n<div class='field'><label>Site label</label>\n",
    .fixed "<input name='site_label' value='", .value .siteLabel,
    .fixed "' required\n",
    .fixed "       placeholder='e.g. Easy Foods Inc.  (shown on dashboard header)'></div>\n\n",
    .fixed "<h2>BlueWeb</h2>\n<div class='field'><label>URL</label>\n",
    .fixed "<input name='blueweb_url' value='", .value .bluewebUrl,
    .fixed "' required\n",
    .fixed "       placeholder='e.g. http://blueweb.lan  or  http://10.102.1.50:8080'></div>\n",
    .fixed "<div class='field'><label>Username</label>\n",
    .fixed "<input name='blueweb_user' value='", .value .bluewebUser,
    .fixed "' required\n       placeholder='e.g. Administrator'></div>\n",
    .fixed "<div class='field'><label>Password</label>\n",
    .fixed "<input name='blueweb_password' type='password'\n       placeholder='",
    .value .bluewebHint,
    .fixed "'></div>\n<div class='field'><label>Operator timezone (IANA)</label>\n",
    .fixed "<input name='operator_timezone' value='", .value .operatorTimezone,
    .fixed "' required\n",
    .fixed "       placeholder='e.g. America/New_York, America/Chicago, Europe/Madrid'></div>\n\n",
    .fixed "<h2>MySQL (target audit DB)</h2>\n<div class='field'><label>Host</label>\n",
    .fixed "<input name='mysql_host' value='", .value .mysqlHost,
    .fixed "' required\n",
    .fixed "       placeholder='e.g. mysql.internal.example  or  10.102.1.20'></div>\n",
    .fixed "<div class='field'><label>Port</label>\n",
    .fixed "<input name='mysql_port' type='number' value='", .value .mysqlPort,
    .fixed "' required\n       min='1' max='65535' placeholder='3306'></div>\n",
    .fixed "<div class='field'><label>Database</label>\n",
    .fixed "<input name='mysql_database' value='", .value .mysqlDatabase,
    .fixed "' required\n",
    .fixed "       placeholder='e.g. audit  (the schema, not the table)'></div>\n",
    .fixed "<div class='field'><label>User</label>\n",
    .fixed "<input name='mysql_user' value='", .value .mysqlUser,
    .fixed "' required\n",
    .fixed "       placeholder='e.g. audit_writer  (needs CREATE+INSERT+SELECT on first boot)'>",
    .fixed "</div>\n<div class='field'><label>Password</label>\n",
    .fixed "<input name='mysql_password' type='password'\n       placeholder='",
    .value .mysqlHint,
    .fixed "'></div>\n\n<h2>Schedule</h2>\n",
    .fixed "<div class='field'><label>Daily fire (HH:MM, operator TZ)</label>\n",
    .fixed "<input name='schedule_local' value='", .value .scheduleLocal,
    .fixed "' required\n       pattern='[0-2][0-9]:[0-5][0-9]'\n",
    .fixed "       placeholder='e.g. 03:00  (runs daily at 3:00 in the operator timezone)'></div>\n",
    .fixed "<div class='field'><label>Catch-up cap (days)</label>\n",
    .fixed "<input name='catch_up_cap_days' type='number' value='", .value .catchUpCapDays,
    .fixed "' required\n       min='1' max='90'\n",
    .fixed "       placeholder='14  (boot-time catch-up backfills up to N missed days)'></div>\n\n",
    .fixed "<div class='button-row'>\n",
    .fixed "<button id='test-bluewave' type='button' class='secondary'>Test BlueWeb</button>\n",
    .fixed "<button id='test-mysql' type='button' class='secondary'>Test MySQL</button>\n",
    .fixed "<button type='submit' class='primary'>Save</button>\n</div>\n</form>\n\n"]

/-- `_render_config_html`, before its values are known. -/
def configPage (configured : Bool) : List (Piece Slot) :=
  pageShell Slot.title
    ([.fixed "<header>\n<h1>Configure</h1>\n<div class='meta'>", .value .heading,
      .fixed "</div>\n</header>\n<main>\n"] ++
    siteBanner configured ++
    [.fixed "\n<nav>\n<a href='/'>&larr; Dashboard</a>\n</nav>\n\n"] ++
    configFields ++
    [.fixed "<div id='status' class='status'></div>\n\n<div class='footer'>\n",
      .fixed "<span>Passwords are write-only — leave blank to keep the existing value.</span>\n",
      .fixed "<span>Spec: <code>BLUEWEB_AUDIT_INGEST_SPEC.md</code> &sect;7</span>\n</div>\n",
      .fixed "</main>\n", .block "script", .fixed "\n"]) []

/-! ## All of them -/

inductive Page where
  | dashboard (cfg : Option Config) (state : State) (recentRuns : List RunEntry)
      (csrfToken healthzStatus : String) (nextRunAtUtc : Option Int)
  | config (cfg : Option Config) (csrfToken : String)
  | runs (cfg : Config) (rows : List RunEntry) (q : RunsQuery)

section
variable {Trigger : Type} (L : Libraries Zone Trigger) (A : Assets) (now : Int)

def Page.html : Page → String
  | .dashboard cfg state recentRuns csrfToken healthzStatus nextRunAtUtc =>
    render (writer A A.dashboardJs id)
      (dashboardPage L now cfg state recentRuns csrfToken healthzStatus nextRunAtUtc)
  | .config cfg csrfToken =>
    render (writer A A.configJs (Slot.text cfg csrfToken)) (configPage cfg.isSome)
  | .runs cfg rows q => render (writer A "" id) (runsPage cfg rows q)

/-- `index`. `load`, the query of the last runs and the token are what the calls come to. -/
def index (load : Except Exn (Option Config)) (order : Except Exn (List RunRow)) (state : State)
    (token : Except Exn String) : Except Failure Page := do
  match ← unhandled load with
  | none => pure (.dashboard none initial [] "" "" none)
  | some cfg =>
    -- what goes wrong with the database leaves the table empty
    let recentRuns := match order with
      | .ok order => (order.take 10).map selected
      | .error _ => []
    let token ← unhandled token
    let nextRun ← unhandled (nextRunUtc L cfg now)
    pure (.dashboard (some cfg) state recentRuns token "" nextRun)

/-- `get_config`. -/
def getConfig (load : Except Exn (Option Config)) (token : Except Exn String) :
    Except Failure Page := do
  let cfg ← unhandled load
  let token ← unhandled token
  pure (.config cfg token)

end

/-! ## What `_esc` writes -/

theorem esc_toList (s : String) : (esc s).toList = s.toList.flatMap escapeChar := by
  rw [esc, String.toList_ofList]

/-- A character is written as a reference to it, or as itself. -/
theorem escapeChar_cases (c : Char) :
    (escapeChar c, c) ∈ references ∨ escapeChar c = [c] ∧ c ≠ '&' ∧ c ≠ '<' ∧ isQuote c = false := by
  unfold escapeChar
  split <;> try exact .inl (by decide)
  rename_i hamp hlt _ hquot hapos
  have hquote : isQuote c = false := decide_eq_false (not_or.mpr ⟨hapos, hquot⟩)
  exact .inr ⟨rfl, hamp, hlt, hquote⟩

theorem esc_inert (s : String) : ∀ c ∈ (esc s).toList, c ≠ '<' ∧ isQuote c = false := by
  intro c hc
  rw [esc_toList] at hc
  obtain ⟨d, -, hd⟩ := List.mem_flatMap.mp hc
  rcases escapeChar_cases d with href | ⟨hself, -, hlt, hquote⟩
  · have hall : (references.all fun r => r.1.all fun c => c != '<' && !isQuote c) = true := rfl
    simpa using List.all_eq_true.mp (List.all_eq_true.mp hall _ href) c hd
  · rw [hself] at hd
    obtain rfl := List.mem_singleton.mp hd
    exact ⟨hlt, hquote⟩

/-- A reader gets every text back. -/
theorem decode_esc (s : String) : decode (esc s).toList = s.toList := by
  rw [esc_toList]
  induction s.toList with
  | nil => rfl
  | cons c cs ih =>
    rw [List.flatMap_cons]
    rcases escapeChar_cases c with href | ⟨hself, hamp, -⟩
    · rw [decode_reference href, ih]
    · rw [hself, List.singleton_append, decode_char hamp, ih]

theorem esc_eq_self {s : String} (h : ∀ c ∈ s.toList, escapeChar c = [c]) : esc s = s := by
  have hself : ∀ l : List Char, (∀ c ∈ l, escapeChar c = [c]) → l.flatMap escapeChar = l := by
    intro l hl
    induction l with
    | nil => rfl
    | cons c cs ih =>
      rw [List.flatMap_cons, hl c List.mem_cons_self,
        ih fun d hd => hl d (List.mem_cons_of_mem _ hd)]
      rfl
  rw [esc, hself _ h, String.ofList_toList]

theorem escapeChar_eq_self {c : Char} (hc : c ∉ ['&', '<', '>', '"', '\'']) :
    escapeChar c = [c] := by
  simp only [List.mem_cons, List.not_mem_nil, or_false, not_or] at hc
  obtain ⟨hamp, hlt, hgt, hquot, hapos⟩ := hc
  unfold escapeChar
  split <;> first | contradiction | rfl

theorem esc_toString (n : Nat) : esc (toString n) = toString n := by
  refine esc_eq_self fun c hc => escapeChar_eq_self fun hspecial => ?_
  have hdigit : c.isDigit = true := by
    have hmem : c ∈ Nat.toDigits 10 n := by simpa using hc
    exact Nat.isDigit_of_mem_toDigits (by decide) (by decide) hmem
  simp only [List.mem_cons, List.not_mem_nil, or_false] at hspecial
  rcases hspecial with rfl | rfl | rfl | rfl | rfl <;> cases hdigit

/-! ## The page of the runs -/

theorem render_runRow (A : Assets) (js : String) (r : RunEntry) :
    render (writer A js id) (runRow r) = runHtml r := by
  have hplain : ∀ l : List Char, l.all Char.isAlpha = true → ∀ c ∈ l,
      c ∉ ['&', '<', '>', '"', '\''] := by
    intro l hl c hc hspecial
    have halpha := List.all_eq_true.mp hl c hc
    simp only [List.mem_cons, List.not_mem_nil, or_false] at hspecial
    rcases hspecial with rfl | rfl | rfl | rfl | rfl <;> cases halpha
  have hword : ∀ s ∈ ["ok", "running", "fail", "yes", "no"], esc s = s := by
    simp only [List.mem_cons, List.not_mem_nil, or_false]
    rintro s (rfl | rfl | rfl | rfl | rfl)
    all_goals
      refine esc_eq_self fun c hc => escapeChar_eq_self ?_
      rw [toList_eq rfl] at hc
      exact hplain _ rfl c hc
  have hcss : esc (css r.status) = css r.status := by
    refine hword _ ?_
    cases r.status <;> simp [css]
  have hmanual : esc (if r.manual then "yes" else "no") = if r.manual then "yes" else "no" := by
    refine hword _ ?_
    cases r.manual <;> simp
  delta runHtml
  simp only [runRow, render_cons, Piece.text, writer, id, escOption, hcss, hmanual]
  simp only [render, List.map_nil, String.join_nil, String.append_assoc, String.append_empty]

/-- The template of the page is what `_render_runs_html` writes. -/
theorem render_runsPage (A : Assets) (cfg : Config) (rows : List RunEntry) (q : RunsQuery) :
    render (writer A "" id) (runsPage cfg rows q) =
      renderRunsHtml (fun title body => render (writer A "" id) (pageShell title [.fixed body] []))
        cfg rows q := by
  have hrows : render (writer A "" id) (rows.flatMap runRow) = String.join (rows.map runHtml) := by
    induction rows with
    | nil => rfl
    | cons r rows ih =>
      rw [List.flatMap_cons, render_append, render_runRow, ih, List.map_cons, String.join_cons]
  delta renderRunsHtml RunsQuery.href
  simp only [runsPage, pageShell, runsTable, render_append, render_cons, Piece.text, hrows]
  simp only [writer, id, esc_toString]
  simp only [render, List.map_nil, String.join_nil, String.append_assoc, String.append_empty]

/-! ## Where the values stand -/

section
variable {α : Type} {t bodyHtml headExtra : List (Piece α)}

theorem sound_writer {A : Assets} {js : String} {text : α → String}
    (hcss : Markup.Closed "style".toList A.baseCss.toList)
    (hjs : Markup.Closed "script".toList js.toList) (h : walk .text (syms t) ≠ none) :
    (writer A js text).Sound t := by
  refine ⟨fun a => esc_inert (text a), fun name hname => ?_⟩
  have hraw : name.toList ∈ rawElements :=
    mem_rawElements h (List.mem_flatMap.mpr ⟨_, hname, List.mem_singleton_self _⟩)
  simp only [rawElements, List.mem_cons, List.not_mem_nil, or_false] at hraw
  rcases hraw with hstyle | hscript
  · obtain rfl : name = "style" := String.toList_inj.mp (hstyle.trans (toList_eq rfl).symm)
    exact hcss
  · obtain rfl : name = "script" := String.toList_inj.mp (hscript.trans (toList_eq rfl).symm)
    exact hjs

theorem walk_pageShell {title : α} (hbody : walk .text (syms bodyHtml) = some .text)
    (hhead : walk .text (syms headExtra) = some .text) :
    walk .text (syms (pageShell title bodyHtml headExtra)) = some .text := by
  refine walk_trans (walk_trans (walk_trans (walk_trans ?_ hhead) ?_) hbody) ?_
  all_goals
    rw [← walk_shape]
    simp only [List.map_cons, List.map_nil, Piece.shape, syms, Piece.syms, List.flatMap_cons,
      List.flatMap_nil]
    repeat rw [toList_eq rfl]
    decide +kernel

end

theorem walk_runsTable (rows : List RunEntry) :
    walk .text (syms (runsTable rows)) = some .text := by
  have hrow (r : RunEntry) : walk .text (syms (runRow r)) = some .text := by
    rw [runRow, ← walk_shape]
    simp only [List.map_cons, List.map_nil, Piece.shape, syms, Piece.syms, List.flatMap_cons,
      List.flatMap_nil]
    repeat rw [toList_eq rfl]
    decide +kernel
  have hrows : walk .text (syms (rows.flatMap runRow)) = some .text := by
    induction rows with
    | nil => rfl
    | cons r rows ih => exact walk_trans (hrow r) ih
  refine walk_trans (walk_trans ?_ hrows) ?_
  all_goals
    rw [← walk_shape]
    simp only [List.map_cons, List.map_nil, Piece.shape, syms, Piece.syms, List.flatMap_cons,
      List.flatMap_nil]
    repeat rw [toList_eq rfl]
    decide +kernel

theorem walk_runsPage (cfg : Config) (rows : List RunEntry) (q : RunsQuery) :
    walk .text (syms (runsPage cfg rows q)) = some .text := by
  refine walk_pageShell (walk_trans (walk_trans ?_ (walk_runsTable rows)) ?_) rfl
  all_goals
    rw [← walk_shape]
    simp only [List.map_cons, List.map_nil, Piece.shape, syms, Piece.syms, List.flatMap_cons,
      List.flatMap_nil]
    repeat rw [toList_eq rfl]
    decide +kernel

section
variable {Trigger : Type} {L L' : Libraries Zone Trigger}

theorem walk_inFlightHtml (d : Option Date) : walk .text (syms (inFlightHtml d)) = some .text := by
  cases d with
  | none =>
    simp only [inFlightHtml, syms, Piece.syms, List.flatMap_cons, List.flatMap_nil]
    rw [toList_eq rfl]
    decide +kernel
  | some d => rfl

theorem walk_statusPill (healthzStatus : String) :
    walk .text (syms (statusPill healthzStatus)) = some .text := by
  unfold statusPill
  split
  · rw [← walk_shape]
    simp only [List.map_cons, List.map_nil, Piece.shape, syms, Piece.syms, List.flatMap_cons,
      List.flatMap_nil]
    repeat rw [toList_eq rfl]
    decide +kernel
  · rfl

theorem walk_nextRunHtml (cfg : Config) (now : Int) (u : Option Int) :
    walk .text (syms (nextRunHtml L cfg now u)) = some .text := by
  cases u with
  | none => rfl
  | some u =>
    have hlocal : walk .text (syms (nextLocalHtml (nextLocal L cfg u))) = some .text := by
      unfold nextLocalHtml
      split
      · rw [← walk_shape]
        simp only [List.map_cons, List.map_nil, Piece.shape, syms, Piece.syms, List.flatMap_cons,
          List.flatMap_nil]
        repeat rw [toList_eq rfl]
        decide +kernel
      · rfl
    refine walk_trans ?_ hlocal
    rw [← walk_shape]
    simp only [List.map_cons, List.map_nil, Piece.shape, syms, Piece.syms, List.flatMap_cons,
      List.flatMap_nil]
    repeat rw [toList_eq rfl]
    decide +kernel

theorem walk_dashboardPage (now : Int) (cfg : Option Config) (state : State)
    (recentRuns : List RunEntry) (csrfToken healthzStatus : String) (nextRunAtUtc : Option Int) :
    walk .text (syms (dashboardPage L now cfg state recentRuns csrfToken healthzStatus
      nextRunAtUtc)) = some .text := by
  cases cfg with
  | none =>
    refine walk_pageShell ?_ rfl
    simp only [syms, Piece.syms, List.flatMap_cons, List.flatMap_nil]
    repeat rw [toList_eq rfl]
    decide +kernel
  | some cfg =>
    have hruns : walk .text (syms (if recentRuns ≠ [] then runsTable recentRuns
        else [.fixed "<p class='muted'>No runs yet.</p>"])) = some .text := by
      split
      · exact walk_runsTable recentRuns
      · simp only [syms, Piece.syms, List.flatMap_cons, List.flatMap_nil]
        rw [toList_eq rfl]
        decide +kernel
    refine walk_pageShell (walk_trans (walk_trans (walk_trans (walk_trans (walk_trans (walk_trans ?_
      (walk_inFlightHtml _)) (walk_statusPill _)) (walk_nextRunHtml cfg now _)) ?_) hruns) ?_) ?_
    all_goals
      rw [← walk_shape]
      simp only [List.map_cons, List.map_nil, Piece.shape, syms, Piece.syms, List.flatMap_cons,
        List.flatMap_nil]
      repeat rw [toList_eq rfl]
      decide +kernel

theorem walk_configPage (configured : Bool) :
    walk .text (syms (configPage configured)) = some .text := by
  have hbanner : walk .text (syms (siteBanner configured)) = some .text := by
    cases configured with
    | true => rfl
    | false =>
      simp only [siteBanner, Bool.false_eq_true, if_false, syms, Piece.syms, List.flatMap_cons,
        List.flatMap_nil]
      repeat rw [toList_eq rfl]
      decide +kernel
  have hfields : walk .text (syms configFields) = some .text := by
    simp only [configFields, syms, Piece.syms, List.flatMap_cons, List.flatMap_nil]
    repeat rw [toList_eq rfl]
    decide +kernel
  refine walk_pageShell
    (walk_trans (walk_trans (walk_trans (walk_trans ?_ hbanner) ?_) hfields) ?_) rfl
  all_goals
    simp only [syms, Piece.syms, List.flatMap_cons, List.flatMap_nil]
    repeat rw [toList_eq rfl]
    decide +kernel

/-! ## The tags of a page -/

/-- What the tags of a page may depend on. -/
inductive Outline where
  | setup
  | dashboard (runs : Nat) (inFlight status : Bool) (nextRun : Option Bool)
  | config (configured : Bool)
  | runs (runs : Nat)

def Page.outline (L : Libraries Zone Trigger) : Page → Outline
  | .dashboard none _ _ _ _ _ => .setup
  | .dashboard (some cfg) state recentRuns _ healthzStatus nextRunAtUtc =>
    .dashboard recentRuns.length state.inFlight.isSome (healthzStatus ≠ "")
      (nextRunAtUtc.map fun u => nextLocal L cfg u ≠ "")
  | .config cfg _ => .config cfg.isSome
  | .runs _ rows _ => .runs rows.length

def Page.shape (L : Libraries Zone Trigger) (now : Int) : Page → List (Piece Unit)
  | .dashboard cfg state recentRuns csrfToken healthzStatus nextRunAtUtc =>
    (dashboardPage L now cfg state recentRuns csrfToken healthzStatus nextRunAtUtc).map Piece.shape
  | .config cfg _ => (configPage cfg.isSome).map Piece.shape
  | .runs cfg rows q => (runsPage cfg rows q).map Piece.shape

theorem skeleton_html {A : Assets} (hA : A.Closed) (now : Int) (p : Page) :
    skeleton (p.html L A now).toList =
      (read .text [] [] (syms (p.shape L now))).map Token.bare := by
  cases p with
  | dashboard cfg state recentRuns csrfToken healthzStatus nextRunAtUtc =>
    have hwalk := @walk_dashboardPage _ L now cfg state recentRuns csrfToken healthzStatus nextRunAtUtc
    have hne := Option.ne_none_iff_exists'.mpr ⟨_, hwalk⟩
    exact skeleton_render (sound_writer hA.baseCss hA.dashboardJs hne) hne
  | config cfg csrfToken =>
    have hne := Option.ne_none_iff_exists'.mpr ⟨_, walk_configPage cfg.isSome⟩
    exact skeleton_render (sound_writer hA.baseCss hA.configJs hne) hne
  | runs cfg rows q =>
    have hne := Option.ne_none_iff_exists'.mpr ⟨_, walk_runsPage cfg rows q⟩
    have hnone : Markup.Closed "script".toList "".toList := by
      rw [toList_eq rfl, toList_eq rfl, Markup.Closed]
      decide
    exact skeleton_render (sound_writer hA.baseCss hnone hne) hne

theorem shape_runsTable {rows rows' : List RunEntry} (h : rows.length = rows'.length) :
    (runsTable rows).map Piece.shape = (runsTable rows').map Piece.shape := by
  have hrows : (rows.flatMap runRow).map Piece.shape = (rows'.flatMap runRow).map Piece.shape := by
    induction rows generalizing rows' with
    | nil => rw [List.length_eq_zero_iff.mp h.symm]
    | cons r rows ih =>
      obtain ⟨r', rows', rfl⟩ := List.exists_cons_of_length_eq_add_one h.symm
      have hrow : (runRow r).map Piece.shape = (runRow r').map Piece.shape := by
        simp only [runRow, List.map_cons, List.map_nil, Piece.shape]
      rw [List.flatMap_cons, List.flatMap_cons, List.map_append, List.map_append, hrow,
        ih (Nat.succ.inj h)]
  simp only [runsTable, List.map_append, hrows]

theorem shape_pageShell {α β : Type} {title : α} {title' : β} {body head : List (Piece α)}
    {body' head' : List (Piece β)} (hbody : body.map Piece.shape = body'.map Piece.shape)
    (hhead : head.map Piece.shape = head'.map Piece.shape) :
    (pageShell title body head).map Piece.shape = (pageShell title' body' head').map Piece.shape := by
  simp only [pageShell, List.map_append, List.map_cons, List.map_nil, Piece.shape, hbody, hhead]

theorem shape_runsPage (cfg cfg' : Config) {rows rows' : List RunEntry} (q q' : RunsQuery)
    (h : rows.length = rows'.length) :
    (runsPage cfg rows q).map Piece.shape = (runsPage cfg' rows' q').map Piece.shape := by
  refine shape_pageShell ?_ rfl
  simp only [List.map_append, List.map_cons, List.map_nil, Piece.shape, shape_runsTable h]

theorem shape_ite {α β : Type} {p q : Prop} [Decidable p] [Decidable q] {t u : List (Piece α)}
    {t' u' : List (Piece β)} (hpq : p ↔ q) (ht : t.map Piece.shape = t'.map Piece.shape)
    (hu : u.map Piece.shape = u'.map Piece.shape) :
    (if p then t else u).map Piece.shape = (if q then t' else u').map Piece.shape := by
  by_cases hp : p
  · rw [if_pos hp, if_pos (hpq.mp hp), ht]
  · rw [if_neg hp, if_neg (fun hq => hp (hpq.mpr hq)), hu]

theorem shape_nextRunHtml {now now' : Int} {cfg cfg' : Config} {u u' : Option Int}
    (h : (u.map fun u => decide (nextLocal L cfg u ≠ "")) =
      u'.map fun u => decide (nextLocal L' cfg' u ≠ "")) :
    (nextRunHtml L cfg now u).map Piece.shape = (nextRunHtml L' cfg' now' u').map Piece.shape := by
  rcases u with _ | u <;> rcases u' with _ | u'
  · rfl
  · cases h
  · cases h
  · have hlocal : (nextLocalHtml (nextLocal L cfg u)).map Piece.shape =
        (nextLocalHtml (nextLocal L' cfg' u')).map Piece.shape :=
      shape_ite (decide_eq_decide.mp (Option.some.inj h)) rfl rfl
    simp only [nextRunHtml, List.map_append, List.map_cons, List.map_nil, Piece.shape, hlocal]

theorem shape_dashboardPage {now now' : Int} {cfg cfg' : Config} {state state' : State}
    {recentRuns recentRuns' : List RunEntry} {csrfToken csrfToken' status status' : String}
    {u u' : Option Int} (hruns : recentRuns.length = recentRuns'.length)
    (hflight : state.inFlight.isSome = state'.inFlight.isSome) (hstatus : status ≠ "" ↔ status' ≠ "")
    (hnext : (u.map fun u => decide (nextLocal L cfg u ≠ "")) =
      u'.map fun u => decide (nextLocal L' cfg' u ≠ "")) :
    (dashboardPage L now (some cfg) state recentRuns csrfToken status u).map Piece.shape =
      (dashboardPage L' now' (some cfg') state' recentRuns' csrfToken' status' u').map
        Piece.shape := by
  have hflight' : (inFlightHtml state.inFlight).map Piece.shape =
      (inFlightHtml state'.inFlight).map Piece.shape := by
    cases hs : state.inFlight <;> cases hs' : state'.inFlight <;> simp [hs, hs'] at hflight <;>
      simp [inFlightHtml, Piece.shape]
  have hstatus' : (statusPill status).map Piece.shape = (statusPill status').map Piece.shape :=
    shape_ite hstatus rfl rfl
  have hsome : recentRuns ≠ [] ↔ recentRuns' ≠ [] := by
    rw [← List.length_pos_iff, ← List.length_pos_iff, hruns]
  refine shape_pageShell ?_ rfl
  simp only [List.map_append, List.map_cons, List.map_nil, Piece.shape, hflight', hstatus',
    @shape_nextRunHtml _ L L' now now' cfg cfg' u u' hnext,
    shape_ite hsome (shape_runsTable hruns) rfl]

theorem shape_eq {now now' : Int} {p p' : Page} (h : p.outline L = p'.outline L') :
    p.shape L now = p'.shape L' now' := by
  rcases p with ⟨_ | cfg, state, recentRuns, csrfToken, status, u⟩ | ⟨cfg, csrfToken⟩ | ⟨cfg, rows, q⟩ <;>
    rcases p' with ⟨_ | cfg', state', recentRuns', csrfToken', status', u'⟩ | ⟨cfg', csrfToken'⟩ |
      ⟨cfg', rows', q'⟩ <;>
    simp only [Page.outline, reduceCtorEq] at h
  · rfl
  · obtain ⟨hruns, hflight, hstatus, hnext⟩ := Outline.dashboard.inj h
    exact shape_dashboardPage hruns hflight (decide_eq_decide.mp hstatus) hnext
  · simp only [Page.shape, Outline.config.inj h]
  · exact shape_runsPage _ _ _ _ (Outline.runs.inj h)

end

/-- Whatever the configuration, the runs, the queue and the token are, the tags of a page and
the names of their attributes are those of its outline. -/
theorem skeleton_outline {Trigger : Type} (L L' : Libraries Zone Trigger) (A : Assets)
    (hA : A.Closed) (now now' : Int) (p p' : Page) (h : p.outline L = p'.outline L') :
    skeleton (p.html L A now).toList = skeleton (p'.html L' A now').toList := by
  rw [skeleton_html hA, skeleton_html hA, shape_eq h]

/-- A line of each. The scripts hold markup in their strings. -/
def someAssets : Assets where
  baseCss := "h2 \x7b margin-top: 0; \x7d"
  configJs := "let html = '<strong>Saved.</strong>';"
  dashboardJs := "show('fail', '<strong>Refused.</strong> ');"

theorem someAssets_closed : someAssets.Closed := by
  constructor
  all_goals
    simp only [someAssets]
    rw [toList_eq rfl, toList_eq rfl, Markup.Closed]
    decide

/-- A label that tries to be a script. -/
theorem skeleton_outline_script :
    skeleton ((Page.config (some { DailyFire.lateSchedule with
        siteLabel := "'><script>alert(1)</script>" }) "t").html DailyFire.newYorkLibraries
        someAssets 0).toList =
      skeleton ((Page.config (some DailyFire.lateSchedule) "t").html DailyFire.newYorkLibraries
        someAssets 0).toList :=
  skeleton_outline _ _ _ someAssets_closed 0 0 _ _ rfl

end Bluewave.Pages
