import Bluewave.SafeDriver
import Bluewave.Schema

/-! `login_and_navigate` followed by `scrape_event_report`, and what the denylist is worth
there: none of the selectors of the flow is on it, so the gate lets each through to the
first element it matches, whatever that is. -/
namespace Bluewave.ReportFlow
open Lib Lib.XPath Bluewave.Exceptions Bluewave.Selectors Bluewave.SafeDriver
open Bluewave.Schema (reprOption)

structure DateInput where
  attempt : Attempt
  observed : Except WebDriverException (Option String)
  observedAfterKeys : Except WebDriverException (Option String)

inductive ReportOutcome where
  | hasRows
  | noRows
  deriving DecidableEq

/-- What the browser and the site answer to one run, in the order in which it asks. The
states are what `capture_page_state` has to say. -/
structure Visit where
  get : Option WebDriverException
  landed : Except WebDriverException (List Node)
  form : Option WebDriverException
  formState : String
  username : Attempt
  password : Attempt
  submit : Attempt
  enter : Attempt
  menu : Option WebDriverException
  menuState : String
  reports : Attempt
  reportsPage : Option WebDriverException
  wipe : Option Exn
  dropdownWait : Option WebDriverException
  dropdown : Attempt
  startDate : DateInput
  endDate : DateInput
  getReport : Attempt
  outcome : Except WebDriverException ReportOutcome
  csv : Attempt
  download : Option String

def answer {α : Type} : Except WebDriverException α → Driven α
  | .ok a => pure a
  | .error e => throw (.webDriver e)

def anyKind (_ : WebDriverKind) : Bool := true

/-- `_do_login_form_flow`. -/
def doLoginFormFlow (v : Visit) (user password : String) (loginWaitS : Nat) : Driven Unit := do
  exceptFor (· = .timeout) (raise v.form) fun _ =>
    runFailure .navFailed ("login form (id='tbUserName') did not appear in the DOM within " ++
      toString loginWaitS ++ "s. " ++ v.formState)
  exceptFor (· = .noSuchElement)
    (do
      typeInto v.username loginUsername user
      typeInto v.password loginPassword password)
    fun e => runFailure .navFailed ("login form input not found: " ++ e.text)
  -- without a submit control, Enter in the password field
  exceptFor (· = .noSuchElement) (click v.submit loginSubmit) fun _ =>
    exceptFor anyKind
      (do
        let _ ← find v.enter loginPassword
        raise v.enter.keys)
      fun e => runFailure .navFailed
        ("could not submit login form (no submit control, no Enter): " ++ e.text)
  exceptFor (· = .timeout) (raise v.menu) fun _ =>
    runFailure .authFailed ("Main menu not visible after submit. " ++ v.menuState)

/-- `bool(find_elements(MAIN_MENU_REPORTS))`. -/
def alreadyAuthed (v : Visit) : Bool :=
  match v.landed with
  | .ok page => (findElement page mainMenuReports.locator).isSome
  | .error _ => false

def loginAndNavigate (v : Visit) (url user password : String) (loginWaitS navWaitS : Nat) :
    Driven Unit := do
  exceptFor anyKind (raise v.get) fun e =>
    runFailure .navFailed ("could not reach " ++ url ++ ": " ++ e.text)
  (if alreadyAuthed v then pure () else doLoginFormFlow v user password loginWaitS : Driven Unit)
  exceptFor anyKind (click v.reports mainMenuReports) fun e =>
    if e.kind = .noSuchElement then
      runFailure .navFailed ("Reports button not found at click time: " ++ e.text)
    else runFailure .navFailed ("could not click Reports button: " ++ e.text)
  exceptFor (· = .timeout) (raise v.reportsPage) fun _ =>
    runFailure .navFailed ("'Choose Report:' not present on Reports page within " ++
      toString navWaitS ++ "s")

def selectEventReport (v : Visit) : Driven Unit := do
  exceptFor (· = .timeout) (raise v.dropdownWait) fun _ =>
    runFailure .navFailed "Choose Report dropdown did not render"
  exceptFor anyKind
    (do
      let _ ← find v.dropdown reportTypeDropdown
      raise v.dropdown.first)
    fun e => runFailure .navFailed ("could not select 'Event' report type: " ++ e.text)

section
variable (repr : String → String)

/-- `_set_one_date_input`. It sets the value by a script of its own. -/
def setOneDateInput (d : DateInput) (sel : Selector) (value : String) : Driven Unit := do
  let _ ← find d.attempt sel
  raise d.attempt.script
  let current ← answer d.observed
  if current = some value then pure ()
  else
    let current ← exceptFor anyKind
      (do
        raise d.attempt.first
        raise d.attempt.keys
        answer d.observedAfterKeys)
      fun _ => pure none
    if current = some value then pure ()
    else runFailure .navFailed ("date input did not accept " ++ repr value ++
      " via JS or send_keys (observed " ++ reprOption repr current ++ ")")

/-- `set_date_range`, of the date as `MM/DD/YYYY`. -/
def setDateRange (v : Visit) (value : String) : Driven Unit :=
  exceptFor (· = .noSuchElement)
    (do
      setOneDateInput repr v.startDate startDateInput value
      setOneDateInput repr v.endDate endDateInput value)
    fun e => runFailure .navFailed ("date input not found: " ++ e.text)

def clickGetReportAndWait (v : Visit) : Driven ReportOutcome := do
  exceptFor (· = .noSuchElement) (click v.getReport getReportButton) fun e =>
    runFailure .navFailed ("Get Report button not found: " ++ e.text)
  exceptFor (· = .timeout) (answer v.outcome) fun _ =>
    runFailure .reportTimeout "neither result row nor no-results indicator appeared within 60s"

def clickCsvAndAwaitFile (v : Visit) (downloadDir : String) : Driven String := do
  exceptFor (· = .noSuchElement) (click v.csv csvExportButton) fun e =>
    runFailure .downloadFailed ("CSV export button not found: " ++ e.text)
  match v.download with
  | some path => pure path
  | none => runFailure .downloadFailed ("'BlueWeb - Reports.csv' did not materialize in " ++
      repr downloadDir ++ " within 60s")

/-- `scrape_event_report`: the downloaded file, or `none` for a report without rows. -/
def scrapeEventReport (v : Visit) (value downloadDir : String) : Driven (Option String) := do
  Logged.raised (v.wipe.map Raised.exn)
  selectEventReport v
  setDateRange repr v value
  let outcome ← clickGetReportAndWait v
  match outcome with
  | .noRows => pure none
  | .hasRows =>
    let path ← clickCsvAndAwaitFile repr v downloadDir
    pure (some path)

/-- The pull of a report in a fresh browser. -/
def pullReport (v : Visit) (url user password value downloadDir : String) :
    Driven (Option String) := do
  loginAndNavigate v url user password 30 15
  scrapeEventReport repr v value downloadDir

/-- What the worker goes for and does during the run. -/
def events (v : Visit) (url user password value downloadDir : String) : List Event :=
  ((pullReport repr v url user password value downloadDir).outcome []).2

end

/-! ## Every call is paired -/

/-- The six steps at which the flow clicks or types. -/
def steps (v : Visit) : List (List Node × Selector) :=
  [(v.username.page, loginUsername), (v.password.page, loginPassword),
    (v.submit.page, loginSubmit), (v.reports.page, mainMenuReports),
    (v.getReport.page, getReportButton), (v.csv.page, csvExportButton)]

section
variable {plan : List (List Node × Selector)} {α β : Type}

theorem raise_paired (fault : Option WebDriverException) :
    Logged.Appends (Paired plan) (raise fault) := .raised (paired_closed plan).nil _

theorem runFailure_paired (cls : RunFailure) (message : String) :
    Logged.Appends (Paired plan) (runFailure cls message : Driven α) := .throw (paired_closed plan).nil _

theorem pure_paired (a : α) : Logged.Appends (Paired plan) (pure a : Driven α) :=
  .pure (paired_closed plan).nil a

theorem answer_paired (a : Except WebDriverException α) :
    Logged.Appends (Paired plan) (answer a) := by
  cases a with
  | ok a => exact pure_paired a
  | error e => exact .throw (paired_closed plan).nil _

theorem find_paired (a : Attempt) (sel : Selector) : Logged.Appends (Paired plan) (find a sel) :=
  find_appends (paired_closed plan).nil a sel

theorem except_paired {caught : WebDriverKind → Bool} {m : Driven α}
    {h : WebDriverException → Driven α} (hm : Logged.Appends (Paired plan) m)
    (hh : ∀ e, Logged.Appends (Paired plan) (h e)) :
    Logged.Appends (Paired plan) (exceptFor caught m h) :=
  exceptFor_appends hm hh (paired_closed plan).nil (paired_closed plan).append

theorem bind_paired {m : Driven α} {f : α → Driven β} (hm : Logged.Appends (Paired plan) m)
    (hf : ∀ a, Logged.Appends (Paired plan) (f a)) : Logged.Appends (Paired plan) (m >>= f) :=
  .bind (paired_closed plan) hm hf

end

section
variable (v : Visit)

theorem doLoginFormFlow_paired (user password : String) (loginWaitS : Nat) :
    Logged.Appends (Paired (steps v)) (doLoginFormFlow v user password loginWaitS) := by
  refine bind_paired (except_paired (raise_paired _) fun _ => runFailure_paired _ _) fun _ => ?_
  refine bind_paired (except_paired (bind_paired (typeInto_paired (by simp [steps]) _)
    fun _ => typeInto_paired (by simp [steps]) _) fun _ => runFailure_paired _ _) fun _ => ?_
  refine bind_paired (except_paired (click_paired (by simp [steps])) fun _ => except_paired
    (bind_paired (find_paired _ _) fun _ => raise_paired _) fun _ => runFailure_paired _ _) fun _ => ?_
  exact except_paired (raise_paired _) fun _ => runFailure_paired _ _

theorem loginAndNavigate_paired (url user password : String) (loginWaitS navWaitS : Nat) :
    Logged.Appends (Paired (steps v))
      (loginAndNavigate v url user password loginWaitS navWaitS) := by
  refine bind_paired (except_paired (raise_paired _) fun _ => runFailure_paired _ _) fun _ => ?_
  refine bind_paired ?_ fun _ => bind_paired (except_paired (click_paired (by simp [steps]))
    fun e => ?_) fun _ => except_paired (raise_paired _) fun _ => runFailure_paired _ _
  · split
    · exact pure_paired ()
    · exact doLoginFormFlow_paired v user password loginWaitS
  · split <;> exact runFailure_paired _ _

theorem selectEventReport_paired : Logged.Appends (Paired (steps v)) (selectEventReport v) := by
  refine bind_paired (except_paired (raise_paired _) fun _ => runFailure_paired _ _) fun _ => ?_
  exact except_paired (bind_paired (find_paired _ _) fun _ => raise_paired _)
    fun _ => runFailure_paired _ _

variable (repr : String → String)

theorem setOneDateInput_paired (d : DateInput) (sel : Selector) (value : String) :
    Logged.Appends (Paired (steps v)) (setOneDateInput repr d sel value) := by
  refine bind_paired (find_paired _ _) fun _ => bind_paired (raise_paired _) fun _ =>
    bind_paired (answer_paired _) fun current => ?_
  split
  · exact pure_paired ()
  · refine bind_paired (except_paired (bind_paired (raise_paired _) fun _ =>
      bind_paired (raise_paired _) fun _ => answer_paired _) fun _ => pure_paired none)
      fun current => ?_
    split
    · exact pure_paired ()
    · exact runFailure_paired _ _

theorem setDateRange_paired (value : String) :
    Logged.Appends (Paired (steps v)) (setDateRange repr v value) :=
  except_paired (bind_paired (setOneDateInput_paired v repr _ _ _)
    fun _ => setOneDateInput_paired v repr _ _ _) fun _ => runFailure_paired _ _

theorem clickGetReportAndWait_paired :
    Logged.Appends (Paired (steps v)) (clickGetReportAndWait v) :=
  bind_paired (except_paired (click_paired (by simp [steps])) fun _ => runFailure_paired _ _)
    fun _ => except_paired (answer_paired _) fun _ => runFailure_paired _ _

theorem clickCsvAndAwaitFile_paired (downloadDir : String) :
    Logged.Appends (Paired (steps v)) (clickCsvAndAwaitFile repr v downloadDir) := by
  refine bind_paired (except_paired (click_paired (by simp [steps]))
    fun _ => runFailure_paired _ _) fun _ => ?_
  split
  · exact pure_paired _
  · exact runFailure_paired _ _

theorem scrapeEventReport_paired (value downloadDir : String) :
    Logged.Appends (Paired (steps v)) (scrapeEventReport repr v value downloadDir) := by
  refine bind_paired (.raised (paired_closed _).nil _) fun _ =>
    bind_paired (selectEventReport_paired v) fun _ =>
    bind_paired (setDateRange_paired v repr value) fun _ =>
    bind_paired (clickGetReportAndWait_paired v) fun outcome => ?_
  cases outcome with
  | noRows => exact pure_paired none
  | hasRows =>
    exact bind_paired (clickCsvAndAwaitFile_paired v repr downloadDir)
      fun path => pure_paired (some path)

theorem events_paired (url user password value downloadDir : String) :
    Paired (steps v) (events repr v url user password value downloadDir) := by
  have hrun : Logged.Appends (Paired (steps v))
      (pullReport repr v url user password value downloadDir) :=
    bind_paired (loginAndNavigate_paired v url user password 30 15)
      fun _ => scrapeEventReport_paired v repr value downloadDir
  obtain ⟨new, hnew, hpaired⟩ := hrun []
  rw [List.nil_append] at hnew
  show Paired (steps v) (Logged.outcome (pullReport repr v url user password value downloadDir) []).2
  rw [hnew]
  exact hpaired

end

/-! ## The denylist -/

/-- No element that was operated on is one the denylist names. -/
def Untouched (events : List Event) : Prop :=
  ∀ op el, .operation op el ∈ events → ¬ Denied el

/-- The first element the selector finds on the page neither reads 'Emergency Lockdown'
nor has 'lockdown' in its id or class. -/
def Harmless (page : List Node) (sel : Selector) : Prop :=
  ∀ el, findElement page sel.locator = some el → ¬ Lockdown el

/-- The denylist is kept exactly as far as the pages keep it: when they are harmless at
those of the six steps of the flow that the run comes to. -/
theorem untouched_iff (repr : String → String) (v : Visit)
    (url user password value downloadDir : String) :
    (Untouched (events repr v url user password value downloadDir) ↔
      ∀ page sel, .target page sel ∈ events repr v url user password value downloadDir →
        Harmless page sel) ∧
    ∀ page sel, .target page sel ∈ events repr v url user password value downloadDir →
      (page, sel) ∈ steps v := by
  have hpaired := events_paired v repr url user password value downloadDir
  refine ⟨⟨?_, ?_⟩, hpaired.targets⟩
  · intro huntouched page sel htarget el hfind hlockdown
    obtain ⟨op, hop⟩ := (hpaired.operated el).mpr ⟨page, sel, htarget, hfind⟩
    exact huntouched op el hop (denied_iff.mpr hlockdown)
  · intro hharmless op el hop hdenied
    obtain ⟨page, sel, htarget, hfind⟩ := (hpaired.operated el).mp ⟨op, hop⟩
    exact hharmless page sel htarget el hfind (denied_iff.mp hdenied)

/-! ## A run -/

/-- A call that nothing disturbs. -/
def calm (page : List Node) : Attempt := ⟨page, "", none, none, none, none⟩

def mainMenu : List Node := [.element "a" [("id", "btnReports_quicklinks")] [.text "Reports"]]

def reportForm : List Node :=
  [.element "select" [("id", "ctl00_ContentPlaceHolder1_ddlReportType")] [],
    .element "input" [("id", "txtStartDate")] [], .element "input" [("id", "txtEndDate")] [],
    .element "input" [("id", "ctl00_ContentPlaceHolder1_btnGetReport")] []]

/-- A results toolbar with the CSV button in third place. -/
def results : List Node :=
  [.element "div" [("id", "tblReportResults_wrapper")]
    [.element "div" []
      [.element "button" [] [.text "Copy"], .element "button" [] [.text "Emergency Lockdown"],
        .element "button" [] [.text "CSV"]]]]

def dateAnswered (value : String) : DateInput :=
  ⟨calm reportForm, .ok (some value), .ok (some value)⟩

/-- The session is there already, and nothing fails. -/
def toolbarVisit (value : String) : Visit where
  get := none
  landed := .ok mainMenu
  form := none
  formState := ""
  username := calm []
  password := calm []
  submit := calm []
  enter := calm []
  menu := none
  menuState := ""
  reports := calm mainMenu
  reportsPage := none
  wipe := none
  dropdownWait := none
  dropdown := calm reportForm
  startDate := dateAnswered value
  endDate := dateAnswered value
  getReport := calm reportForm
  outcome := .ok .hasRows
  csv := calm results
  download := some "/downloads/BlueWeb - Reports.csv"

/-- The second button of the toolbar comes before the one that reads CSV, and is clicked. -/
theorem not_untouched : ¬ ∀ (repr : String → String) (v : Visit)
    (url user password value downloadDir : String),
      Untouched (events repr v url user password value downloadDir) := by
  intro h
  obtain ⟨el, hlast, hlockdown⟩ : ∃ el,
      (events id (toolbarVisit "05/14/2026") "http://blueweb/" "operator" "secret" "05/14/2026"
        "/downloads").getLast? = some (.operation .click el) ∧ Lockdown el :=
    ⟨_, rfl, .inl (by decide)⟩
  exact h _ _ _ _ _ _ _ _ _ (List.mem_of_getLast? hlast) (denied_iff.mpr hlockdown)

end Bluewave.ReportFlow
