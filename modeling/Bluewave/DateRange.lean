import Bluewave.DateInputs

/-! Whether both dates are there when `set_date_range` returns. Each input is read after it
was set, the start date not again after the end date. -/
namespace Bluewave.DateRange
open Lib Lib.XPath Bluewave.Exceptions Bluewave.Selectors Bluewave.DateInputs
open Bluewave.Datetime Bluewave.Tables
open Bluewave.SafeDriver (WebDriverKind WebDriverException Raised Event Driven
  exceptFor_appends find_appends)
open Bluewave.ReportFlow (Visit DateInput)

/-! ## The page in a run of the report -/

/-- What the worker is answered while it sets the input on this page. -/
def answered {σ : Type} (page : Page σ) (sel : Selector) (value : String) (s : σ) :
    DateInput :=
  let t := page.after sel (script value) s
  let cleared := page.run sel [.clear] t
  { attempt :=
      { page.attempt sel s with
        script := (page.run sel (script value).acts s).1
        first := cleared.1
        keys := (page.run sel [.sendKeys value] cleared.2).1 }
    observed := page.read sel t
    observedAfterKeys := page.read sel (page.after sel (keys value) t) }

/-- The program on answers comes to what the program on the page comes to, and logs
nothing. -/
def Answers {σ α : Type} (m : Driven α) (w : Worker σ α) (s : σ) : Prop :=
  ∀ log, m.outcome log = ((w.outcome s).1, log)

section
variable {σ α β : Type} {page : Page σ} {sel : Selector} {s t : σ}

theorem Answers.bind {m : Driven α} {w : Worker σ α} {f : α → Driven β} {g : α → Worker σ β}
    (hm : Answers m w s) (hf : ∀ a t, Stateful.Returns w s a t → Answers (f a) (g a) t) :
    Answers (m >>= f) (w >>= g) s := by
  intro log
  rw [Logged.outcome_bind, Stateful.outcome_bind, hm log]
  rcases hw : w.outcome s with ⟨e | a, t⟩
  · rfl
  · exact hf a t hw log

theorem Answers.exceptFor {caught : WebDriverKind → Bool} {m : Driven α} {w : Worker σ α}
    {f : WebDriverException → Driven α} {g : WebDriverException → Worker σ α}
    (hm : Answers m w s) (hf : ∀ e t, Answers (f e) (g e) t) :
    Answers (SafeDriver.exceptFor caught m f) (exceptFor caught w g) s := by
  intro log
  unfold SafeDriver.exceptFor DateInputs.exceptFor
  rw [Logged.outcome_tryCatch, Stateful.outcome_tryCatch, hm log]
  rcases w.outcome s with ⟨raised | a, t⟩
  · cases raised with
    | exn e => rfl
    | webDriver e =>
      show (if caught e.kind then f e else throw (.webDriver e) : Driven α).outcome log =
        ((Stateful.outcome (if caught e.kind then g e else throw (.webDriver e)) t).1, log)
      split
      · exact hf e t log
      · rfl
  · rfl

theorem Answers.pure (a : α) : Answers (Pure.pure a : Driven α) (Pure.pure a : Worker σ α) s :=
  fun _ => rfl

theorem Answers.runFailure (cls : RunFailure) (message : String) :
    Answers (SafeDriver.runFailure cls message : Driven α) (runFailure cls message) s :=
  fun _ => rfl

theorem answers_find (hsel : sel ∉ denylist) {value : String} :
    Answers (SafeDriver.find (answered page sel value s).attempt sel) (find page sel) s := by
  intro log
  rw [SafeDriver.find_allowed hsel]
  show _ = ((Stateful.outcome
    (Stateful.lift ((SafeDriver.find (page.attempt sel s) sel).outcome []).1) s).1, log)
  rw [Stateful.outcome_lift, SafeDriver.find_allowed hsel]
  rfl

theorem outcome_raise (fault : Option WebDriverException) (log : List Event) :
    (SafeDriver.raise fault).outcome log =
      (match fault with
        | none => .ok ()
        | some e => .error (.webDriver e), log) := by
  cases fault <;> rfl

theorem outcome_answer (r : Except WebDriverException α) (log : List Event) :
    (ReportFlow.answer r).outcome log = (r.mapError Raised.webDriver, log) := by
  cases r <;> rfl

theorem outcome_tryStrategy (strategy : Strategy) :
    ((tryStrategy page sel strategy).outcome s).1 =
      match (page.run sel strategy.acts s).1 with
      | none => (page.read sel (page.after sel strategy s)).mapError Raised.webDriver
      | some e => .error (.webDriver e) := by
  unfold tryStrategy perform
  rw [Stateful.outcome_bind, Stateful.outcome_step]
  cases (page.run sel strategy.acts s).1 with
  | some e => rfl
  | none =>
    show (Stateful.outcome (Stateful.lift _) _).1 = _
    rw [Stateful.outcome_lift]
    rfl

theorem answers_script {value : String} :
    Answers (do
      SafeDriver.raise (answered page sel value s).attempt.script
      ReportFlow.answer (answered page sel value s).observed)
      (tryStrategy page sel (script value)) s := by
  intro log
  rw [outcome_tryStrategy, Logged.outcome_bind, outcome_raise]
  unfold answered
  dsimp only
  cases (page.run sel (script value).acts s).1 with
  | some e => rfl
  | none => exact outcome_answer _ log

theorem answers_keys {value : String} :
    Answers (do
      SafeDriver.raise (answered page sel value s).attempt.first
      SafeDriver.raise (answered page sel value s).attempt.keys
      ReportFlow.answer (answered page sel value s).observedAfterKeys)
      (tryStrategy page sel (keys value)) (page.after sel (script value) s) := by
  intro log
  rw [outcome_tryStrategy, Logged.outcome_bind, outcome_raise]
  unfold answered
  dsimp only
  generalize page.after sel (script value) s = t
  rcases hclear : page.run sel [.clear] t with ⟨clearFault, u⟩
  cases clearFault with
  | some e =>
    rw [keys, Page.run_cons_some hclear]
  | none =>
    rw [keys, Page.run_cons_none hclear]
    show (SafeDriver.raise (page.run sel [.sendKeys value] u).1 >>= _ : Driven _).outcome log = _
    rw [Logged.outcome_bind, outcome_raise]
    cases (page.run sel [.sendKeys value] u).1 with
    | some e => rfl
    | none => exact outcome_answer _ log

theorem answers_setOneDateInput (hsel : sel ∉ denylist) (repr : String → String) (value : String) :
    Answers (ReportFlow.setOneDateInput repr (answered page sel value s) sel value)
      (setOneDateInput page sel repr value) s := by
  unfold ReportFlow.setOneDateInput setOneDateInput
  refine .bind (answers_find hsel) fun el t hfind => ?_
  obtain ⟨-, rfl⟩ := (returns_find hsel).mp ⟨el, hfind⟩
  rw [← bind_assoc]
  refine .bind answers_script fun current t hscript => ?_
  obtain ⟨htakes, -⟩ := returns_tryStrategy.mp hscript
  obtain rfl := htakes.settled
  split
  · exact .pure ()
  · refine .bind (.exceptFor answers_keys fun _ _ => .pure none) fun current t _ => ?_
    split
    · exact .pure ()
    · exact .runFailure _ _

end

section
variable {σ : Type} (page : Page σ) (repr : String → String) (strftimeYear : Nat → String)

/-- The visit, with the page in it from when the dates are set. -/
def visit (s : σ) (v : Visit) (value : String) : Visit :=
  { v with
    startDate := answered page startDateInput value s
    endDate := answered page endDateInput value
      ((setOneDateInput page startDateInput repr value).outcome s).2 }

/-- `scrape_event_report` on this page, which is in the state `s` when it comes to
`set_date_range`. -/
def scrapeEventReport (s : σ) (v : Visit) (reportDate : Date) (downloadDir : String) :
    Driven (Option String) :=
  let value := formatDateForBlueweb strftimeYear reportDate
  ReportFlow.scrapeEventReport repr (visit page repr s v value) value downloadDir

end

section
variable {σ : Type} {page : Page σ} {repr : String → String} {strftimeYear : Nat → String}
  {s : σ} {v : Visit} {d : Date}

theorem answers_setDateRange :
    Answers (ReportFlow.setDateRange repr
        (visit page repr s v (formatDateForBlueweb strftimeYear d))
        (formatDateForBlueweb strftimeYear d))
      (setDateRange page repr strftimeYear d) s := by
  unfold ReportFlow.setDateRange setDateRange visit
  refine .exceptFor (.bind (answers_setOneDateInput startDateInput_allowed repr _)
    fun _ t hstart => ?_) fun e _ => .runFailure _ _
  rw [show (Stateful.outcome _ s).2 = t from congrArg Prod.snd hstart]
  exact answers_setOneDateInput endDateInput_allowed repr _

/-- A run that comes to a result on this page has come through `set_date_range`. -/
theorem returns_of_scrape {result : Option String} {downloadDir : String}
    (hv : v = visit page repr s v (formatDateForBlueweb strftimeYear d))
    (h : (Logged.outcome (ReportFlow.scrapeEventReport repr v (formatDateForBlueweb strftimeYear d)
      downloadDir) []).1 = .ok result) :
    ∃ u, Stateful.Returns (setDateRange page repr strftimeYear d) s () u := by
  obtain ⟨-, log, -, h⟩ := Logged.ok_of_bind h
  obtain ⟨-, log, -, h⟩ := Logged.ok_of_bind h
  obtain ⟨_, log', hset, -⟩ := Logged.ok_of_bind h
  have hanswers : Answers
      (ReportFlow.setDateRange repr v (formatDateForBlueweb strftimeYear d))
      (setDateRange page repr strftimeYear d) s := by
    rw [hv]
    exact answers_setDateRange
  rw [hanswers log] at hset
  have hok : (Stateful.outcome (setDateRange page repr strftimeYear d) s).1 = .ok () :=
    congrArg Prod.fst hset
  exact ⟨_, Prod.ext hok rfl⟩

def Silent (events : List Event) : Prop := events = []

theorem silent_closed : Logged.Closed Silent where
  nil := rfl
  append := by
    intro as bs has hbs
    rw [Silent, has, hbs, List.append_nil]

theorem selectEventReport_silent (v : Visit) :
    Logged.Appends Silent (ReportFlow.selectEventReport v) := by
  have hnil := silent_closed.nil
  refine .bind silent_closed (exceptFor_appends (.raised hnil _) (fun _ => .throw hnil _) hnil
    silent_closed.append) fun _ => ?_
  exact exceptFor_appends (.bind silent_closed (find_appends hnil _ _) fun _ => .raised hnil _)
    (fun _ => .throw hnil _) hnil silent_closed.append

/-- Where `set_date_range` raises, the run ends there. It has clicked nothing. -/
theorem scrapeEventReport_silent {raised : Raised} {t : σ}
    (h : Stateful.Raises (setDateRange page repr strftimeYear d) s raised t)
    (downloadDir : String) :
    ((scrapeEventReport page repr strftimeYear s v d downloadDir).outcome []).2 = [] := by
  have hsilent : Logged.Appends Silent
      (scrapeEventReport page repr strftimeYear s v d downloadDir) := by
    refine .bind silent_closed (.raised silent_closed.nil _) fun _ =>
      .bind silent_closed (selectEventReport_silent _) fun _ log => ?_
    rw [Logged.outcome_bind, answers_setDateRange log, h]
    exact ⟨[], (List.append_nil log).symm, silent_closed.nil⟩
  obtain ⟨new, hnew, hnil⟩ := hsilent []
  rw [hnew, hnil]
  rfl

end

/-! ## The start date while the end date is set -/

/-- What the page does from when the start date has been accepted until the end date is
leaves the start date as it was. -/
def KeepsStart {σ : Type} (page : Page σ) (text : String) (s : σ) : Prop :=
  ∀ t u, page.Accepts startDateInput text s t → page.Accepts endDateInput text t u →
    page.value u startDateInput = page.value t startDateInput

section
variable {σ : Type} {page : Page σ}

/-- A page on which nothing done to the end date, and no time that passes, changes the
start date. -/
theorem keepsStart_of_separate
    (hact : ∀ act s, page.value (page.act act endDateInput s).2 startDateInput =
      page.value s startDateInput)
    (hsettle : ∀ ms s, page.value (page.settle ms s) startDateInput = page.value s startDateInput)
    (text : String) (s : σ) : KeepsStart page text s := by
  intro t u _ hend
  exact @Page.Enters.keeps σ page endDateInput (page.value · startDateInput = page.value t
    startDateInput) t u text hend.2 (fun act s h => (hact act s).trans h)
    (fun ms s h => (hsettle ms s).trans h) rfl

end

/-! ## Both dates -/

/-- `MM/DD/YYYY`. -/
def mmDdYyyy (d : Date) : String :=
  let (year, month, day) := ordToYmd d.ordinal
  pad 2 month ++ "/" ++ pad 2 day ++ "/" ++ pad 4 year

/-- `%Y` as Python documents it, with leading zeros up to four digits. -/
def PadsYear (strftimeYear : Nat → String) (d : Date) : Prop :=
  strftimeYear (ordToYmd d.ordinal).1 = pad 4 (ordToYmd d.ordinal).1

theorem formatDateForBlueweb_eq {strftimeYear : Nat → String} {d : Date}
    (hyear : PadsYear strftimeYear d) : formatDateForBlueweb strftimeYear d = mmDdYyyy d := by
  unfold PadsYear at hyear
  unfold formatDateForBlueweb mmDdYyyy
  dsimp only
  rw [hyear]

/-- The end date is always there in the end, and the start date where it was kept. -/
theorem dates_of_returns {σ : Type} {page : Page σ} {repr : String → String}
    {strftimeYear : Nat → String} {s u : σ} {d : Date} (hyear : PadsYear strftimeYear d)
    (h : Stateful.Returns (setDateRange page repr strftimeYear d) s () u) :
    page.value u endDateInput = some (mmDdYyyy d) ∧
      (page.value u startDateInput = some (mmDdYyyy d) ↔ KeepsStart page (mmDdYyyy d) s) := by
  have hreturns : ∀ u', Stateful.Returns (setDateRange page repr strftimeYear d) s () u' ↔
      ∃ t, page.Accepts startDateInput (mmDdYyyy d) s t ∧
        page.Accepts endDateInput (mmDdYyyy d) t u' := fun u' => by
    rw [returns_setDateRange, formatDateForBlueweb_eq hyear]
  obtain ⟨t, hstart, hend⟩ := (hreturns u).mp h
  refine ⟨hend.2.value, fun hvalue t' u' hstart' hend' => ?_, fun hkeeps => ?_⟩
  · -- there is one state that it returns in
    have hsame : u = u' :=
      congrArg Prod.snd (h.symm.trans ((hreturns u').mpr ⟨t', hstart', hend'⟩))
    rw [← hsame, hvalue, hstart'.2.value]
  · exact (hkeeps t u hstart hend).trans hstart.2.value

section
variable {σ : Type} (page : Page σ) (repr : String → String) (strftimeYear : Nat → String)

/-- When `set_date_range` returns, both inputs hold the date. When it does not, it raises
what the caller expects, and Get Report is not clicked. -/
structure Establishes (s : σ) (d : Date) : Prop where
  sets : ∀ t, Stateful.Returns (setDateRange page repr strftimeYear d) s () t →
    page.value t startDateInput = some (mmDdYyyy d) ∧
      page.value t endDateInput = some (mmDdYyyy d)
  raises : ∀ raised t, Stateful.Raises (setDateRange page repr strftimeYear d) s raised t →
    Expected raised ∧ ∀ v downloadDir html, .target html getReportButton ∉
      ((scrapeEventReport page repr strftimeYear s v d downloadDir).outcome []).2

end

/-! ## A picker that keeps to a week -/

def write (sel : Selector) (text : String) (s : String × String) : String × String :=
  if sel = startDateInput then (text, s.2) else (s.1, text)

/-- A start date and an end date. A new end date moves the start date six days before it,
here for the 14th. -/
def weekPicker : Page (String × String) where
  dom _ := ReportFlow.reportForm
  value s sel := if sel = startDateInput then some s.1 else some s.2
  lookupFault _ _ := none
  noSuchElement _ := ""
  readFault _ _ := none
  act act sel s :=
    match act with
    | .assign text => (none, write sel text s)
    | .dispatch .change =>
      (none, if sel = endDateInput then write startDateInput "05/08/2026" s else s)
    | .dispatch _ => (none, s)
    | .clear => (none, write sel "" s)
    | .sendKeys text => (none, write sel text s)
  settle _ s := s

/-- 2026-05-14. -/
def reportDay : Date := ⟨739750, by decide, by decide⟩

theorem mmDdYyyy_reportDay : mmDdYyyy reportDay = "05/14/2026" := by decide

theorem weekPicker_start :
    weekPicker.Accepts startDateInput "05/14/2026" ("", "") ("05/14/2026", "") :=
  ⟨⟨rfl, rfl⟩, .byScript ⟨rfl, rfl, rfl⟩ rfl⟩

theorem weekPicker_end :
    weekPicker.Accepts endDateInput "05/14/2026" ("05/14/2026", "") ("05/08/2026", "05/14/2026") :=
  ⟨⟨rfl, rfl⟩, .byScript ⟨rfl, rfl, rfl⟩ rfl⟩

/-! ## When both dates are there -/

section
variable {σ : Type} {page : Page σ} {repr : String → String} {strftimeYear : Nat → String}

/-- Both dates are there whenever `set_date_range` returns, exactly when the end date never
costs the page the start date. -/
theorem establishes_iff (s : σ) (d : Date) (hyear : PadsYear strftimeYear d) :
    Establishes page repr strftimeYear s d ↔ KeepsStart page (mmDdYyyy d) s := by
  constructor
  · intro h t u hstart hend
    have hreturns : Stateful.Returns (setDateRange page repr strftimeYear d) s () u := by
      rw [returns_setDateRange, formatDateForBlueweb_eq hyear]
      exact ⟨t, hstart, hend⟩
    exact (h.sets u hreturns).1.trans hstart.2.value.symm
  · intro h
    refine ⟨fun u hreturns => ?_, fun raised t hraises => ⟨?_, fun v downloadDir html => ?_⟩⟩
    · obtain ⟨hend, hstart⟩ := dates_of_returns hyear hreturns
      exact ⟨hstart.mpr h, hend⟩
    · exact setDateRange_raisesOnly d s raised t hraises
    · rw [scrapeEventReport_silent hraises]
      exact List.not_mem_nil

end

theorem establishes_iff_weekPicker :
    Establishes weekPicker id (pad 4) ("", "") reportDay ↔
      KeepsStart weekPicker (mmDdYyyy reportDay) ("", "") :=
  establishes_iff ("", "") reportDay rfl

/-- Both dates are accepted one after the other, and in the end the range is a week. -/
theorem not_establishes : ¬ ∀ (σ : Type) (page : Page σ) (repr : String → String)
    (strftimeYear : Nat → String), (∀ d, PadsYear strftimeYear d) →
      ∀ s d, Establishes page repr strftimeYear s d := by
  intro h
  have hpads : ∀ d, PadsYear (pad 4) d := fun _ => rfl
  have hreturns : Stateful.Returns (setDateRange weekPicker id (pad 4) reportDay) ("", "") ()
      ("05/08/2026", "05/14/2026") := by
    rw [returns_setDateRange, formatDateForBlueweb_eq (hpads reportDay), mmDdYyyy_reportDay]
    exact ⟨_, weekPicker_start, weekPicker_end⟩
  have hstart := ((h _ weekPicker id (pad 4) hpads ("", "") reportDay).sets _ hreturns).1
  rw [mmDdYyyy_reportDay] at hstart
  revert hstart
  decide

end Bluewave.DateRange
