import Bluewave.Lib.Stateful
import Bluewave.Datetime
import Bluewave.ReportFlow
import Bluewave.Tables

/-! A page with the two date inputs, as a state machine, and `set_date_range` on it: when
it returns, and what else it raises. -/
namespace Bluewave.DateInputs
open Lib Lib.XPath Bluewave.Exceptions Bluewave.Selectors Bluewave.SafeDriver
open Bluewave.Datetime Bluewave.Tables
open Bluewave.ReportFlow (anyKind)

/-! ## The page -/

/-- The events the script dispatches. -/
inductive DomEvent where
  | input
  | change
  | blur

/-- What the worker does to an input: the parts of its script, and two WebDriver calls. -/
inductive Act where
  | assign (value : String)
  | dispatch (event : DomEvent)
  | clear
  | sendKeys (text : String)

/-- A page as a state machine. Whatever handlers an act fires, and the timers that go off
while the worker sleeps, may change all of the state. An element that was found stands for
its selector: a call on one that has been replaced raises. -/
structure Page (σ : Type) where
  dom : σ → List Node
  /-- `get_attribute("value")`, when it does not raise -/
  value : σ → Selector → Option String
  lookupFault : σ → Selector → Option WebDriverException
  noSuchElement : Selector → String
  readFault : σ → Selector → Option WebDriverException
  act : Act → Selector → σ → Option WebDriverException × σ
  /-- milliseconds pass -/
  settle : Nat → σ → σ

/-- Acts up to the first that raises, and the time the worker then waits. -/
structure Strategy where
  acts : List Act
  settleMs : Nat

def script (value : String) : Strategy :=
  ⟨[.assign value, .dispatch .input, .dispatch .change, .dispatch .blur], 300⟩

def keys (value : String) : Strategy := ⟨[.clear, .sendKeys value], 200⟩

namespace Page
variable {σ : Type} (page : Page σ) (sel : Selector)

/-- What the acts raise, if anything, and the page after them. -/
def run : List Act → σ → Option WebDriverException × σ
  | [], s => (none, s)
  | act :: acts, s =>
    match page.act act sel s with
    | (some e, t) => (some e, t)
    | (none, t) => run acts t

/-- The page after the strategy, if nothing is raised. -/
def after (strategy : Strategy) (s : σ) : σ :=
  page.settle strategy.settleMs (page.run sel strategy.acts s).2

def read (s : σ) : Except WebDriverException (Option String) :=
  match page.readFault s sel with
  | none => .ok (page.value s sel)
  | some e => .error e

/-- A lookup of the input as the page is now. -/
def attempt (s : σ) : Attempt where
  page := page.dom s
  noSuchElement := page.noSuchElement sel
  lookup := page.lookupFault s sel
  first := none
  keys := none
  script := none

end Page

/-! ## set_date_range -/

/-- A program on a page. -/
abbrev Worker (σ : Type) := Stateful σ Raised

section
variable {σ α : Type}

def runFailure (cls : RunFailure) (message : String) : Worker σ α :=
  throw (.exn (.runFailure cls message))

/-- `try: m`, `except` the caught kinds of `WebDriverException as e: h`. -/
def exceptFor (caught : WebDriverKind → Bool) (m : Worker σ α)
    (h : WebDriverException → Worker σ α) : Worker σ α :=
  tryCatch m fun raised =>
    match raised with
    | .webDriver e => if caught e.kind then h e else throw (.webDriver e)
    | .exn e => throw (.exn e)

variable (page : Page σ) (sel : Selector)

/-- `safe.find` on the page as it is. -/
def find : Worker σ Element := do
  let s ← get
  Stateful.lift ((SafeDriver.find (page.attempt sel s) sel).outcome []).1

def perform (acts : List Act) : Worker σ Unit :=
  Stateful.step fun s => ((page.run sel acts s).1.map Raised.webDriver, (page.run sel acts s).2)

/-- `time.sleep`. -/
def sleep (ms : Nat) : Worker σ Unit := modify (page.settle ms)

def getAttribute : Worker σ (Option String) := do
  let s ← get
  Stateful.lift ((page.read sel s).mapError Raised.webDriver)

/-- What is common to both strategies: the acts, the wait and the read. -/
def tryStrategy (strategy : Strategy) : Worker σ (Option String) := do
  perform page sel strategy.acts
  sleep page strategy.settleMs
  getAttribute page sel

variable (repr : String → String)

/-- `_set_one_date_input`. -/
def setOneDateInput (value : String) : Worker σ Unit := do
  let _ ← find page sel
  let current ← tryStrategy page sel (script value)
  if current = some value then pure ()
  else
    let current ← exceptFor anyKind (tryStrategy page sel (keys value)) fun _ => pure none
    if current = some value then pure ()
    else runFailure .navFailed ("date input did not accept " ++ repr value ++
      " via JS or send_keys (observed " ++ Schema.reprOption repr current ++ ")")

end

/-- `format_date_for_blueweb`, with `%Y` of `strftime` from the platform. -/
def formatDateForBlueweb (strftimeYear : Nat → String) (d : Date) : String :=
  let (year, month, day) := ordToYmd d.ordinal
  pad 2 month ++ "/" ++ pad 2 day ++ "/" ++ strftimeYear year

section
variable {σ : Type} (page : Page σ) (repr : String → String) (strftimeYear : Nat → String)

/-- `set_date_range`. -/
def setDateRange (reportDate : Date) : Worker σ Unit := do
  let value := formatDateForBlueweb strftimeYear reportDate
  exceptFor (· = .noSuchElement)
    (do
      setOneDateInput page startDateInput repr value
      setOneDateInput page endDateInput repr value)
    fun e => runFailure .navFailed ("date input not found: " ++ e.text)

end

/-! ## When an input takes the text -/

namespace Page
variable {σ : Type} (page : Page σ) (sel : Selector)

/-- The strategy raises nothing and brings the page to `t`, where the input can be read. -/
structure Takes (strategy : Strategy) (s t : σ) : Prop where
  quiet : (page.run sel strategy.acts s).1 = none
  settled : t = page.after sel strategy s
  readable : page.readFault t sel = none

/-- The lookup finds the input. -/
def Found (s : σ) : Prop :=
  page.lookupFault s sel = none ∧ (findElement (page.dom s) sel.locator).isSome

/-- The input comes to hold the text by the script, or by the keys where the script left it
with another. -/
inductive Enters (value : String) (s : σ) : σ → Prop
  | byScript {t : σ} : page.Takes sel (script value) s t → page.value t sel = some value →
      Enters value s t
  | byKeys {t u : σ} : page.Takes sel (script value) s t → page.value t sel ≠ some value →
      page.Takes sel (keys value) t u → page.value u sel = some value → Enters value s u

def Accepts (value : String) (s t : σ) : Prop := page.Found sel s ∧ page.Enters sel value s t

end Page

section
variable {σ α : Type} {page : Page σ} {sel : Selector} {s t u : σ}

/-- An act that raises ends the run. -/
theorem Page.run_cons_some {act : Act} {e : WebDriverException}
    (h : page.run sel [act] s = (some e, t)) (acts : List Act) :
    page.run sel (act :: acts) s = (some e, t) := by
  unfold Page.run at h ⊢
  rcases hact : page.act act sel s with ⟨_ | e', u⟩ <;> rw [hact] at h <;> cases h
  rfl

theorem Page.run_cons_none {act : Act} (h : page.run sel [act] s = (none, t)) (acts : List Act) :
    page.run sel (act :: acts) s = page.run sel acts t := by
  unfold Page.run at h
  rcases hact : page.act act sel s with ⟨_ | e', u⟩ <;> rw [hact] at h <;> cases h
  rw [Page.run, hact]

theorem Page.Enters.value {value : String} (h : page.Enters sel value s t) :
    page.value t sel = some value := by
  cases h with
  | byScript _ hvalue => exact hvalue
  | byKeys _ _ _ hvalue => exact hvalue

theorem returns_exceptFor {caught : WebDriverKind → Bool} {m : Worker σ α}
    {h : WebDriverException → Worker σ α} {a : α} :
    Stateful.Returns (exceptFor caught m h) s a u ↔ Stateful.Returns m s a u ∨
      ∃ e t, Stateful.Raises m s (.webDriver e) t ∧ caught e.kind ∧
        Stateful.Returns (h e) t a u := by
  unfold exceptFor
  rw [Stateful.returns_tryCatch]
  refine or_congr_right ?_
  constructor
  · intro hraised
    obtain ⟨raised, t, hm, hret⟩ := hraised
    cases raised with
    | exn e => cases hret
    | webDriver e =>
      change Stateful.Returns (if caught e.kind then h e else throw (.webDriver e)) t a u at hret
      by_cases hcaught : caught e.kind
      · rw [if_pos hcaught] at hret
        exact ⟨e, t, hm, hcaught, hret⟩
      · rw [if_neg hcaught] at hret
        cases hret
  · intro hraised
    obtain ⟨e, t, hm, hcaught, hret⟩ := hraised
    refine ⟨.webDriver e, t, hm, ?_⟩
    show Stateful.Returns (if caught e.kind then h e else throw (.webDriver e)) t a u
    rw [if_pos hcaught]
    exact hret

theorem not_returns_runFailure {cls : RunFailure} {message : String} {a : α} :
    ¬ Stateful.Returns (runFailure cls message : Worker σ α) s a t := by
  intro h
  cases h

theorem safeFind_ok (hsel : sel ∉ denylist) {el : Element} :
    ((SafeDriver.find (page.attempt sel s) sel).outcome []).1 = .ok el ↔
      page.lookupFault s sel = none ∧ findElement (page.dom s) sel.locator = some el := by
  rw [find_allowed hsel]
  unfold Page.attempt
  cases page.lookupFault s sel <;> cases findElement (page.dom s) sel.locator <;> simp

theorem returns_find (hsel : sel ∉ denylist) :
    (∃ el, Stateful.Returns (find page sel) s el t) ↔ page.Found sel s ∧ t = s := by
  unfold find Page.Found
  simp only [Stateful.returns_bind, Stateful.returns_get, Stateful.returns_lift,
    Option.isSome_iff_exists]
  constructor
  · intro h
    obtain ⟨el, _, _, ⟨rfl, rfl⟩, hfind, rfl⟩ := h
    obtain ⟨hlookup, hel⟩ := (safeFind_ok hsel).mp hfind
    exact ⟨⟨hlookup, el, hel⟩, rfl⟩
  · intro h
    obtain ⟨⟨hlookup, el, hel⟩, rfl⟩ := h
    exact ⟨el, _, _, ⟨rfl, rfl⟩, (safeFind_ok hsel).mpr ⟨hlookup, hel⟩, rfl⟩

theorem read_ok {current : Option String} :
    (page.read sel s).mapError Raised.webDriver = .ok current ↔
      page.readFault s sel = none ∧ current = page.value s sel := by
  unfold Page.read
  cases page.readFault s sel with
  | some e => exact ⟨fun h => (by cases h), fun h => (by cases h.1)⟩
  | none =>
    constructor
    · intro h
      cases h
      exact ⟨rfl, rfl⟩
    · intro h
      rw [h.2]
      rfl

theorem returns_tryStrategy {strategy : Strategy} {current : Option String} :
    Stateful.Returns (tryStrategy page sel strategy) s current t ↔
      page.Takes sel strategy s t ∧ current = page.value t sel := by
  unfold tryStrategy perform sleep getAttribute
  simp only [Stateful.returns_bind, Stateful.returns_step, Stateful.returns_modify,
    Stateful.returns_get, Stateful.returns_lift, read_ok, Option.map_eq_none_iff]
  constructor
  · intro h
    obtain ⟨_, _, ⟨hquiet, rfl⟩, _, _, rfl, _, _, ⟨rfl, rfl⟩, ⟨hreadable, hvalue⟩, rfl⟩ := h
    exact ⟨⟨hquiet, rfl, hreadable⟩, hvalue⟩
  · intro h
    obtain ⟨⟨hquiet, hsettled, hreadable⟩, hvalue⟩ := h
    exact ⟨(), _, ⟨hquiet, rfl⟩, (), t, hsettled, t, t, ⟨rfl, rfl⟩, ⟨hreadable, hvalue⟩, rfl⟩

variable {repr : String → String} {strftimeYear : Nat → String}

/-- The keys are for an input that the script left with another text. Once they raise, it
is not accepted any more. -/
theorem returns_setOneDateInput (hsel : sel ∉ denylist) {value : String} :
    Stateful.Returns (setOneDateInput page sel repr value) s () u ↔
      page.Accepts sel value s u := by
  unfold setOneDateInput Page.Accepts
  rw [Stateful.returns_bind]
  constructor
  · intro h
    obtain ⟨el, _, hfind, h⟩ := h
    obtain ⟨hfound, rfl⟩ := (returns_find hsel).mp ⟨el, hfind⟩
    obtain ⟨current, t, hscript, h⟩ := Stateful.returns_bind.mp h
    obtain ⟨htakes, rfl⟩ := returns_tryStrategy.mp hscript
    refine ⟨hfound, ?_⟩
    split at h
    · rename_i hvalue
      obtain ⟨-, rfl⟩ := Stateful.returns_pure.mp h
      exact .byScript htakes hvalue
    · rename_i hvalue
      obtain ⟨current, v, hkeys, h⟩ := Stateful.returns_bind.mp h
      rcases returns_exceptFor.mp hkeys with hkeys | ⟨e, w, -, -, hnone⟩
      · obtain ⟨htyped, rfl⟩ := returns_tryStrategy.mp hkeys
        split at h
        · rename_i htext
          obtain ⟨-, rfl⟩ := Stateful.returns_pure.mp h
          exact .byKeys htakes hvalue htyped htext
        · exact absurd h not_returns_runFailure
      · obtain ⟨rfl, -⟩ := Stateful.returns_pure.mp hnone
        exact absurd h not_returns_runFailure
  · intro h
    obtain ⟨hfound, henters⟩ := h
    obtain ⟨el, hfind⟩ := (returns_find hsel).mpr ⟨hfound, rfl⟩
    refine ⟨el, s, hfind, Stateful.returns_bind.mpr ?_⟩
    cases henters with
    | byScript htakes hvalue =>
      refine ⟨_, u, returns_tryStrategy.mpr ⟨htakes, rfl⟩, ?_⟩
      rw [if_pos hvalue]
      exact Stateful.returns_pure.mpr ⟨rfl, rfl⟩
    | byKeys htakes hvalue htyped htext =>
      refine ⟨_, _, returns_tryStrategy.mpr ⟨htakes, rfl⟩, ?_⟩
      rw [if_neg hvalue]
      refine Stateful.returns_bind.mpr ⟨_, u, returns_exceptFor.mpr (.inl
        (returns_tryStrategy.mpr ⟨htyped, rfl⟩)), ?_⟩
      rw [if_pos htext]
      exact Stateful.returns_pure.mpr ⟨rfl, rfl⟩

theorem startDateInput_allowed : startDateInput ∉ denylist := by decide

theorem endDateInput_allowed : endDateInput ∉ denylist := by decide

theorem returns_setDateRange {d : Date} :
    Stateful.Returns (setDateRange page repr strftimeYear d) s () u ↔
      ∃ t, page.Accepts startDateInput (formatDateForBlueweb strftimeYear d) s t ∧
        page.Accepts endDateInput (formatDateForBlueweb strftimeYear d) t u := by
  unfold setDateRange
  simp only [returns_exceptFor, not_returns_runFailure, and_false, exists_false, or_false,
    Stateful.returns_bind, returns_setOneDateInput startDateInput_allowed,
    returns_setOneDateInput endDateInput_allowed, exists_const]

/-! ## What else can come of it -/

/-- `NavFailed`, or a WebDriver exception. -/
def Expected (raised : Raised) : Prop :=
  (∃ message, raised = .exn (.runFailure .navFailed message)) ∨ ∃ e, raised = .webDriver e

theorem exceptFor_raisesOnly {caught : WebDriverKind → Bool} {m : Worker σ α}
    {h : WebDriverException → Worker σ α} (hm : Stateful.RaisesOnly Expected m)
    (hh : ∀ e, Stateful.RaisesOnly Expected (h e)) :
    Stateful.RaisesOnly Expected (exceptFor caught m h) := by
  refine hm.tryCatch fun raised hraised => ?_
  cases raised with
  | exn e => exact .throw hraised
  | webDriver e =>
    show Stateful.RaisesOnly Expected (if caught e.kind then h e else throw (.webDriver e))
    split
    · exact hh e
    · exact .throw hraised

theorem navFailed_raisesOnly (message : String) :
    Stateful.RaisesOnly Expected (runFailure .navFailed message : Worker σ α) :=
  .throw (.inl ⟨message, rfl⟩)

theorem find_raisesOnly (hsel : sel ∉ denylist) :
    Stateful.RaisesOnly Expected (find page sel) := by
  refine .bind .get fun s => .lift fun raised hraised => ?_
  rw [find_allowed hsel] at hraised
  split at hraised
  · cases hraised
    exact .inr ⟨_, rfl⟩
  · cases hraised
  · cases hraised
    exact .inr ⟨_, rfl⟩

theorem tryStrategy_raisesOnly (strategy : Strategy) :
    Stateful.RaisesOnly Expected (tryStrategy page sel strategy) := by
  refine .bind (.step fun s raised hraised => ?_) fun _ =>
    .bind (.modify _) fun _ => .bind .get fun s => .lift fun raised hraised => ?_
  · obtain ⟨e, -, rfl⟩ := Option.map_eq_some_iff.mp hraised
    exact .inr ⟨e, rfl⟩
  · unfold Page.read at hraised
    split at hraised
    · cases hraised
    · cases hraised
      exact .inr ⟨_, rfl⟩

theorem setOneDateInput_raisesOnly (hsel : sel ∉ denylist) (value : String) :
    Stateful.RaisesOnly Expected (setOneDateInput page sel repr value) := by
  refine .bind (find_raisesOnly hsel) fun _ => .bind (tryStrategy_raisesOnly _) fun current => ?_
  split
  · exact .pure ()
  · refine .bind (exceptFor_raisesOnly (tryStrategy_raisesOnly _) fun _ => .pure none)
      fun current => ?_
    split
    · exact .pure ()
    · exact navFailed_raisesOnly _

theorem setDateRange_raisesOnly (d : Date) :
    Stateful.RaisesOnly Expected (setDateRange page repr strftimeYear d) := by
  unfold setDateRange
  refine exceptFor_raisesOnly ?_ fun e => navFailed_raisesOnly _
  exact .bind (setOneDateInput_raisesOnly startDateInput_allowed _)
    fun _ => setOneDateInput_raisesOnly endDateInput_allowed _

end

/-! ## What a page keeps while an input is set -/

section
variable {σ : Type} {page : Page σ} {sel : Selector} {P : σ → Prop} {s t : σ}

/-- What every act on the input keeps, all acts of a strategy keep. -/
theorem Page.run_keeps (hact : ∀ act s, P s → P (page.act act sel s).2) (acts : List Act)
    (hs : P s) : P (page.run sel acts s).2 := by
  induction acts generalizing s with
  | nil => exact hs
  | cons act acts ih =>
    have hnext := hact act s hs
    unfold Page.run
    rcases hrun : page.act act sel s with ⟨fault, t⟩
    rw [hrun] at hnext
    cases fault with
    | some e => exact hnext
    | none => exact ih hnext

theorem Page.Takes.keeps {strategy : Strategy} (h : page.Takes sel strategy s t)
    (hact : ∀ act s, P s → P (page.act act sel s).2) (hsettle : ∀ ms s, P s → P (page.settle ms s))
    (hs : P s) : P t := by
  rw [h.settled]
  exact hsettle _ _ (page.run_keeps hact strategy.acts hs)

theorem Page.Enters.keeps {text : String} (h : page.Enters sel text s t)
    (hact : ∀ act s, P s → P (page.act act sel s).2) (hsettle : ∀ ms s, P s → P (page.settle ms s))
    (hs : P s) : P t := by
  cases h with
  | byScript htakes _ => exact htakes.keeps hact hsettle hs
  | byKeys htakes _ htyped _ => exact htyped.keeps hact hsettle (htakes.keeps hact hsettle hs)

end

end Bluewave.DateInputs
