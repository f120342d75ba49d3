import Bluewave.Lib.Logged
import Bluewave.Exceptions
import Bluewave.Selectors

/-! `SafeDriver`. The gate looks at the selector, the browser at the page: what is clicked
is the first element the selector finds there. The log keeps what `click` and `type_into`
go for and what they do to it. -/
namespace Bluewave.SafeDriver
open Lib Lib.XPath Bluewave.Exceptions Bluewave.Selectors

/-- The classes of `WebDriverException` that the worker tells apart. -/
inductive WebDriverKind where
  | noSuchElement
  | elementNotInteractable
  | elementClickIntercepted
  | timeout
  | other
  deriving DecidableEq

structure WebDriverException where
  kind : WebDriverKind
  text : String

inductive Raised where
  | webDriver (e : WebDriverException)
  | exn (e : Exn)

inductive Operation where
  | click
  | jsClick
  | clear
  | sendKeys (text : String)
  | setValue (text : String)

inductive Event where
  /-- `click` or `type_into` has found an element for the selector on this page. -/
  | target (page : List Node) (sel : Selector)
  | operation (op : Operation) (el : Element)

abbrev Driven := Logged Event Raised

/-- One call on a selector: the page it looks at and what the driver raises, if anything:
looking for the element, at `click` or `clear`, at `send_keys`, at the JavaScript. -/
structure Attempt where
  page : List Node
  noSuchElement : String
  lookup : Option WebDriverException
  first : Option WebDriverException
  keys : Option WebDriverException
  script : Option WebDriverException

def raise (fault : Option WebDriverException) : Driven Unit :=
  Logged.raised (fault.map Raised.webDriver)

def runFailure {α : Type} (cls : RunFailure) (message : String) : Driven α :=
  throw (.exn (.runFailure cls message))

/-- `try: m`, `except` the caught kinds of `WebDriverException as e: h`. -/
def exceptFor {α : Type} (caught : WebDriverKind → Bool) (m : Driven α)
    (h : WebDriverException → Driven α) : Driven α :=
  tryCatch m fun raised =>
    match raised with
    | .webDriver e => if caught e.kind then h e else throw (.webDriver e)
    | .exn e => throw (.exn e)

/-- `find`. -/
def find (a : Attempt) (sel : Selector) : Driven Element := do
  if sel ∈ denylist then
    runFailure .denylistedSelector
      ("refusing to interact with denylisted selector: " ++ sel.description)
  else
    raise a.lookup
    match findElement a.page sel.locator with
    | some el => pure el
    | none => throw (.webDriver ⟨.noSuchElement, a.noSuchElement⟩)

def perform (op : Operation) (el : Element) (fault : Option WebDriverException) : Driven Unit := do
  Logged.record (.operation op el)
  raise fault

/-- `ElementNotInteractableException` or `ElementClickInterceptedException`. -/
def refused (kind : WebDriverKind) : Bool :=
  kind = .elementNotInteractable ∨ kind = .elementClickIntercepted

/-- What `click` does to the element it has found. -/
def clickElement (a : Attempt) (sel : Selector) (el : Element) : Driven Unit :=
  exceptFor refused (perform .click el a.first) fun _ =>
    exceptFor (fun _ => true) (perform .jsClick el a.script) fun js =>
      throw (.webDriver ⟨.other, "standard click rejected and JS-click fallback also failed for " ++
        sel.description ++ ": " ++ js.text⟩)

/-- `click`. -/
def click (a : Attempt) (sel : Selector) : Driven Unit := do
  let el ← find a sel
  Logged.record (.target a.page sel)
  clickElement a sel el

/-- What `type_into` does to the element it has found. -/
def typeIntoElement (a : Attempt) (el : Element) (text : String) : Driven Unit :=
  exceptFor refused
    (do
      perform .clear el a.first
      perform (.sendKeys text) el a.keys)
    fun _ => perform (.setValue text) el a.script

/-- `type_into`. -/
def typeInto (a : Attempt) (sel : Selector) (text : String) : Driven Unit := do
  let el ← find a sel
  Logged.record (.target a.page sel)
  typeIntoElement a el text

/-! ## What the calls log -/

/-- Nothing but operations on this element. -/
def Only (el : Element) (events : List Event) : Prop :=
  ∀ event ∈ events, ∃ op, event = .operation op el

/-- At least one of them. -/
def Operates (el : Element) (events : List Event) : Prop := events ≠ [] ∧ Only el events

/-- `click` and `type_into` go for nothing but these selectors on these pages, and the
elements operated on are those the selectors find there. -/
structure Paired (steps : List (List Node × Selector)) (events : List Event) : Prop where
  targets : ∀ page sel, .target page sel ∈ events → (page, sel) ∈ steps
  operated : ∀ el, (∃ op, .operation op el ∈ events) ↔
    ∃ page sel, .target page sel ∈ events ∧ findElement page sel.locator = some el

theorem only_closed (el : Element) : Logged.Closed (Only el) where
  nil := by simp [Only]
  append ha hb event h := (List.mem_append.mp h).elim (ha event) (hb event)

theorem Operates.append {el : Element} {as bs : List Event} (ha : Operates el as)
    (hb : Only el bs) : Operates el (as ++ bs) :=
  ⟨List.append_ne_nil_of_left_ne_nil ha.1 bs, (only_closed el).append ha.2 hb⟩

theorem paired_closed (steps : List (List Node × Selector)) : Logged.Closed (Paired steps) where
  nil := ⟨by simp, by simp⟩
  append {as bs} ha hb := by
    refine ⟨fun page sel h => ?_, fun el => ?_⟩
    · exact (List.mem_append.mp h).elim (ha.targets page sel) (hb.targets page sel)
    · simp only [List.mem_append, exists_or, or_and_right, ha.operated el, hb.operated el]

theorem paired_cons {steps : List (List Node × Selector)} {page : List Node} {sel : Selector}
    {el : Element} {events : List Event} (hstep : (page, sel) ∈ steps)
    (hfind : findElement page sel.locator = some el) (h : Operates el events) :
    Paired steps (.target page sel :: events) := by
  obtain ⟨hne, honly⟩ := h
  have htarget : ∀ page' sel', .target page' sel' ∈ Event.target page sel :: events →
      page' = page ∧ sel' = sel := by
    intro page' sel' hmem
    rcases List.mem_cons.mp hmem with hhead | hmem
    · cases hhead
      exact ⟨rfl, rfl⟩
    · obtain ⟨op, heq⟩ := honly _ hmem
      cases heq
  refine ⟨fun page' sel' hmem => ?_, fun el' => ⟨fun hop => ?_, fun hop => ?_⟩⟩
  · obtain ⟨rfl, rfl⟩ := htarget page' sel' hmem
    exact hstep
  · obtain ⟨op, hmem⟩ := hop
    rcases List.mem_cons.mp hmem with hhead | hmem
    · cases hhead
    · obtain ⟨op', heq⟩ := honly _ hmem
      cases heq
      exact ⟨page, sel, List.mem_cons_self, hfind⟩
  · obtain ⟨page', sel', hmem, hfind'⟩ := hop
    obtain ⟨rfl, rfl⟩ := htarget page' sel' hmem
    cases hfind.symm.trans hfind'
    obtain ⟨event, hevent⟩ := List.exists_mem_of_ne_nil _ hne
    obtain ⟨op, heq⟩ := honly _ hevent
    exact ⟨op, List.mem_cons_of_mem _ (heq ▸ hevent)⟩

section
variable {P Q : List Event → Prop} {α : Type}

theorem exceptFor_appends {caught : WebDriverKind → Bool} {m : Driven α}
    {h : WebDriverException → Driven α} (hm : Logged.Appends P m)
    (hh : ∀ e, Logged.Appends Q (h e)) (hnil : Q [])
    (happend : ∀ {as bs}, P as → Q bs → P (as ++ bs)) :
    Logged.Appends P (exceptFor caught m h) := by
  refine hm.tryCatch_of (Q := Q) (fun raised => ?_) happend
  cases raised with
  | webDriver e =>
    show Logged.Appends Q (if caught e.kind then h e else throw (.webDriver e))
    split
    · exact hh e
    · exact .throw hnil _
  | exn e => exact .throw hnil _

theorem perform_operates (op : Operation) (el : Element) (fault : Option WebDriverException) :
    Logged.Appends (Operates el) (perform op el fault) := by
  refine Logged.Appends.bind_of (Q := Only el) (.record ⟨by simp, ?_⟩)
    (fun _ => .raised (only_closed el).nil _) Operates.append
  simp [Only]

theorem Operates.appends_only {el : Element} {m : Driven α} (h : Logged.Appends (Operates el) m) :
    Logged.Appends (Only el) m := by
  intro log
  obtain ⟨new, hnew, hoperates⟩ := h log
  exact ⟨new, hnew, hoperates.2⟩

end

theorem clickElement_operates (a : Attempt) (sel : Selector) (el : Element) :
    Logged.Appends (Operates el) (clickElement a sel el) := by
  refine exceptFor_appends (perform_operates _ _ _) (fun _ => ?_) (only_closed el).nil Operates.append
  exact exceptFor_appends (Operates.appends_only (perform_operates _ _ _))
    (fun _ => .throw (only_closed el).nil _) (only_closed el).nil (only_closed el).append

theorem typeIntoElement_operates (a : Attempt) (el : Element) (text : String) :
    Logged.Appends (Operates el) (typeIntoElement a el text) := by
  refine exceptFor_appends (Logged.Appends.bind_of (perform_operates _ _ _)
    (fun _ => Operates.appends_only (perform_operates _ _ _)) Operates.append)
    (fun _ => Operates.appends_only (perform_operates _ _ _)) (only_closed el).nil Operates.append

/-- What a lookup comes to when the gate lets it through. -/
theorem find_allowed {sel : Selector} (hsel : sel ∉ denylist) (a : Attempt) (log : List Event) :
    (find a sel).outcome log =
      (match a.lookup, findElement a.page sel.locator with
        | some e, _ => .error (.webDriver e)
        | none, some el => .ok el
        | none, none => .error (.webDriver ⟨.noSuchElement, a.noSuchElement⟩), log) := by
  unfold find
  rw [if_neg hsel, Logged.outcome_bind]
  cases a.lookup with
  | some e => rfl
  | none => cases findElement a.page sel.locator <;> rfl

/-- A lookup logs nothing, and what it returns is the first match on the page. -/
theorem find_outcome (a : Attempt) (sel : Selector) (log : List Event) :
    (∃ e, (find a sel).outcome log = (.error e, log)) ∨
      ∃ el, findElement a.page sel.locator = some el ∧ (find a sel).outcome log = (.ok el, log) := by
  by_cases hsel : sel ∈ denylist
  · unfold find
    rw [if_pos hsel]
    exact .inl ⟨_, rfl⟩
  · rw [find_allowed hsel]
    cases a.lookup with
    | some e => exact .inl ⟨_, rfl⟩
    | none =>
      cases findElement a.page sel.locator with
      | none => exact .inl ⟨_, rfl⟩
      | some el => exact .inr ⟨el, rfl, rfl⟩

theorem find_appends {P : List Event → Prop} (hnil : P []) (a : Attempt) (sel : Selector) :
    Logged.Appends P (find a sel) := by
  intro log
  rcases find_outcome a sel log with ⟨e, hrun⟩ | ⟨el, -, hrun⟩ <;> rw [hrun] <;>
    exact ⟨[], (List.append_nil log).symm, hnil⟩

section
variable {steps : List (List Node × Selector)} {a : Attempt} {sel : Selector}

/-- Whatever is done to the element that was found belongs to its selector. -/
theorem target_paired {body : Element → Driven Unit} (hstep : (a.page, sel) ∈ steps)
    (hbody : ∀ el, Logged.Appends (Operates el) (body el)) :
    Logged.Appends (Paired steps) (do
      let el ← find a sel
      Logged.record (.target a.page sel)
      body el) := by
  intro log
  rw [Logged.outcome_bind]
  rcases find_outcome a sel log with ⟨e, hrun⟩ | ⟨el, hfind, hrun⟩ <;> rw [hrun]
  · exact ⟨[], (List.append_nil log).symm, (paired_closed steps).nil⟩
  · obtain ⟨new, hnew, hoperates⟩ := hbody el (log ++ [.target a.page sel])
    refine ⟨.target a.page sel :: new, ?_, paired_cons hstep hfind hoperates⟩
    simp only [Logged.outcome_record_bind, hnew, List.append_assoc, List.singleton_append]

theorem click_paired (hstep : (a.page, sel) ∈ steps) :
    Logged.Appends (Paired steps) (click a sel) :=
  target_paired hstep (clickElement_operates a sel)

theorem typeInto_paired (hstep : (a.page, sel) ∈ steps) (text : String) :
    Logged.Appends (Paired steps) (typeInto a sel text) :=
  target_paired hstep fun el => typeIntoElement_operates a el text

end

end Bluewave.SafeDriver
