import Bluewave.Lib.XPath

/-! `selectors.py`: the controls the worker looks for, and the denylist. A path stands for
its string: two of them are the same locator exactly when they are spelled the same. -/
namespace Bluewave.Selectors
open Lib.XPath

/-- The locator with a description, both of which count when selectors are compared. -/
structure Selector where
  locator : Locator
  description : String
  deriving DecidableEq

/-- `//*[@id='value']`, the first step of a path. -/
def byId (value : String) : Step :=
  { axis := .descendant, predicate := some (.attributeIs "id" value) }

/-- `normalize-space()='text'`. -/
def labelled (text : String) : Predicate := .equals (.normalizeSpace .string) text

/-! ## Login page and main menu -/

def loginUsername : Selector :=
  ⟨.id "tbUserName", "User Name input on the BlueWeb login form"⟩

def loginPassword : Selector :=
  ⟨.id "tbPassword", "Password input on the BlueWeb login form"⟩

def loginSubmit : Selector where
  locator := .xpath [
    [{ axis := .descendant
       predicate := some (.or (.or (.attributeIs "id" "btnLogin") (.attributeIs "id" "Login"))
         (.attributeIs "id" "btnSubmit")) }],
    [{ axis := .descendant, tag := some "button", predicate := some (labelled "Login") }],
    [{ axis := .descendant, tag := some "input"
       predicate := some (.and
         (.or (.or (.attributeIs "type" "submit") (.attributeIs "type" "button"))
           (.attributeIs "type" "image"))
         (.or (.or (.attributeIs "value" "Login")
             (.equals (.normalizeSpace (.attribute "value")) "Login"))
           (.attributeIs "alt" "Login"))) }],
    [{ axis := .descendant, tag := some "a"
       predicate := some (.and (labelled "Login") (.or (.has "onclick") (.has "href"))) }]]
  description := "Login submit control (best-guess; Enter-key fallback in login.py)"

def mainMenuReports : Selector where
  locator := .id "btnReports_quicklinks"
  description := "Reports button (Quick Links bar) — present on the main menu and " ++
    "persists across post-login pages"

/-! ## Reports page -/

def reportTypeDropdown : Selector :=
  ⟨.id "ctl00_ContentPlaceHolder1_ddlReportType", "Choose Report dropdown on the Reports page"⟩

def startDateInput : Selector :=
  ⟨.id "txtStartDate", "Start Date text input on the Reports page (mm/dd/yyyy)"⟩

def endDateInput : Selector :=
  ⟨.id "txtEndDate", "End Date text input on the Reports page (mm/dd/yyyy)"⟩

def getReportButton : Selector :=
  ⟨.id "ctl00_ContentPlaceHolder1_btnGetReport", "Get Report submit button"⟩

def csvExportButton : Selector where
  locator := .xpath [
    [byId "tblReportResults_wrapper", { axis := .child, tag := some "div", position := some 1 },
      { axis := .child, tag := some "button", position := some 2 }],
    [byId "tblReportResults_wrapper",
      { axis := .descendant, tag := some "button", predicate := some (labelled "CSV") }],
    [{ axis := .descendant, tag := some "button", predicate := some (labelled "CSV") }]]
  description := "CSV export button on the DataTables results toolbar"

/-! ## Denylist -/

def denyEmergencyLockdownText : Selector where
  locator := anywhere (.contains (.normalizeSpace .string) "Emergency Lockdown")
  description := "Red EMERGENCY LOCKDOWN button on the main menu — read-only worker"

def denyEmergencyLockdownId : Selector where
  locator := anywhere (.or (.or (.attributeIs "id" "emergency-lockdown")
    (.contains (.attribute "id") "lockdown")) (.contains (.attribute "class") "lockdown"))
  description := "Defensive secondary selector for Emergency Lockdown (id/class variant)"

def denylist : List Selector := [denyEmergencyLockdownText, denyEmergencyLockdownId]

/-- Some locator of the denylist matches the element. -/
def Denied (el : Element) : Prop := ∃ sel ∈ denylist, sel.locator.selects el = true

/-- The element reads, or is named, like the Emergency Lockdown control. -/
def Lockdown (el : Element) : Prop :=
  "Emergency Lockdown".toList <:+: normalizeSpace (stringValue el.self.children) ∨
  "lockdown".toList <:+: StringExpr.eval el.self (.attribute "id") ∨
  "lockdown".toList <:+: StringExpr.eval el.self (.attribute "class")

theorem denied_iff {el : Element} : Denied el ↔ Lockdown el := by
  have hid : el.self.attributes.lookup "id" = some "emergency-lockdown" →
      "lockdown".toList <:+: StringExpr.eval el.self (.attribute "id") := by
    intro h
    simp only [StringExpr.eval, h, Option.getD_some]
    decide
  simp only [Denied, denylist, List.mem_cons, List.not_mem_nil, or_false, exists_eq_or_imp,
    exists_eq_left, denyEmergencyLockdownText, denyEmergencyLockdownId, anywhere_selects,
    Predicate.eval, Bool.or_eq_true, decide_eq_true_eq, Lockdown]
  constructor
  · intro h
    rcases h with htext | (hname | hcontains) | hclass
    · exact .inl htext
    · exact .inr (.inl (hid hname))
    · exact .inr (.inl hcontains)
    · exact .inr (.inr hclass)
  · intro h
    rcases h with htext | hcontains | hclass
    · exact .inl htext
    · exact .inr (.inl (.inr hcontains))
    · exact .inr (.inr hclass)

end Bluewave.Selectors
