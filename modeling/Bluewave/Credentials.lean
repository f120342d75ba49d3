import Bluewave.ReportFlow

/-! What depends on the credentials in a pull of a report: the texts that are typed into the two
fields of the login form. The steps, the result and the messages of the failures do not. -/
namespace Bluewave.Credentials
open Lib Lib.XPath Bluewave.Exceptions Bluewave.Selectors Bluewave.SafeDriver Bluewave.ReportFlow
open Bluewave.Schema (reprOption)

/-- The text of an operation that fills in one. -/
def typed : Event → Option String
  | .operation (.sendKeys text) _ => some text
  | .operation (.setValue text) _ => some text
  | _ => none

/-- A field, and what is typed into it in the one run and in the other. -/
structure Field where
  page : List Node
  sel : Selector
  text : String
  text' : String

/-- The same event, or a text that is typed into the first element that is found for its field. -/
inductive Masked (fields : List Field) : Event → Event → Prop where
  | same {event : Event} : typed event = none → Masked fields event event
  | keys {f : Field} {el : Element} : f ∈ fields → findElement f.page f.sel.locator = some el →
      Masked fields (.operation (.sendKeys f.text) el) (.operation (.sendKeys f.text') el)
  | value {f : Field} {el : Element} : f ∈ fields → findElement f.page f.sel.locator = some el →
      Masked fields (.operation (.setValue f.text) el) (.operation (.setValue f.text') el)

/-- The login form, for a run that comes to it. -/
def loginFields (v : Visit) (user password user' password' : String) : List Field :=
  if alreadyAuthed v then []
  else [⟨v.username.page, loginUsername, user, user'⟩,
    ⟨v.password.page, loginPassword, password, password'⟩]

section
variable {fields : List Field} {α β : Type}

theorem raise_alike (fault : Option WebDriverException) :
    Logged.Alike (Masked fields) (raise fault) (raise fault) := .raised _

theorem runFailure_alike (cls : RunFailure) (message : String) :
    Logged.Alike (Masked fields) (runFailure cls message : Driven α) (runFailure cls message) :=
  .throw _

theorem answer_alike (a : Except WebDriverException α) :
    Logged.Alike (Masked fields) (answer a) (answer a) := by
  cases a with
  | ok a => exact .pure a
  | error e => exact .throw _

theorem exceptFor_alike {caught : WebDriverKind → Bool} {m m' : Driven α}
    {h h' : WebDriverException → Driven α} (hm : Logged.Alike (Masked fields) m m')
    (hh : ∀ e, Logged.Alike (Masked fields) (h e) (h' e)) :
    Logged.Alike (Masked fields) (exceptFor caught m h) (exceptFor caught m' h') := by
  refine hm.tryCatch fun raised => ?_
  cases raised with
  | webDriver e =>
    show Logged.Alike (Masked fields) (if caught e.kind then h e else throw (.webDriver e))
      (if caught e.kind then h' e else throw (.webDriver e))
    split
    · exact hh e
    · exact .throw _
  | exn e => exact .throw _

theorem perform_alike {op op' : Operation} {el : Element} (fault : Option WebDriverException)
    (h : Masked fields (.operation op el) (.operation op' el)) :
    Logged.Alike (Masked fields) (perform op el fault) (perform op' el fault) :=
  .bind (.record h) fun _ => .raised _

/-- A lookup comes to the same element, and that is the first one on the page. -/
theorem find_alike {a : Attempt} {sel : Selector} {body body' : Element → Driven α}
    (h : ∀ el, findElement a.page sel.locator = some el →
      Logged.Alike (Masked fields) (body el) (body' el)) :
    Logged.Alike (Masked fields) (find a sel >>= body) (find a sel >>= body') := by
  by_cases hsel : sel ∈ denylist
  · unfold find
    rw [if_pos hsel]
    exact .throw _
  · intro log log' hlog
    rw [Logged.outcome_bind, Logged.outcome_bind, find_allowed hsel, find_allowed hsel]
    cases a.lookup with
    | some e => exact ⟨rfl, hlog⟩
    | none =>
      cases hfind : findElement a.page sel.locator with
      | none => exact ⟨rfl, hlog⟩
      | some el => exact h el hfind log log' hlog

theorem find_pure_alike {a : Attempt} {sel : Selector} {m : Driven α}
    (h : Logged.Alike (Masked fields) m m) :
    Logged.Alike (Masked fields) (do let _ ← find a sel; m) (do let _ ← find a sel; m) :=
  find_alike fun _ _ => h

theorem click_alike (a : Attempt) (sel : Selector) :
    Logged.Alike (Masked fields) (click a sel) (click a sel) := by
  refine find_alike fun el _ => .bind (.record (.same rfl)) fun _ => ?_
  refine exceptFor_alike (perform_alike _ (.same rfl)) fun _ => ?_
  exact exceptFor_alike (perform_alike _ (.same rfl)) fun _ => .throw _

theorem typeInto_alike {a : Attempt} {sel : Selector} {text text' : String}
    (hf : ⟨a.page, sel, text, text'⟩ ∈ fields) :
    Logged.Alike (Masked fields) (typeInto a sel text) (typeInto a sel text') := by
  refine find_alike fun el hfind => .bind (.record (.same rfl)) fun _ => ?_
  refine exceptFor_alike (.bind (perform_alike _ (.same rfl)) fun _ => ?_) fun _ => ?_
  · exact perform_alike _ (.keys hf hfind)
  · exact perform_alike _ (.value hf hfind)

end

section
variable (v : Visit) {fields : List Field}

theorem doLoginFormFlow_alike {user password user' password' : String} (loginWaitS : Nat)
    (huser : ⟨v.username.page, loginUsername, user, user'⟩ ∈ fields)
    (hpassword : ⟨v.password.page, loginPassword, password, password'⟩ ∈ fields) :
    Logged.Alike (Masked fields) (doLoginFormFlow v user password loginWaitS)
      (doLoginFormFlow v user' password' loginWaitS) := by
  refine .bind (exceptFor_alike (raise_alike _) fun _ => runFailure_alike _ _) fun _ => ?_
  refine .bind (exceptFor_alike (.bind (typeInto_alike huser) fun _ =>
    typeInto_alike hpassword) fun _ => runFailure_alike _ _) fun _ => ?_
  refine .bind (exceptFor_alike (click_alike _ _) fun _ => exceptFor_alike
    (find_pure_alike (raise_alike _)) fun _ => runFailure_alike _ _) fun _ => ?_
  exact exceptFor_alike (raise_alike _) fun _ => runFailure_alike _ _

theorem loginAndNavigate_alike (url user password user' password' : String)
    (loginWaitS navWaitS : Nat) :
    Logged.Alike (Masked (loginFields v user password user' password'))
      (loginAndNavigate v url user password loginWaitS navWaitS)
      (loginAndNavigate v url user' password' loginWaitS navWaitS) := by
  refine .bind (exceptFor_alike (raise_alike _) fun _ => runFailure_alike _ _) fun _ => ?_
  refine .bind ?_ fun _ => .bind (exceptFor_alike (click_alike _ _) fun e => ?_)
    fun _ => exceptFor_alike (raise_alike _) fun _ => runFailure_alike _ _
  · unfold loginFields
    split
    · exact .pure ()
    · exact doLoginFormFlow_alike v loginWaitS List.mem_cons_self
        (List.mem_cons_of_mem _ List.mem_cons_self)
  · split <;> exact runFailure_alike _ _

theorem selectEventReport_alike :
    Logged.Alike (Masked fields) (selectEventReport v) (selectEventReport v) := by
  refine .bind (exceptFor_alike (raise_alike _) fun _ => runFailure_alike _ _) fun _ => ?_
  exact exceptFor_alike (find_pure_alike (raise_alike _)) fun _ => runFailure_alike _ _

variable (repr : String → String)

/-- The date is set by a script, or typed with nothing of it in the log. -/
theorem setOneDateInput_alike (d : DateInput) (sel : Selector) (value : String) :
    Logged.Alike (Masked fields) (setOneDateInput repr d sel value)
      (setOneDateInput repr d sel value) := by
  refine find_pure_alike (.bind (raise_alike _) fun _ => .bind (answer_alike _) fun current => ?_)
  split
  · exact .pure ()
  · refine .bind (exceptFor_alike (.bind (raise_alike _) fun _ => .bind (raise_alike _) fun _ =>
      answer_alike _) fun _ => .pure none) fun current => ?_
    split
    · exact .pure ()
    · exact runFailure_alike _ _

theorem clickGetReportAndWait_alike :
    Logged.Alike (Masked fields) (clickGetReportAndWait v) (clickGetReportAndWait v) :=
  .bind (exceptFor_alike (click_alike _ _) fun _ => runFailure_alike _ _) fun _ =>
    exceptFor_alike (answer_alike _) fun _ => runFailure_alike _ _

theorem clickCsvAndAwaitFile_alike (downloadDir : String) :
    Logged.Alike (Masked fields) (clickCsvAndAwaitFile repr v downloadDir)
      (clickCsvAndAwaitFile repr v downloadDir) := by
  refine .bind (exceptFor_alike (click_alike _ _) fun _ => runFailure_alike _ _) fun _ => ?_
  split
  · exact .pure _
  · exact runFailure_alike _ _

theorem scrapeEventReport_alike (value downloadDir : String) :
    Logged.Alike (Masked fields) (scrapeEventReport repr v value downloadDir)
      (scrapeEventReport repr v value downloadDir) := by
  refine .bind (.raised _) fun _ => .bind (selectEventReport_alike v) fun _ => .bind
    (exceptFor_alike (.bind (setOneDateInput_alike repr _ _ _) fun _ =>
      setOneDateInput_alike repr _ _ _) fun _ => runFailure_alike _ _) fun _ =>
    .bind (clickGetReportAndWait_alike v) fun outcome => ?_
  cases outcome with
  | noRows => exact .pure none
  | hasRows => exact .bind (clickCsvAndAwaitFile_alike v repr downloadDir) fun path => .pure (some path)

end

/-- On one site, runs with different credentials end in the same file or the same failure, whose
message tells nothing of them, after the same steps: only the texts that went into the first match
of each login field differ, and a session that is there already has none typed. -/
theorem pullReport_alike (repr : String → String) (v : Visit)
    (url value downloadDir user password user' password' : String) :
    (Logged.outcome (pullReport repr v url user password value downloadDir) []).1 =
      (Logged.outcome (pullReport repr v url user' password' value downloadDir) []).1 ∧
    List.Forall₂ (Masked (loginFields v user password user' password'))
      (events repr v url user password value downloadDir)
      (events repr v url user' password' value downloadDir) := by
  have hrun : Logged.Alike (Masked (loginFields v user password user' password'))
      (pullReport repr v url user password value downloadDir)
      (pullReport repr v url user' password' value downloadDir) :=
    .bind (loginAndNavigate_alike v url user password user' password' 30 15) fun _ =>
      scrapeEventReport_alike v repr value downloadDir
  exact hrun [] [] .nil

end Bluewave.Credentials
