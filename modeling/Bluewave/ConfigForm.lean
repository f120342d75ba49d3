import Mathlib.Data.List.TakeWhile
import Bluewave.DailyJob
import Bluewave.Pages

/-! The form of `GET /config`, on its way back: the browser reads the page and checks its
inputs, the script puts them into a JSON object, and `POST /config` validates it. A form that
nobody touched posts the config it was made from, if the browser lets it through. -/
namespace Bluewave.ConfigForm
open Lib Lib.Markup Bluewave.Auth Bluewave.ConfigStore Bluewave.DailyJob
open Bluewave.Exceptions Bluewave.Numerals Bluewave.Pages Bluewave.PostConfig
open Bluewave.RunHistory (esc escapeChar)
open Bluewave.Scheduler (Libraries splitTime)

/-! ## In the browser -/

/-- What an attribute value says: references are read, and U+0000 cannot be had. -/
def attributeText (content : List (Sym Empty)) : List Char :=
  decode ((content.filterMap Sym.char?).map fun c => if c = '\x00' then '\ufffd' else c)

def unsigned? (digits : List Char) : Option Int :=
  if digits ≠ [] ∧ digits.all Char.isDigit then some (Nat.ofDigitChars 10 digits 0) else none

/-- The number of an `<input type='number'>`. The page writes whole ones only. -/
def number? : List Char → Option Int
  | '-' :: digits => (unsigned? digits).map Int.neg
  | digits => unsigned? digits

/-- The value that an input makes of its attribute: a number, a text as it is, or one line. -/
def sanitize (type : String) (cs : List Char) : List Char :=
  if type = "number" then if (number? cs).isSome then cs else []
  else if type = "hidden" then cs
  else cs.filter fun c => c ≠ '\n' ∧ c ≠ '\r'

/-- An input as the browser holds it. -/
structure Field where
  name : String
  type : String
  value : String
  required : Bool
  pattern : Option String
  min : Option String
  max : Option String
  deriving DecidableEq

def field (input : Input Empty) : Field :=
  let text (content : List (Sym Empty)) := String.ofList (attributeText content)
  let type := (input.type.map text).getD "text"
  { name := text input.name, type
    value := String.ofList (sanitize type (attributeText input.value))
    required := input.required, pattern := input.pattern.map text, min := input.min.map text
    max := input.max.map text }

/-- The form as it comes, as long as nobody types anything and no draft is kept. -/
def fields (page : String) : List Field := (inputs (tokens page.toList)).map field

/-- A pattern of ranges and plain characters, on all of the text. -/
def fullMatch : List Char → List Char → Bool
  | [], [] => true
  | '[' :: low :: '-' :: high :: ']' :: pattern, c :: cs =>
    (low ≤ c && c ≤ high) && fullMatch pattern cs
  | p :: pattern, c :: cs => c == p && fullMatch pattern cs
  | _, _ => false

def inRange (low high : Option String) (n : Int) : Bool :=
  (low.bind fun s => number? s.toList).all (fun low => low ≤ n) &&
    (high.bind fun s => number? s.toList).all fun high => n ≤ high

/-- What the browser checks of an input before it fires `submit`. An empty one meets its
pattern and its range. -/
def Field.valid (f : Field) : Bool :=
  f.type == "hidden" ||
    (!f.required || f.value != "") &&
      (f.value == "" ||
        if f.type = "number" then (number? f.value.toList).all (inRange f.min f.max)
        else f.pattern.all fun pattern => fullMatch pattern.toList f.value.toList)

/-- `new FormData(form)`. -/
def formData (form : List Field) : List (String × String) := form.map fun f => (f.name, f.value)

/-- Whether a number is negative, and what stands behind its sign. -/
def sign : List Char → Bool × List Char
  | '-' :: cs => (true, cs)
  | '+' :: cs => (false, cs)
  | cs => (false, cs)

/-- `parseInt(v, 10)`; `none` is `NaN`. -/
def parseInt? (v : String) : Option Int :=
  let (negative, cs) := sign (v.toList.dropWhile Char.isWhitespace)
  let digits := cs.takeWhile Char.isDigit
  let n : Int := Nat.ofDigitChars 10 digits 0
  if digits = [] then none else some (if negative then -n else n)

/-- The values of the body. -/
inductive Json where
  | null
  | number (n : Int)
  | string (s : String)
  deriving DecidableEq

/-- The `Set` of the script. -/
def numeric : List String := ["mysql_port", "catch_up_cap_days"]

/-- `payloadFromForm`. -/
def payloadFromForm (data : List (String × String)) : List (String × Json) :=
  (data.filter fun kv => kv.1 ≠ "csrf_token").map fun kv =>
    (kv.1, if kv.1 ∈ numeric then ((parseInt? kv.2).map Json.number).getD .null else .string kv.2)

/-! ## In the worker -/

/-- A `str` of the body. -/
def strField? (body : List (String × Json)) (key : String) (default : Option String) : Option String :=
  match body.lookup key with
  | none => default
  | some (.string s) => some s
  | some _ => none

/-- An `int` of the body. Pydantic takes some strings for one. -/
def intField? (lax : String → Option Int) (body : List (String × Json)) (key : String) (default : Int) :
    Option Int :=
  match body.lookup key with
  | none => some default
  | some (.number n) => some n
  | some (.string s) => lax s
  | some .null => none

instance decidableEqOk (x : Except String String) (s : String) : Decidable (x = .ok s) :=
  match x with
  | .ok t => decidable_of_iff (t = s) (by simp)
  | .error _ => isFalse nofun

/-- `ConfigPayload` of a body; `none` is the 422. -/
def payload? {Tz Trigger : Type} (L : Libraries Tz Trigger) (lax : String → Option Int)
    (body : List (String × Json)) : Option (ConfigPayload L) := do
  let siteLabel ← strField? body "site_label" none
  let bluewebUrl ← strField? body "blueweb_url" none
  let bluewebUser ← strField? body "blueweb_user" none
  let bluewebPassword ← strField? body "blueweb_password" (some "")
  let operatorTimezone ← strField? body "operator_timezone" none
  let mysqlHost ← strField? body "mysql_host" none
  let mysqlPort ← intField? lax body "mysql_port" 3306
  let mysqlDatabase ← strField? body "mysql_database" none
  let mysqlUser ← strField? body "mysql_user" none
  let mysqlPassword ← strField? body "mysql_password" (some "")
  let scheduleLocal ← strField? body "schedule_local" none
  let catchUpCapDays ← intField? lax body "catch_up_cap_days" 14
  if h : (1 ≤ siteLabel.length ∧ siteLabel.length ≤ 80) ∧ (1 ≤ mysqlPort ∧ mysqlPort ≤ 65535) ∧
      (1 ≤ catchUpCapDays ∧ catchUpCapDays ≤ 90) ∧
      scheduleFormat L scheduleLocal = .ok scheduleLocal ∧
      tzKnown L operatorTimezone = .ok operatorTimezone then
    some
      { siteLabel, bluewebUrl, bluewebUser, bluewebPassword, operatorTimezone, mysqlHost
        mysqlPort, mysqlDatabase, mysqlUser, mysqlPassword, scheduleLocal, catchUpCapDays
        siteLabel_length := h.1
        mysqlPort_range := h.2.1
        catchUpCapDays_range := h.2.2.1
        schedule_format := h.2.2.2.1
        tz_known := h.2.2.2.2 }
  else none

/-- A form that nobody touched, saved: nothing comes of it when the browser keeps it back, or
when validation refuses it. -/
def submitted {Tz Trigger : Type} (L : Libraries Tz Trigger) (lax : String → Option Int)
    (page : String) : Option (ConfigPayload L) :=
  let form := fields page
  if form.all Field.valid then payload? L lax (payloadFromForm (formData form)) else none

/-! ## What the browser finds -/

def lit (s : String) : List (Sym Slot) := s.toList.map .char

/-- An input of one line that is not to be left blank. -/
def textInput (name : String) (slot : Slot) : Input Slot :=
  ⟨lit name, [.value slot], none, true, none, none, none⟩

def passwordInput (name : String) : Input Slot :=
  ⟨lit name, [], some (lit "password"), false, none, none, none⟩

def numberInput (name : String) (slot : Slot) (max : String) : Input Slot :=
  ⟨lit name, [.value slot], some (lit "number"), true, none, some (lit "1"), some (lit max)⟩

def csrfInput : Input Slot :=
  ⟨lit "csrf_token", [.value .csrfToken], some (lit "hidden"), false, none, none, none⟩

/-- The inputs of the form. -/
def formInputs : List (Input Slot) :=
  [csrfInput, textInput "site_label" .siteLabel, textInput "blueweb_url" .bluewebUrl,
    textInput "blueweb_user" .bluewebUser, passwordInput "blueweb_password",
    textInput "operator_timezone" .operatorTimezone, textInput "mysql_host" .mysqlHost,
    numberInput "mysql_port" .mysqlPort "65535", textInput "mysql_database" .mysqlDatabase,
    textInput "mysql_user" .mysqlUser, passwordInput "mysql_password",
    { textInput "schedule_local" .scheduleLocal with
      pattern := some (lit "[0-2][0-9]:[0-5][0-9]") },
    numberInput "catch_up_cap_days" .catchUpCapDays "90"]

theorem inputs_configPage : inputs (read .text [] [] (syms (configPage true))) = formInputs := by
  simp only [configPage, pageShell, siteBanner, configFields, formInputs, csrfInput, textInput,
    passwordInput, numberInput, lit, if_true, syms, Piece.syms, List.flatMap_cons, List.flatMap_nil,
    List.cons_append, List.nil_append, List.append_nil]
  repeat rw [toList_eq rfl]
  decide +kernel

/-! ## What `int` reads needs no reference -/

theorem mem_digits? {cs : List Char} {ds : List Nat} (h : digits? cs = some ds) :
    ∀ c ∈ cs, c = '_' ∨ (decimal? c).isSome := by
  induction cs using digits?.induct generalizing ds with
  | case1 => simp
  | case2 c =>
    intro c' hc
    obtain rfl := List.mem_singleton.mp hc
    cases hd : decimal? c' with
    | none => simp [digits?, hd] at h
    | some d => exact .inr rfl
  | case3 c c' cs ih =>
    simp only [digits?, Option.bind_eq_bind, Option.bind_eq_some_iff] at h
    obtain ⟨d, hd, ds', hds, -⟩ := h
    intro x hx
    rcases List.mem_cons.mp hx with rfl | hx
    · exact .inr (by rw [hd]; rfl)
    · rcases List.mem_cons.mp hx with rfl | hx
      · exact .inl rfl
      · exact ih hds x hx
  | case4 c c' cs hne ih =>
    rw [digits? ] at h
    · simp only [Option.bind_eq_bind, Option.bind_eq_some_iff] at h
      obtain ⟨d, hd, ds', hds, -⟩ := h
      intro x hx
      rcases List.mem_cons.mp hx with rfl | hx
      · exact .inr (by rw [hd]; rfl)
      · exact ih hds x hx
    · exact hne

theorem mem_dropWhile_or {p : Char → Bool} {l : List Char} {c : Char} (hc : c ∈ l) :
    p c = true ∨ c ∈ l.dropWhile p := by
  rw [← @List.takeWhile_append_dropWhile _ p l] at hc
  rcases List.mem_append.mp hc with hskipped | hrest
  · exact .inl (List.mem_takeWhile_imp hskipped)
  · exact .inr hrest

/-- Such a text has none of the characters that `_esc` changes. -/
theorem escapeChar_of_int? {s : String} {n : Int} (h : int? s = some n) :
    ∀ c ∈ s.toList, escapeChar c = [c] := by
  have hnatural : ∀ cs (k : Nat), natural? cs = some k → ∀ c ∈ cs, c = '_' ∨ (decimal? c).isSome := by
    intro cs k hk
    obtain ⟨ds, hds, -⟩ := Option.bind_eq_some_iff.mp hk
    exact mem_digits? hds
  have hmem : ∀ c ∈ s.toList, isIntSpace c = true ∨ c = '+' ∨ c = '-' ∨ c = '_' ∨
      (decimal? c).isSome := by
    intro c hc
    rcases mem_dropWhile_or (p := isIntSpace) hc with hspace | hc
    · exact .inl hspace
    rcases mem_dropWhile_or (p := isIntSpace) (List.mem_reverse.mpr hc) with hspace | hc
    · exact .inl hspace
    have hc := List.mem_reverse.mpr hc
    unfold int? at h
    split at h
    · rename_i cs htrim
      obtain ⟨k, hk, -⟩ := Option.map_eq_some_iff.mp h
      rcases List.mem_cons.mp (htrim ▸ hc) with rfl | hc
      · exact .inr (.inl rfl)
      · exact .inr (.inr (.inr (hnatural cs k hk c hc)))
    · rename_i cs htrim
      obtain ⟨_, hlift, -⟩ := Option.map_eq_some_iff.mp h
      obtain ⟨k, hk, -⟩ := Option.bind_eq_some_iff.mp hlift
      rcases List.mem_cons.mp (htrim ▸ hc) with rfl | hc
      · exact .inr (.inr (.inl rfl))
      · exact .inr (.inr (.inr (hnatural cs k hk c hc)))
    · obtain ⟨k, hk, -⟩ := Option.map_eq_some_iff.mp h
      exact .inr (.inr (.inr (hnatural _ k hk c hc)))
  intro c hc
  refine escapeChar_eq_self fun hspecial => ?_
  have hc := hmem c hc
  simp only [List.mem_cons, List.not_mem_nil, or_false] at hspecial
  rcases hspecial with rfl | rfl | rfl | rfl | rfl <;> exact absurd hc (by decide)

theorem splitTime_ok {s hh mm : String} (h : splitTime s = .ok (hh, mm)) :
    s.toList = hh.toList ++ ':' :: mm.toList := by
  unfold splitTime at h
  split at h
  · rename_i hh' mm' hsplit
    obtain ⟨rfl, rfl⟩ := Prod.mk.inj (Except.ok.inj h)
    have hjoin := @List.intercalate_splitOn _ s.toList _ _ ':'
    rw [hsplit] at hjoin
    simpa [List.intercalate, List.intersperse] using hjoin.symm
  · cases h
  · cases h

/-- A schedule that passed validation is shown as it is. -/
theorem orText_schedule {Tz Trigger : Type} {L : Libraries Tz Trigger} {v : String}
    (h : scheduleFormat L v = .ok v) : orText (esc v) "03:00" = v := by
  obtain ⟨hh, mm, hour, minute, hsplit, ⟨hhour, -⟩, hminute, -⟩ := scheduleFormat_ok h
  have htext := splitTime_ok hsplit
  have hesc : esc v = v := by
    refine esc_eq_self fun c hc => ?_
    rw [htext] at hc
    rcases List.mem_append.mp hc with hc | hc
    · exact escapeChar_of_int? hhour c hc
    · rcases List.mem_cons.mp hc with rfl | hc
      · rfl
      · exact escapeChar_of_int? hminute c hc
  have hne : v ≠ "" := by
    rintro rfl
    simp at htext
  rw [orText, hesc, if_pos hne]

/-! ## There and back -/

/-- No line break, and no U+0000. -/
def Plain (s : String) : Prop := ∀ c ∈ s.toList, c ≠ '\n' ∧ c ≠ '\r' ∧ c ≠ '\x00'

/-- What an operator types into one-line inputs. -/
structure OneLine (cfg : Config) : Prop where
  siteLabel : Plain cfg.siteLabel
  bluewebUrl : Plain cfg.bluewebUrl
  bluewebUser : Plain cfg.bluewebUser
  operatorTimezone : Plain cfg.operatorTimezone
  mysqlHost : Plain cfg.mysqlHost
  mysqlDatabase : Plain cfg.mysqlDatabase
  mysqlUser : Plain cfg.mysqlUser
  scheduleLocal : Plain cfg.scheduleLocal

/-- The text of an attribute is back as it was. -/
theorem attributeText_esc {s : String} (h : ∀ c ∈ s.toList, c ≠ '\x00') :
    attributeText ((esc s).toList.map .char) = s.toList := by
  have hchars : ((esc s).toList.map (Sym.char : Char → Sym Empty)).filterMap Sym.char? =
      (esc s).toList := by
    rw [List.filterMap_map]
    exact List.filterMap_some
  have hnul : ∀ c ∈ (esc s).toList, c ≠ '\x00' := by
    intro c hc
    rw [esc_toList] at hc
    obtain ⟨d, hd, hcd⟩ := List.mem_flatMap.mp hc
    rcases escapeChar_cases d with href | ⟨hself, -⟩
    · have hall : (references.all fun r => r.1.all fun c => c != '\x00') = true := rfl
      simpa using List.all_eq_true.mp (List.all_eq_true.mp hall _ href) c hcd
    · rw [hself] at hcd
      exact List.mem_singleton.mp hcd ▸ h d hd
  have hmap : (esc s).toList.map (fun c => if c = '\x00' then '\ufffd' else c) = (esc s).toList := by
    conv_rhs => rw [← List.map_id (esc s).toList]
    exact List.map_congr_left fun c hc => if_neg (hnul c hc)
  rw [attributeText, hchars, hmap, decode_esc]

section
variable {n : Int}

theorem toString_digits (h : 0 ≤ n) : ∃ c cs, (toString n).toList = c :: cs ∧
    (∀ d ∈ c :: cs, d.isDigit = true) ∧ (Nat.ofDigitChars 10 (c :: cs) 0 : Int) = n := by
  obtain ⟨k, rfl⟩ := Int.eq_ofNat_of_zero_le h
  have hchars : (toString (k : Int)).toList = Nat.toDigits 10 k := by
    have htext : toString (k : Int) = toString k := rfl
    rw [htext]
    simp
  obtain ⟨c, cs, hcons⟩ := List.exists_cons_of_ne_nil (@Nat.toDigits_ne_nil k 10)
  refine ⟨c, cs, hchars.trans hcons, ?_, ?_⟩ <;> rw [← hcons]
  · exact fun d hd => Nat.isDigit_of_mem_toDigits (by decide) (by decide) hd
  · exact congrArg _ Nat.ofDigitChars_ten_toDigits

/-- A number of the form is read back. -/
theorem number?_toString (h : 0 ≤ n) : number? (toString n).toList = some n := by
  obtain ⟨c, cs, htext, hdigit, hvalue⟩ := toString_digits h
  have hc := hdigit c List.mem_cons_self
  rw [htext]
  unfold number?
  split
  · rename_i heq
    obtain ⟨rfl, -⟩ := List.cons.inj heq
    cases hc
  · rw [unsigned?, if_pos ⟨List.cons_ne_nil _ _, List.all_eq_true.mpr hdigit⟩, hvalue]

theorem parseInt?_toString (h : 0 ≤ n) : parseInt? (toString n) = some n := by
  obtain ⟨c, cs, htext, hdigit, hvalue⟩ := toString_digits h
  have hc := hdigit c List.mem_cons_self
  have hspace : c.isWhitespace = false := by
    by_contra hspace
    simp only [Char.isWhitespace, Bool.not_eq_false, Bool.or_eq_true, decide_eq_true_eq] at hspace
    rcases hspace with ((rfl | rfl) | rfl) | rfl <;> cases hc
  have hsign : sign (c :: cs) = (false, c :: cs) := by
    unfold sign
    split
    · rename_i heq
      obtain ⟨rfl, -⟩ := List.cons.inj heq
      cases hc
    · rename_i heq
      obtain ⟨rfl, -⟩ := List.cons.inj heq
      cases hc
    · rfl
  have htake : (c :: cs).takeWhile Char.isDigit = c :: cs := List.takeWhile_eq_self_iff.mpr hdigit
  rw [parseInt?, htext, List.dropWhile_cons_of_neg (by simp [hspace]), hsign]
  simp only [htake, hvalue, List.cons_ne_nil, if_false, Bool.false_eq_true]

/-- Neither markup nor U+0000. -/
theorem esc_toString (h : 0 ≤ n) : attributeText ((esc (toString n)).toList.map .char) =
    (toString n).toList := by
  obtain ⟨c, cs, htext, hdigit, -⟩ := toString_digits h
  refine attributeText_esc fun d hd => ?_
  rintro rfl
  cases hdigit _ (htext ▸ hd)

theorem toString_ne_empty (h : 0 ≤ n) : toString n ≠ "" := by
  obtain ⟨c, cs, htext, -⟩ := toString_digits h
  intro hempty
  rw [hempty] at htext
  cases htext

end

def textField (name value : String) : Field := ⟨name, "text", value, true, none, none, none⟩

def csrfField (token : String) : Field := ⟨"csrf_token", "hidden", token, false, none, none, none⟩

def passwordField (name : String) : Field := ⟨name, "password", "", false, none, none, none⟩

def numberField (name : String) (n : Int) (max : String) : Field :=
  ⟨name, "number", toString n, true, none, some "1", some max⟩

/-- The form that a config leads to, without its token. -/
def configForm (cfg : Config) : List Field :=
  [textField "site_label" cfg.siteLabel, textField "blueweb_url" cfg.bluewebUrl,
    textField "blueweb_user" cfg.bluewebUser, passwordField "blueweb_password",
    textField "operator_timezone" cfg.operatorTimezone, textField "mysql_host" cfg.mysqlHost,
    numberField "mysql_port" cfg.mysqlPort "65535", textField "mysql_database" cfg.mysqlDatabase,
    textField "mysql_user" cfg.mysqlUser, passwordField "mysql_password",
    { textField "schedule_local" cfg.scheduleLocal with
      pattern := some "[0-2][0-9]:[0-5][0-9]" },
    numberField "catch_up_cap_days" cfg.catchUpCapDays "90"]

section
variable (w : Rendering Slot) (name : String) (slot : Slot) {s : String}

/-- What the tags of the inputs say themselves. -/
def literals : List String :=
  ["csrf_token", "site_label", "blueweb_url", "blueweb_user", "blueweb_password",
    "operator_timezone", "mysql_host", "mysql_port", "mysql_database", "mysql_user",
    "mysql_password", "schedule_local", "catch_up_cap_days", "hidden", "password", "number", "1",
    "65535", "90", "[0-2][0-9]:[0-5][0-9]"]

/-- It is read as it is. -/
theorem lit_chars (h : name ∈ literals) :
    attributeText ((lit name).flatMap w.chars) = name.toList := by
  rw [lit, Rendering.flatMap_chars]
  simp only [literals, List.mem_cons, List.not_mem_nil, or_false] at h
  rcases h with rfl | rfl | rfl | rfl | rfl | rfl | rfl | rfl | rfl | rfl | rfl | rfl | rfl | rfl |
    rfl | rfl | rfl | rfl | rfl | rfl
  all_goals
    rw [toList_eq rfl]
    rfl

theorem value_chars (hslot : w.value slot = esc s) (h : ∀ c ∈ s.toList, c ≠ '\x00') :
    attributeText ([Sym.value slot].flatMap w.chars) = s.toList := by
  rw [List.flatMap_singleton, Rendering.chars, hslot, attributeText_esc h]

theorem field_textInput (hname : name ∈ literals) (hslot : w.value slot = esc s) (h : Plain s) :
    field ((textInput name slot).flatMap w.chars) = textField name s := by
  have hline : sanitize "text" s.toList = s.toList :=
    List.filter_eq_self.mpr fun c hc => by simpa using ⟨(h c hc).1, (h c hc).2.1⟩
  simp only [field, textInput, Input.flatMap, lit_chars w name hname,
    value_chars w slot hslot fun c hc => (h c hc).2.2, Option.map_none, Option.getD_none, hline,
    String.ofList_toList, textField]

theorem field_patternInput {pattern : String} (hname : name ∈ literals) (hpattern : pattern ∈ literals)
    (hslot : w.value slot = esc s) (h : Plain s) :
    field (({ textInput name slot with pattern := some (lit pattern) } : Input Slot).flatMap w.chars) =
      { textField name s with pattern := some pattern } := by
  have htext : field (({ textInput name slot with pattern := some (lit pattern) } :
      Input Slot).flatMap w.chars) = { field ((textInput name slot).flatMap w.chars) with
        pattern := some (String.ofList (attributeText ((lit pattern).flatMap w.chars))) } := rfl
  rw [htext, field_textInput w name slot hname hslot h, lit_chars w pattern hpattern, String.ofList_toList]

theorem field_csrfInput : ∃ token, field (csrfInput.flatMap w.chars) = csrfField token := by
  simp only [field, csrfInput, Input.flatMap, lit_chars w "csrf_token" (by decide), Option.map_some,
    Option.map_none, Option.getD_some, lit_chars w "hidden" (by decide), String.ofList_toList]
  exact ⟨_, rfl⟩

theorem field_passwordInput (hname : name ∈ literals) :
    field ((passwordInput name).flatMap w.chars) = passwordField name := by
  have hblank : attributeText ([].flatMap w.chars) = [] := rfl
  have hvalue : sanitize "password" [] = [] := rfl
  simp only [field, passwordInput, Input.flatMap, lit_chars w name hname, hblank, Option.map_some,
    Option.map_none, Option.getD_some, lit_chars w "password" (by decide), String.ofList_toList, hvalue,
    passwordField, String.ofList_nil]

theorem field_numberInput {max : String} {n : Int} (hname : name ∈ literals) (hmax : max ∈ literals)
    (hslot : w.value slot = esc (toString n)) (h : 0 ≤ n) :
    field ((numberInput name slot max).flatMap w.chars) = numberField name n max := by
  have hvalue : attributeText ([Sym.value slot].flatMap w.chars) = (toString n).toList := by
    rw [List.flatMap_singleton, Rendering.chars, hslot, esc_toString h]
  have hnumber : sanitize "number" (toString n).toList = (toString n).toList := by
    rw [sanitize, if_pos rfl, number?_toString h, if_pos Option.isSome_some]
  simp only [field, numberInput, Input.flatMap, lit_chars w name hname, hvalue, Option.map_some,
    Option.map_none, Option.getD_some, lit_chars w "number" (by decide),
    lit_chars w "1" (by decide), lit_chars w max hmax, String.ofList_toList, hnumber, numberField]

end

section
variable {A : Assets} {cfg : Config} {csrfToken : String}

theorem fields_config {Trigger : Type} (L : Libraries Zone Trigger) (hA : A.Closed) (now : Int)
    (hline : OneLine cfg) (hport : 0 ≤ cfg.mysqlPort) (hcap : 0 ≤ cfg.catchUpCapDays)
    (hschedule : orText (esc cfg.scheduleLocal) "03:00" = cfg.scheduleLocal) :
    ∃ token, fields ((Page.config (some cfg) csrfToken).html L A now) =
      csrfField token :: configForm cfg := by
  have hwalk : walk .text (syms (configPage true)) ≠ none :=
    Option.ne_none_iff_exists'.mpr ⟨_, walk_configPage true⟩
  rw [fields, Page.html, Option.isSome_some,
    tokens_render (sound_writer hA.baseCss hA.configJs hwalk) hwalk, inputs_flatMap,
    inputs_configPage, List.map_map]
  let w := writer A A.configJs (Slot.text (some cfg) csrfToken)
  have hsched : w.value .scheduleLocal = esc cfg.scheduleLocal := by
    show esc (orText (esc cfg.scheduleLocal) "03:00") = _
    rw [hschedule]
  have htext := field_textInput w
  have hpassword := field_passwordInput w
  have hnumber := field_numberInput w
  obtain ⟨token, hcsrf⟩ := field_csrfInput w
  refine ⟨token, ?_⟩
  simp only [formInputs, List.map_cons, List.map_nil, Function.comp_apply, configForm]
  rw [hcsrf, htext "site_label" .siteLabel (by decide) rfl hline.siteLabel,
    htext "blueweb_url" .bluewebUrl (by decide) rfl hline.bluewebUrl,
    htext "blueweb_user" .bluewebUser (by decide) rfl hline.bluewebUser,
    hpassword "blueweb_password" (by decide),
    htext "operator_timezone" .operatorTimezone (by decide) rfl hline.operatorTimezone,
    htext "mysql_host" .mysqlHost (by decide) rfl hline.mysqlHost,
    hnumber "mysql_port" .mysqlPort (by decide) (by decide) rfl hport,
    htext "mysql_database" .mysqlDatabase (by decide) rfl hline.mysqlDatabase,
    htext "mysql_user" .mysqlUser (by decide) rfl hline.mysqlUser,
    hpassword "mysql_password" (by decide),
    field_patternInput w "schedule_local" .scheduleLocal (by decide) (by decide) hsched
      hline.scheduleLocal,
    hnumber "catch_up_cap_days" .catchUpCapDays (by decide) (by decide) rfl hcap]
  rfl

end

/-! ## What the browser lets through -/

/-- The required inputs are filled in, and the schedule has the digits of its pattern. -/
structure Filled (cfg : Config) : Prop where
  bluewebUrl : cfg.bluewebUrl ≠ ""
  bluewebUser : cfg.bluewebUser ≠ ""
  operatorTimezone : cfg.operatorTimezone ≠ ""
  mysqlHost : cfg.mysqlHost ≠ ""
  mysqlDatabase : cfg.mysqlDatabase ≠ ""
  mysqlUser : cfg.mysqlUser ≠ ""
  scheduleLocal : ∃ h h' m m', cfg.scheduleLocal.toList = [h, h', ':', m, m'] ∧
    ('0' ≤ h ∧ h ≤ '2') ∧ ('0' ≤ h' ∧ h' ≤ '9') ∧ ('0' ≤ m ∧ m ≤ '5') ∧ '0' ≤ m' ∧ m' ≤ '9'

theorem fullMatch_range (low high : Char) {pattern cs : List Char} :
    fullMatch ('[' :: low :: '-' :: high :: ']' :: pattern) cs = true ↔
      ∃ c cs', cs = c :: cs' ∧ (low ≤ c ∧ c ≤ high) ∧ fullMatch pattern cs' = true := by
  cases cs with
  | nil => exact iff_of_false nofun fun ⟨_, _, h, _⟩ => by cases h
  | cons c cs => simp [fullMatch, and_assoc]

theorem fullMatch_colon {pattern cs : List Char} :
    fullMatch (':' :: pattern) cs = true ↔ ∃ cs', cs = ':' :: cs' ∧ fullMatch pattern cs' = true := by
  cases cs with
  | nil => exact iff_of_false nofun fun ⟨_, h, _⟩ => by cases h
  | cons c cs => simp [fullMatch]

theorem fullMatch_nil {cs : List Char} : fullMatch [] cs = true ↔ cs = [] := by
  cases cs <;> simp [fullMatch]

theorem fullMatch_schedule {cs : List Char} :
    fullMatch "[0-2][0-9]:[0-5][0-9]".toList cs = true ↔ ∃ h h' m m', cs = [h, h', ':', m, m'] ∧
      ('0' ≤ h ∧ h ≤ '2') ∧ ('0' ≤ h' ∧ h' ≤ '9') ∧ ('0' ≤ m ∧ m ≤ '5') ∧ '0' ≤ m' ∧ m' ≤ '9' := by
  rw [toList_eq rfl]
  simp only [fullMatch_range, fullMatch_colon, fullMatch_nil]
  constructor
  · rintro ⟨h, _, rfl, hh, h', _, rfl, hh', _, rfl, m, _, rfl, hm, m', _, rfl, hm', rfl⟩
    exact ⟨h, h', m, m', rfl, hh, hh', hm, hm'⟩
  · rintro ⟨h, h', m, m', rfl, hh, hh', hm, hm'⟩
    exact ⟨h, _, rfl, hh, h', _, rfl, hh', _, rfl, m, _, rfl, hm, m', _, rfl, hm', rfl⟩

theorem valid_textField {name value : String} : (textField name value).valid = true ↔ value ≠ "" := by
  simp [Field.valid, textField]

theorem valid_numberField (name : String) {max : String} {n top : Int}
    (hmax : number? max.toList = some top) (h : 1 ≤ n ∧ n ≤ top) :
    (numberField name n max).valid = true := by
  have hn : 0 ≤ n := by omega
  have hone : number? "1".toList = some 1 := by
    rw [toList_eq rfl]
    rfl
  simp only [Field.valid, numberField, number?_toString hn, Option.all_some, inRange,
    Option.bind_some, hmax, hone, h.1, h.2, decide_true, Bool.and_true, if_true, Bool.or_true,
    bne_iff_ne.mpr (toString_ne_empty hn)]

theorem valid_configForm {token : String} {cfg : Config} (hlabel : cfg.siteLabel ≠ "")
    (hport : 1 ≤ cfg.mysqlPort ∧ cfg.mysqlPort ≤ 65535)
    (hcap : 1 ≤ cfg.catchUpCapDays ∧ cfg.catchUpCapDays ≤ 90) :
    (csrfField token :: configForm cfg).all Field.valid = true ↔ Filled cfg := by
  have hmaxPort : number? "65535".toList = some 65535 := by
    rw [toList_eq rfl]
    rfl
  have hmaxCap : number? "90".toList = some 90 := by
    rw [toList_eq rfl]
    rfl
  have hcsrf : (csrfField token).valid = true := rfl
  have hpassword (name : String) : (passwordField name).valid = true := rfl
  have hschedule : ({ textField "schedule_local" cfg.scheduleLocal with
      pattern := some "[0-2][0-9]:[0-5][0-9]" } : Field).valid = true ↔
      fullMatch "[0-2][0-9]:[0-5][0-9]".toList cfg.scheduleLocal.toList = true := by
    by_cases hempty : cfg.scheduleLocal = ""
    · rw [hempty, toList_eq rfl]
      exact Iff.rfl
    · simp [Field.valid, textField, hempty]
  simp only [configForm, List.all_cons, List.all_nil, Bool.and_eq_true, valid_textField, hcsrf,
    hpassword, valid_numberField _ hmaxPort hport, valid_numberField _ hmaxCap hcap, hschedule,
    fullMatch_schedule, true_and, and_true]
  constructor
  · rintro ⟨-, hurl, huser, htz, hhost, hdatabase, hmysqlUser, htime⟩
    exact ⟨hurl, huser, htz, hhost, hdatabase, hmysqlUser, htime⟩
  · rintro ⟨hurl, huser, htz, hhost, hdatabase, hmysqlUser, htime⟩
    exact ⟨hlabel, hurl, huser, htz, hhost, hdatabase, hmysqlUser, htime⟩

/-- The body that a config leads to. -/
def body (cfg : Config) : List (String × Json) :=
  [("site_label", .string cfg.siteLabel), ("blueweb_url", .string cfg.bluewebUrl),
    ("blueweb_user", .string cfg.bluewebUser), ("blueweb_password", .string ""),
    ("operator_timezone", .string cfg.operatorTimezone), ("mysql_host", .string cfg.mysqlHost),
    ("mysql_port", .number cfg.mysqlPort), ("mysql_database", .string cfg.mysqlDatabase),
    ("mysql_user", .string cfg.mysqlUser), ("mysql_password", .string ""),
    ("schedule_local", .string cfg.scheduleLocal),
    ("catch_up_cap_days", .number cfg.catchUpCapDays)]


section
variable {Tz Trigger Trigger' : Type} {L : Libraries Tz Trigger} {L' : Libraries Zone Trigger'}
  {A : Assets} {cfg : Config} {csrfToken : String}

theorem payloadFromForm_config (token : String) (hport : 0 ≤ cfg.mysqlPort)
    (hcap : 0 ≤ cfg.catchUpCapDays) :
    payloadFromForm (formData (csrfField token :: configForm cfg)) = body cfg := by
  have hportText : parseInt? cfg.mysqlPort.repr = some cfg.mysqlPort := parseInt?_toString hport
  have hcapText : parseInt? cfg.catchUpCapDays.repr = some cfg.catchUpCapDays :=
    parseInt?_toString hcap
  simp [payloadFromForm, formData, csrfField, configForm, textField, passwordField, numberField,
    numeric, body, hportText, hcapText]

/-- It passes validation again. -/
theorem payload?_body (lax : String → Option Int) (p : ConfigPayload L) (b m : String) :
    payload? L lax (body (p.toConfig b m)) =
      some { p with bluewebPassword := "", mysqlPassword := "" } := by
  have hvalid := And.intro p.siteLabel_length (And.intro p.mysqlPort_range
    (And.intro p.catchUpCapDays_range (And.intro p.schedule_format p.tz_known)))
  simp [payload?, body, strField?, intField?, List.lookup_cons, ConfigPayload.toConfig, hvalid]

/-- Blank passwords keep the stored ones. -/
theorem asks_blank (p : ConfigPayload L) {b m : String} (hb : b ≠ "") (hm : m ≠ "") :
    @Asks _ _ L { p with bluewebPassword := "", mysqlPassword := "" } (some (p.toConfig b m))
      (p.toConfig b m) :=
  ⟨rfl, rfl, rfl, rfl, rfl, rfl, rfl, rfl, rfl, rfl, ⟨fun h => (h rfl).elim, fun _ => rfl, hb⟩,
    ⟨fun h => (h rfl).elim, fun _ => rfl, hm⟩⟩

/-- What an untouched form comes to: the config it was made from, or nothing. -/
theorem submitted_config (hA : A.Closed) (now : Int) (lax : String → Option Int)
    (hline : OneLine cfg) (hmade : ∃ (p : ConfigPayload L) (existing : Option Config),
      Asks p existing cfg) :
    (Filled cfg ∧ ∃ p, submitted L lax ((Page.config (some cfg) csrfToken).html L' A now) = some p ∧
      Asks p (some cfg) cfg) ∨
    ¬ Filled cfg ∧ submitted L lax ((Page.config (some cfg) csrfToken).html L' A now) = none := by
  obtain ⟨p, existing, hasks⟩ := hmade
  have hb := hasks.bluewebPassword.ne_empty
  have hm := hasks.mysqlPassword.ne_empty
  obtain ⟨b, m, rfl⟩ : ∃ b m, cfg = p.toConfig b m :=
    ⟨_, _, newConfig_ok (newConfig_eq_ok.mpr hasks)⟩
  have hport := p.mysqlPort_range
  have hcap := p.catchUpCapDays_range
  have hlabel : (p.toConfig b m).siteLabel ≠ "" := by
    intro hempty
    have hlength := p.siteLabel_length.1
    rw [show p.siteLabel = "" from hempty] at hlength
    cases hlength
  have hport0 : 0 ≤ (p.toConfig b m).mysqlPort := by simp only [ConfigPayload.toConfig]; omega
  have hcap0 : 0 ≤ (p.toConfig b m).catchUpCapDays := by simp only [ConfigPayload.toConfig]; omega
  obtain ⟨token, hfields⟩ := @fields_config A _ csrfToken _ L' hA now hline hport0 hcap0
    (orText_schedule p.schedule_format)
  have hvalid := @valid_configForm token _ hlabel hport hcap
  by_cases hfilled : Filled (p.toConfig b m)
  · refine .inl ⟨hfilled, _, ?_, asks_blank p hb hm⟩
    simp only [submitted, hfields, if_pos (hvalid.mpr hfilled),
      payloadFromForm_config token hport0 hcap0, payload?_body]
  · refine .inr ⟨hfilled, ?_⟩
    simp only [submitted, hfields, if_neg (mt hvalid.mp hfilled)]

end

/-- The form of a stored config, saved as it came. The browser posts it exactly when the
required inputs are filled in and the schedule has the digits of its pattern; then it passes
validation, and whatever the request meets, the config in the file stays the one it was. When
the probes succeed and the save works, it is saved. -/
theorem untouched_form {Key IV Token Tz Trigger Trigger' : Type} (L : Libraries Tz Trigger)
    (L' : Libraries Zone Trigger') (F : Cipher Key IV String Token) (ks : Keyring Key)
    (A : Assets) (hA : A.Closed) (lax : String → Option Int) (now : Int) (csrfToken : String)
    (app : App Token Tz Trigger) (cfg : Config)
    (hload : load F ks none app.table = .ok (some cfg)) (hline : OneLine cfg)
    (hmade : ∃ (p : ConfigPayload L) (existing : Option Config), Asks p existing cfg) :
    ∃ page, getConfig (load F ks none app.table) (.ok csrfToken) = .ok page ∧
      ((∃ p, submitted L lax (page.html L' A now) = some p) ↔ Filled cfg) ∧
      ∀ p, submitted L lax (page.html L' A now) = some p → ∀ w : World IV,
        load F ks none (postConfig L F ks w p app).2.table = .ok (some cfg) ∧
        ∀ http mysql login, w.load = none → w.save.Clear →
          Succeed w.probes cfg http mysql login →
            (postConfig L F ks w p app).1 = .ok (.saved (successReport http mysql login)
              (bootstrapAuditTable L.repr w.connect cfg)) := by
  refine ⟨.config (some cfg) csrfToken, by rw [hload]; rfl, ?_⟩
  rcases @submitted_config _ _ _ L L' A cfg csrfToken hA now lax hline hmade with
    ⟨hfilled, p, hp, hasks⟩ | ⟨hfilled, hnone⟩
  · refine ⟨iff_of_true ⟨p, hp⟩ hfilled, fun p' hp' w => ?_⟩
    obtain rfl := Option.some.inj (hp.symm.trans hp')
    constructor
    · by_cases hcommits : ∃ cfg' http mysql login, Commits F ks w p app.table cfg' http mysql login
      · obtain ⟨cfg', http, mysql, login, hcommits⟩ := hcommits
        -- what it read is what is stored
        have hread : load F ks w.load app.table = .ok (some cfg) := by
          obtain ⟨existing, hexisting, -⟩ := hcommits.1
          cases hfault : w.load with
          | none => exact hload
          | some e =>
            rw [hfault] at hexisting
            cases hexisting
        obtain rfl := hcommits.config hread (newConfig_eq_ok.mpr hasks)
        exact (postConfig_of_commits hcommits).1
      · rw [postConfig_unchanged fun cfg' http mysql login h => hcommits ⟨cfg', http, mysql, login, h⟩]
        exact hload
    · intro http mysql login hwload hsave hsucceed
      have hread : load F ks w.load app.table = .ok (some cfg) := by rw [hwload]; exact hload
      exact (postConfig_of_commits ⟨⟨_, hread, hasks⟩, hsucceed, hsave⟩).2
  · refine ⟨iff_of_false (fun ⟨p, hp⟩ => ?_) hfilled, fun p hp => ?_⟩ <;>
    · rw [hnone] at hp
      cases hp

/-- A label that HTML has to write with references. -/
def quotedLabel : Config := { DailyFire.lateSchedule with siteLabel := "'R&D' & \"Sons\" <HQ>" }

theorem quotedLabel_oneLine : OneLine quotedLabel := by
  have hplain {s : String} {l : List Char} (hs : s = String.ofList l)
      (hl : (l.all fun c => c != '\n' && c != '\r' && c != '\x00') = true) : Plain s := by
    intro c hc
    rw [toList_eq hs] at hc
    simpa [and_assoc] using List.all_eq_true.mp hl c hc
  exact ⟨hplain rfl rfl, hplain rfl rfl, hplain rfl rfl, hplain rfl rfl, hplain rfl rfl,
    hplain rfl rfl, hplain rfl rfl, hplain rfl rfl⟩

theorem quotedLabel_filled : Filled quotedLabel :=
  ⟨by decide, by decide, by decide, by decide, by decide, by decide,
    '2', '3', '3', '0', toList_eq rfl, by decide, by decide, by decide, by decide⟩

/-- The request it was saved with. -/
def quotedPayload : ConfigPayload DailyFire.newYorkLibraries :=
  { DailyJob.latePayload with siteLabel := quotedLabel.siteLabel, siteLabel_length := by decide }

/-- The file that holds it. -/
def quotedFile : App (String × Unit × String) Zone (Int × Int × Zone) :=
  ⟨single (rowUnder Cipher.boxed "key" () () quotedLabel) rfl, none⟩

theorem untouched_form_quoted : ∃ page p,
    getConfig (load Cipher.boxed ⟨"key", []⟩ none quotedFile.table) (.ok "token") = .ok page ∧
      submitted DailyFire.newYorkLibraries String.toInt?
        (page.html DailyFire.newYorkLibraries someAssets 0) = some p ∧
      ∀ w : World Unit, load Cipher.boxed ⟨"key", []⟩ none
        (postConfig DailyFire.newYorkLibraries Cipher.boxed ⟨"key", []⟩ w p quotedFile).2.table =
          .ok (some quotedLabel) := by
  have hload : load Cipher.boxed ⟨"key", []⟩ none quotedFile.table = .ok (some quotedLabel) :=
    load_stored (stores_single "key" () () quotedLabel) (Keyring.head_mem _)
  have hasks : Asks quotedPayload none quotedLabel := newConfig_eq_ok.mp rfl
  obtain ⟨page, hpage, hposted, hkept⟩ := untouched_form DailyFire.newYorkLibraries
    DailyFire.newYorkLibraries Cipher.boxed ⟨"key", []⟩ someAssets someAssets_closed String.toInt? 0
    "token" quotedFile quotedLabel hload quotedLabel_oneLine ⟨quotedPayload, none, hasks⟩
  obtain ⟨p, hp⟩ := hposted.mpr quotedLabel_filled
  exact ⟨page, p, hpage, hp, fun w => (hkept p hp w).1⟩

end Bluewave.ConfigForm
