import Mathlib.Data.List.DropRight
import Bluewave.ColumnDrift
import Bluewave.Lib.Result
import Bluewave.Lib.Transition

/-! `bootstrap` and `validate` on a database that several workers and the other owners of the
shared table use at once, one statement at a time. Of the DDL stand the columns and the
character set: no comparison reads the keys, the defaults and the expression of the generated
column. -/
namespace Bluewave.Bootstrap
open Lib Bluewave.Exceptions Bluewave.Auth Bluewave.Numerals Bluewave.Schema Bluewave.ColumnDrift

structure Column where
  name : String
  type : String
  notNull : Bool := false
  autoIncrement : Bool := false
  deriving DecidableEq

structure Table where
  columns : List Column
  charset : String
  collation : String
  deriving DecidableEq

def runsTable : String := "z_audit_logs_efk_runs"

/-- `DDL_AUDIT_LOGS`. -/
def ddlAuditLogs : Table where
  columns :=
    [{ name := "id", type := "BIGINT UNSIGNED", notNull := true, autoIncrement := true },
     { name := "timestamp", type := "DATETIME(3)", notNull := true },
     { name := "source", type := "VARCHAR(64)", notNull := true },
     { name := "operation", type := "VARCHAR(128)", notNull := true },
     { name := "instance", type := "VARCHAR(128)", notNull := true },
     { name := "user_name", type := "VARCHAR(256)" },
     { name := "user_id", type := "VARCHAR(64)" },
     { name := "extra_data", type := "JSON" },
     { name := "comments", type := "VARCHAR(1024)" },
     { name := "dedup_hash", type := "CHAR(64)", notNull := true },
     { name := "ingested_at", type := "DATETIME(3)", notNull := true },
     { name := "ingest_run_id", type := "BIGINT UNSIGNED" }]
  charset := "utf8mb4"
  collation := "utf8mb4_unicode_ci"

/-- `DDL_AUDIT_LOGS_RUNS`. -/
def ddlAuditLogsRuns : Table where
  columns :=
    [{ name := "id", type := "BIGINT UNSIGNED", notNull := true, autoIncrement := true },
     { name := "source", type := "VARCHAR(64)", notNull := true },
     { name := "report_date", type := "DATE", notNull := true },
     { name := "started_at", type := "DATETIME(3)", notNull := true },
     { name := "finished_at", type := "DATETIME(3)" },
     { name := "status", type := "VARCHAR(32)", notNull := true },
     { name := "rows_in_csv", type := "INT UNSIGNED" },
     { name := "rows_inserted", type := "INT UNSIGNED" },
     { name := "rows_duplicate", type := "INT UNSIGNED" },
     { name := "manual", type := "TINYINT(1)", notNull := true },
     { name := "error_excerpt", type := "VARCHAR(2000)" },
     { name := "screenshot_path", type := "VARCHAR(512)" },
     { name := "ok_scheduled_date", type := "DATE" }]
  charset := "utf8mb4"
  collation := "utf8mb4_unicode_ci"

/-! ## The server -/

/-- A text column takes the character set of its table. -/
def Column.isText (c : Column) : Bool :=
  "VARCHAR(".toList <+: c.type.toList ∨ "CHAR(".toList <+: c.type.toList

/-- How a server lists tables in `information_schema`. -/
structure Listing where
  column : Table → Column → ColumnRow
  table : Table → TableRow

/-- A declared type is listed as it stands, with a display width behind an integer base, or as
`longtext` for JSON; in either letter case. -/
def TypeListed (declared actual : String) : Prop :=
  lower actual = lower declared ∨ Widened (lower actual).toList (lower declared).toList ∨
    lower declared = "json" ∧ lower actual = "longtext"

/-- What MySQL and MariaDB say of the table as declared. -/
structure Listing.Documented (l : Listing) : Prop where
  name : ∀ c ∈ ddlAuditLogs.columns, (l.column ddlAuditLogs c).columnName = c.name
  type : ∀ c ∈ ddlAuditLogs.columns, TypeListed c.type (l.column ddlAuditLogs c).columnType
  nullable : ∀ c ∈ ddlAuditLogs.columns,
    (l.column ddlAuditLogs c).isNullable = if c.notNull then "NO" else "YES"
  charset : ∀ c ∈ ddlAuditLogs.columns, c.isText = true →
    (l.column ddlAuditLogs c).characterSetName = some ddlAuditLogs.charset ∧
      (l.column ddlAuditLogs c).collationName = some ddlAuditLogs.collation
  extra : ∀ c ∈ ddlAuditLogs.columns, c.autoIncrement = true →
    (l.column ddlAuditLogs c).extra = some "auto_increment"
  table : l.table ddlAuditLogs = ⟨some ddlAuditLogs.collation, some ddlAuditLogs.charset⟩

/-- The tables of the database by name. -/
abbrev Tables := String → Option Table

/-- `CREATE TABLE IF NOT EXISTS`. -/
def create (tables : Tables) (name : String) (t : Table) : Tables :=
  fun n => if n = name then some ((tables name).getD t) else tables n

def Listing.columns (l : Listing) : Option Table → List ColumnRow
  | some t => t.columns.map (l.column t)
  | none => []

/-! ## The calls -/

/-- Where a call of `bootstrap_and_validate` stands. -/
inductive Phase where
  | called
  | auditCreated
  | runsCreated
  | bootstrapped
  | columnsFetched (rows : List ColumnRow)
  | returned (result : Except Exn BootstrapResult)

structure State where
  tables : Tables
  calls : Nat → Phase

def initial (tables : Tables) : State := ⟨tables, fun _ => .called⟩

/-- The next statement of a call, and what someone else makes of a table. A statement may
have taken effect although its answer is an error. -/
inductive Action where
  | statement (i : Nat) (fault : Option DbFailure) (landed : Bool)
  | foreign (name : String) (definition : Option Table)

def State.move (s : State) (i : Nat) (p : Phase) : State :=
  { s with calls := fun j => if j = i then p else s.calls j }

def State.execute (s : State) (takesEffect : Bool) (name : String) (t : Table) : State :=
  { s with tables := if takesEffect then create s.tables name t else s.tables }

section
variable (repr : String → String) (l : Listing) (database : String)

/-- Behind a statement of `bootstrap`. -/
def proceed (fault : Option DbFailure) (p : Phase) : Phase :=
  fault.elim p fun f =>
    .returned (bootstrapAndValidate repr (.error f) ⟨fun _ => .ok [], fun _ => .ok none⟩ database)

/-- Behind the queries of `validate`. -/
def answered (columns : Except DbFailure (List ColumnRow))
    (table : Except DbFailure (Option TableRow)) : Phase :=
  .returned (bootstrapAndValidate repr (.ok ()) ⟨fun _ => columns, fun _ => table⟩ database)

def step (s : State) : Action → Option State
  | .statement i fault landed =>
    match s.calls i with
    | .called =>
      some ((s.execute (fault.isNone || landed) auditTable ddlAuditLogs).move i
        (proceed repr database fault .auditCreated))
    | .auditCreated =>
      some ((s.execute (fault.isNone || landed) runsTable ddlAuditLogsRuns).move i
        (proceed repr database fault .runsCreated))
    | .runsCreated => some (s.move i (proceed repr database fault .bootstrapped))
    | .bootstrapped =>
      some (s.move i (fault.elim (.columnsFetched (l.columns (s.tables auditTable)))
        fun f => answered repr database (.error f) (.ok none)))
    | .columnsFetched rows =>
      some (s.move i (answered repr database (.ok rows)
        (fault.elim (.ok ((s.tables auditTable).map l.table)) .error)))
    | .returned _ => none
  | .foreign name definition =>
    some { s with tables := fun n => if n = name then definition else s.tables n }

end

/-- No one else touches the shared table. -/
def Ours (_ : State) (a : Action) : Prop := ∀ definition, a ≠ .foreign auditTable definition

/-! ## What a statement does -/

/-- What a call has in hand, with the shared table `t`. -/
def Holds (repr : String → String) (l : Listing) (database : String) (tables : Tables) (t : Table) :
    Phase → Prop
  | .called => True
  | .auditCreated | .runsCreated | .bootstrapped => tables auditTable = some t
  | .columnsFetched rows => tables auditTable = some t ∧ rows = l.columns (some t)
  | .returned result => ∀ r check, result = .ok r → r.schemaCheck = some check →
      check.error = none → tables auditTable = some t ∧
        result = bootstrapAndValidate repr (.ok ())
          ⟨fun _ => .ok (l.columns (some t)), fun _ => .ok (some (l.table t))⟩ database

/-- The shared table is as it was, or as the workers create it where there was none. -/
structure Inv (repr : String → String) (l : Listing) (database : String) (tables : Tables)
    (s : State) : Prop where
  table : s.tables auditTable = tables auditTable ∨
    tables auditTable = none ∧ s.tables auditTable = some ddlAuditLogs
  calls : ∀ i, Holds repr l database s.tables ((tables auditTable).getD ddlAuditLogs) (s.calls i)

section
variable {repr : String → String} {l : Listing} {database : String} {tables : Tables}
  {s s' : State} {t : Table} {p : Phase} {i : Nat}

/-- A statement that creates takes nothing away. -/
theorem create_of_some {name other : String} {u : Table} (h : tables name = some t) :
    create tables other u name = some t := by
  unfold create
  split
  · rename_i hsame
    rw [← hsame, h]
    rfl
  · exact h

theorem State.execute_keeps (takesEffect : Bool) {name other : String} {u : Table}
    (h : s.tables name = some t) : (s.execute takesEffect other u).tables name = some t := by
  unfold State.execute
  cases takesEffect with
  | true => exact create_of_some h
  | false => exact h

/-- Whatever a call holds stays true while the shared table is there. -/
theorem Holds.mono {tables' : Tables} (h : Holds repr l database tables t p)
    (hkeep : tables auditTable = some t → tables' auditTable = some t) :
    Holds repr l database tables' t p := by
  cases p with
  | called => trivial
  | auditCreated | runsCreated | bootstrapped => exact hkeep h
  | columnsFetched rows => exact ⟨hkeep h.1, h.2⟩
  | returned result =>
    intro r check hr hcheck herror
    obtain ⟨htable, hresult⟩ := h r check hr hcheck herror
    exact ⟨hkeep htable, hresult⟩

theorem Inv.execute (h : Inv repr l database tables s) (takesEffect : Bool) {name : String}
    {u : Table} (hu : name = auditTable → u = ddlAuditLogs) :
    Inv repr l database tables (s.execute takesEffect name u) := by
  refine ⟨?_, fun i => (h.calls i).mono (State.execute_keeps takesEffect)⟩
  unfold State.execute
  cases takesEffect with
  | false => exact h.table
  | true =>
    show create s.tables name u auditTable = _ ∨ _ ∧ create s.tables name u auditTable = _
    unfold create
    split
    · rename_i hname
      rw [hu hname.symm, ← hname]
      rcases h.table with hsame | ⟨hnone, hcreated⟩
      · rw [hsame]
        cases hold : tables auditTable with
        | none => exact .inr ⟨rfl, rfl⟩
        | some t => exact .inl rfl
      · rw [hcreated]
        exact .inr ⟨hnone, rfl⟩
    · exact h.table

/-- Behind the first statement the shared table is there. -/
theorem Inv.execute_audit (h : Inv repr l database tables s) :
    (s.execute true auditTable ddlAuditLogs).tables auditTable =
      some ((tables auditTable).getD ddlAuditLogs) := by
  have hcreate : (s.execute true auditTable ddlAuditLogs).tables auditTable =
      some ((s.tables auditTable).getD ddlAuditLogs) := by
    show create s.tables auditTable ddlAuditLogs auditTable = _
    rw [create, if_pos rfl]
  rw [hcreate]
  rcases h.table with hsame | ⟨hnone, hcreated⟩
  · rw [hsame]
  · rw [hnone, hcreated]
    rfl

theorem Inv.move (h : Inv repr l database tables s)
    (hp : Holds repr l database s.tables ((tables auditTable).getD ddlAuditLogs) p) :
    Inv repr l database tables (s.move i p) := by
  refine ⟨h.table, fun j => ?_⟩
  show Holds repr l database s.tables _ (if j = i then p else s.calls j)
  split
  · exact hp
  · exact h.calls j

/-- A call whose `bootstrap` fails returns without a check. -/
theorem schemaCheck_refused {f : DbFailure} {is : InformationSchema} {r : BootstrapResult}
    (h : bootstrapAndValidate repr (.error f) is database = .ok r) : r.schemaCheck = none := by
  cases f with
  | operational errno text | pymysql text =>
    cases h
    rfl
  | other e => cases h

/-- A check that carries no error comes from two answered queries. -/
theorem error_validate {is : InformationSchema} {check : SchemaCheck}
    (h : validate repr is database = .ok check) (herror : check.error = none) :
    ∃ rows row, is.columns database = .ok rows ∧ is.tables database = .ok row := by
  unfold validate at h
  cases hcolumns : is.columns database with
  | error f =>
    rw [hcolumns] at h
    cases f with
    | operational errno text | pymysql text =>
      cases h
      cases herror
    | other e => cases h
  | ok rows =>
    cases htables : is.tables database with
    | error f =>
      rw [hcolumns, htables] at h
      cases f with
      | operational errno text | pymysql text =>
        cases h
        cases herror
      | other e => cases h
    | ok row => exact ⟨rows, row, rfl, rfl⟩

/-- The check in a result is what `validate` answered. -/
theorem validate_of_check {is : InformationSchema} {r : BootstrapResult} {check : SchemaCheck}
    (h : bootstrapAndValidate repr (.ok ()) is database = .ok r)
    (hcheck : r.schemaCheck = some check) :
    validate repr is database = .ok check ∧ r.ok = check.ok := by
  obtain ⟨answer, hvalidate, h⟩ := Result.bind_eq_ok.mp h
  split at h
  · rename_i hok
    cases h
    cases hcheck
    exact ⟨hvalidate, hok.symm⟩
  · rename_i hok
    cases h
    cases hcheck
    exact ⟨hvalidate, (Bool.eq_false_iff.mpr hok).symm⟩

/-- A call goes on behind a statement that succeeded, and has no check otherwise. -/
theorem holds_proceed {fault : Option DbFailure}
    (h : fault = none → Holds repr l database tables t p) :
    Holds repr l database tables t (proceed repr database fault p) := by
  cases fault with
  | none => exact h rfl
  | some f =>
    intro r check hr hcheck
    rw [schemaCheck_refused hr] at hcheck
    cases hcheck

/-- The queries of a call: where both are answered, by what `t` is listed as. -/
theorem holds_answered {columns : Except DbFailure (List ColumnRow)}
    {table : Except DbFailure (Option TableRow)} (htable : tables auditTable = some t)
    (hanswers : ∀ rows row, columns = .ok rows → table = .ok row →
      rows = l.columns (some t) ∧ row = some (l.table t)) :
    Holds repr l database tables t (answered repr database columns table) := by
  intro r check hr hcheck herror
  obtain ⟨rows, row, hrows, htab⟩ := error_validate (validate_of_check hr hcheck).1 herror
  have hrows' : columns = .ok rows := hrows
  have htab' : table = .ok row := htab
  obtain ⟨rfl, rfl⟩ := hanswers rows row hrows' htab'
  rw [hrows', htab']
  exact ⟨htable, rfl⟩

theorem Inv.step (h : Inv repr l database tables s) {a : Action} (hours : Ours s a)
    (hs : step repr l database s a = some s') : Inv repr l database tables s' := by
  cases a with
  | foreign name definition =>
    cases hs
    have hne : auditTable ≠ name := fun hname => hours definition (hname ▸ rfl)
    have hsame : (if auditTable = name then definition else s.tables auditTable) =
        s.tables auditTable := if_neg hne
    refine ⟨?_, fun i => (h.calls i).mono fun ht => hsame.trans ht⟩
    rcases h.table with hold | ⟨hnone, hcreated⟩
    · exact .inl (hsame.trans hold)
    · exact .inr ⟨hnone, hsame.trans hcreated⟩
  | statement i fault landed =>
    have hcall := h.calls i
    simp only [Bootstrap.step] at hs
    split at hs
    · cases hs
      refine (h.execute _ fun _ => rfl).move (holds_proceed fun hfault => ?_)
      rw [hfault]
      exact h.execute_audit
    · rename_i hphase
      cases hs
      rw [hphase] at hcall
      refine (h.execute _ fun hname => ?_).move (holds_proceed fun _ => ?_)
      · exact absurd hname (by decide)
      · exact State.execute_keeps _ hcall
    · rename_i hphase
      cases hs
      rw [hphase] at hcall
      exact h.move (holds_proceed fun _ => hcall)
    · rename_i hphase
      cases hs
      rw [hphase] at hcall
      cases fault with
      | none => exact h.move ⟨hcall, congrArg l.columns hcall⟩
      | some f =>
        refine h.move (holds_answered hcall fun rows row hrows => ?_)
        cases hrows
    · rename_i rows hphase
      cases hs
      rw [hphase] at hcall
      obtain ⟨htable, hrows⟩ := hcall
      refine h.move (holds_answered htable fun rows' row hrows' hrow => ?_)
      cases hrows'
      refine ⟨hrows, ?_⟩
      cases fault with
      | none =>
        cases hrow
        rw [htable]
        rfl
      | some f => cases hrow
    · cases hs

/-! ## The verdict -/

/-- What there is to report of a table. -/
def diffs (repr : String → String) (l : Listing) (t : Table) : List String :=
  validateTableCharset repr (some (l.table t)) ++ validateColumns repr (l.columns (some t))

theorem verdict_diffs {r : BootstrapResult} {check : SchemaCheck}
    (h : bootstrapAndValidate repr (.ok ())
      ⟨fun _ => .ok (l.columns (some t)), fun _ => .ok (some (l.table t))⟩ database = .ok r)
    (hcheck : r.schemaCheck = some check) :
    check.diffs = diffs repr l t ∧ r.ok = (diffs repr l t).isEmpty := by
  obtain ⟨hvalidate, hok⟩ := validate_of_check h hcheck
  have hdiffs : diffs repr l t = validateTableCharset repr (some (l.table t)) ++
      if some (l.table t) = none then [] else validateColumns repr (l.columns (some t)) := by
    rw [if_neg (by simp)]
    rfl
  rw [hok, hdiffs]
  cases hvalidate
  exact ⟨rfl, rfl⟩

/-- A `bigint unsigned` with a width has no blanks around it. -/
theorem strip_widened {actual : String} {digits : List Char}
    (h : actual.toList = "bigint(".toList ++ (digits ++ ") unsigned".toList)) :
    strip actual = actual := by
  have hfront : actual.toList.dropWhile isSpace = actual.toList := by
    rw [h]
    exact List.dropWhile_cons_of_neg (by decide)
  have hback : actual.toList.rdropWhile isSpace = actual.toList := by
    have hlast : actual.toList = "bigint(".toList ++ (digits ++ ") unsigne".toList) ++ ['d'] := by
      rw [h]
      simp
    rw [hlast]
    exact List.rdropWhile_concat_neg _ _ _ (by decide)
  show String.ofList ((actual.toList.dropWhile isSpace).rdropWhile isSpace) = actual
  rw [hfront, hback, String.ofList_toList]

/-- A listed type agrees with the expectation that its declaration meets. -/
theorem TypeListed.agrees {c : String × ColumnSpec} (hc : c ∈ expectedColumns)
    {declared actual : String} (hdeclared : lower declared = c.2.columnType)
    (h : TypeListed declared actual) : TypeAgrees c.2.columnType actual := by
  have hplain := expectedColumns_plain c hc
  have hlower : lower c.2.columnType = c.2.columnType := by
    rw [← hdeclared, lower_lower]
  have hstrip : strip c.2.columnType = c.2.columnType := by
    have hexpected := hplain.1
    rw [hlower] at hexpected
    exact hexpected
  rcases h with hsame | hwidened | ⟨hjson, hlong⟩
  · left
    rw [hsame, hdeclared, hstrip]
  · right
    left
    rw [hdeclared] at hwidened
    have hwidth := hwidened
    obtain ⟨base, hbase, cs, rest, ⟨digits, -, -, rfl⟩, hs, he⟩ := hwidened
    have honly : ∀ c ∈ expectedColumns, ∀ base ∈ intTypesWithWidth,
        base.toList <+: c.2.columnType.toList → base = "bigint" ∧
          c.2.columnType = "bigint unsigned" := by decide
    obtain ⟨rfl, hexpected⟩ := honly c hc base hbase ⟨rest, he.symm⟩
    rw [hexpected] at he
    have hrest : " unsigned".toList = rest :=
      @List.append_cancel_left _ "bigint".toList _ _ (by rw [← he]; rfl)
    have hlist : (lower actual).toList = "bigint(".toList ++ (digits ++ ") unsigned".toList) := by
      rw [hs, ← hrest]
      simp
    rw [strip_widened hlist]
    exact hwidth
  · right
    right
    rw [← hdeclared, hjson, hlong]
    exact ⟨rfl, by decide⟩

/-- The declaration of a column and the expectation on it. -/
theorem declared_expected : ∀ d ∈ ddlAuditLogs.columns, ∀ c ∈ expectedColumns, d.name = c.1 →
    lower d.type = c.2.columnType ∧ c.2.isNullable = (if d.notNull then "NO" else "YES") ∧
      (c.2.hasCharset = true → d.isText = true) ∧
      (c.2.extra = "" ∨ c.2.extra = "auto_increment" ∧ d.autoIncrement = true) := by
  decide

theorem Listing.Documented.conforms (hl : l.Documented) :
    Conforms (l.columns (some ddlAuditLogs)) ∧
      ((l.columns (some ddlAuditLogs)).map ColumnRow.columnName).Nodup := by
  have hnames : (l.columns (some ddlAuditLogs)).map ColumnRow.columnName =
      expectedColumns.map Prod.fst := by
    show (ddlAuditLogs.columns.map _).map _ = _
    rw [List.map_map]
    exact (List.map_congr_left hl.name).trans rfl
  refine ⟨⟨fun name => by rw [hnames], fun c hc r hr hname => ?_⟩, hnames ▸ by decide⟩
  obtain ⟨d, hd, rfl⟩ := List.mem_map.mp hr
  rw [hl.name d hd] at hname
  obtain ⟨htype, hnull, htext, hextra⟩ := declared_expected d hd c hc hname
  refine ⟨(hl.type d hd).agrees hc htype, (hl.nullable d hd).trans hnull.symm,
    fun hcharset => ?_, ?_⟩
  · exact hl.charset d hd (htext hcharset)
  · rcases hextra with hnone | ⟨hauto, hdeclared⟩
    · rw [hnone]
      exact List.nil_infix
    · rw [hauto, hl.extra d hd hdeclared]
      show "auto_increment".toList <:+: (lower "auto_increment").toList
      decide

/-- The table as the workers create it has nothing to report. -/
theorem Listing.Documented.nothing_to_report (hl : l.Documented) :
    diffs repr l ddlAuditLogs = [] := by
  obtain ⟨hconforms, hnodup⟩ := hl.conforms
  refine List.append_eq_nil_iff.mpr ⟨?_, (validateColumns_eq_nil hnodup).mpr hconforms⟩
  rw [hl.table]
  exact charsetDiffs_eq_nil.mpr ⟨rfl, rfl⟩

end

/-- While no one else touches the shared table, any number of workers may call
`bootstrap_and_validate`, their statements in any order and failing anywhere: the table stays
what it was, or is created where there was none; no table is ever altered or dropped by them;
and every check they come back with tells of that one table. Where they created it, it has
nothing to report, on every server that lists it as documented. -/
theorem verdict_of_table (repr : String → String) (l : Listing) (database : String)
    (tables : Tables) (s : State)
    (h : Reachable (· = initial tables) (step repr l database) Ours s) :
    (s.tables auditTable = tables auditTable ∨
        tables auditTable = none ∧ s.tables auditTable = some ddlAuditLogs) ∧
      (∀ i fault landed s', step repr l database s (.statement i fault landed) = some s' →
        ∀ name t, s.tables name = some t → s'.tables name = some t) ∧
      ∀ i r check, s.calls i = .returned (.ok r) → r.schemaCheck = some check →
        check.error = none →
        check.diffs = diffs repr l ((tables auditTable).getD ddlAuditLogs) ∧
          r.ok = (diffs repr l ((tables auditTable).getD ddlAuditLogs)).isEmpty ∧
          (l.Documented → tables auditTable = none → r.ok = true) := by
  have hinv : Inv repr l database tables s :=
    h.invariant
      (fun _ hs => hs ▸ ⟨.inl rfl, fun _ => trivial⟩)
      fun _ _ _ _ hinv hours hs => hinv.step hours hs
  refine ⟨hinv.table, ?_, fun i r check hcall hcheck herror => ?_⟩
  · intro i fault landed s' hs name t ht
    simp only [step] at hs
    split at hs
    · cases hs
      exact State.execute_keeps _ ht
    · cases hs
      exact State.execute_keeps _ ht
    · cases hs
      exact ht
    · cases hs
      exact ht
    · cases hs
      exact ht
    · cases hs
  · have hholds := hinv.calls i
    rw [hcall] at hholds
    obtain ⟨-, hresult⟩ := hholds r check rfl hcheck herror
    obtain ⟨hdiffs, hok⟩ := verdict_diffs hresult.symm hcheck
    refine ⟨hdiffs, hok, fun hl hnone => ?_⟩
    rw [hok, hnone]
    show (diffs repr l ddlAuditLogs).isEmpty = true
    rw [hl.nothing_to_report]
    rfl

/-- Answered queries make a check without error. -/
theorem check_answered (repr : String → String) (rows : List ColumnRow) (row : Option TableRow)
    (database : String) : ∃ r check,
      bootstrapAndValidate repr (.ok ()) ⟨fun _ => .ok rows, fun _ => .ok row⟩ database = .ok r ∧
        r.schemaCheck = some check ∧ check.error = none := by
  obtain ⟨check, hvalidate, herror⟩ : ∃ check,
      validate repr ⟨fun _ => .ok rows, fun _ => .ok row⟩ database = .ok check ∧
        check.error = none := ⟨_, rfl, rfl⟩
  have hresult : bootstrapAndValidate repr (.ok ()) ⟨fun _ => .ok rows, fun _ => .ok row⟩
      database = if check.ok then .ok { ok := true, schemaCheck := some check }
        else .ok { ok := false, errorKind := some "schema_drift", schemaCheck := some check } := by
    simp only [bootstrapAndValidate, hvalidate]
    rfl
  rw [hresult]
  split
  · exact ⟨_, check, rfl, rfl, herror⟩
  · exact ⟨_, check, rfl, rfl, herror⟩

/-- A MariaDB: widths behind integer types, `longtext` for JSON. -/
def mariadb : Listing where
  column t c :=
    { columnName := c.name
      columnType :=
        if lower c.type = "bigint unsigned" then "bigint(20) unsigned"
        else if lower c.type = "json" then "longtext"
        else lower c.type
      isNullable := if c.notNull then "NO" else "YES"
      characterSetName := if c.isText then some t.charset else none
      collationName := if c.isText then some t.collation else none
      extra := some (if c.autoIncrement then "auto_increment" else "") }
  table t := ⟨some t.collation, some t.charset⟩

theorem mariadb_documented : mariadb.Documented where
  name _ _ := rfl
  type c _ := by
    show TypeListed c.type (if lower c.type = "bigint unsigned" then _ else _)
    split
    · rename_i hbigint
      have hdigits : ∀ d ∈ ['2', '0'], (decimal? d).isSome = true := by
        intro d hd
        rcases List.mem_pair.mp hd with rfl | rfl
        · decide
        · decide
      right
      left
      rw [hbigint]
      exact ⟨"bigint", by simp [intTypesWithWidth], _, _,
        ⟨['2', '0'], List.cons_ne_nil _ _, hdigits, rfl⟩, rfl, rfl⟩
    · split
      · rename_i hjson
        exact .inr (.inr ⟨hjson, by decide⟩)
      · exact .inl (lower_lower _)
  nullable _ _ := rfl
  charset c _ htext := by
    show (if c.isText then _ else _) = _ ∧ (if c.isText then _ else _) = _
    rw [if_pos htext, if_pos htext]
    exact ⟨rfl, rfl⟩
  extra c _ hauto := by
    show some (if c.autoIncrement then _ else _) = _
    rw [if_pos hauto]
  table := rfl

/-- One call on an empty database. -/
theorem verdict_of_table_created :
    ∃ s, runSchedule (step id mariadb "audit") (initial fun _ => none)
        (List.replicate 5 (.statement 0 none false)) = some s ∧
      s.tables auditTable = some ddlAuditLogs ∧
      ∃ r, s.calls 0 = .returned (.ok r) ∧ r.ok = true := by
  obtain ⟨s, hrun, htable, hcall⟩ :
      ∃ s, runSchedule (step id mariadb "audit") (initial fun _ => none)
          (List.replicate 5 (.statement 0 none false)) = some s ∧
        s.tables auditTable = some ddlAuditLogs ∧
        s.calls 0 = answered id "audit" (.ok (mariadb.columns (some ddlAuditLogs)))
          (.ok (some (mariadb.table ddlAuditLogs))) := ⟨_, rfl, rfl, rfl⟩
  have hreached : Reachable (· = initial fun _ => none) (step id mariadb "audit") Ours s :=
    Reachable.schedule_of (.start rfl) (fun a ha _ definition hforeign => by
      rw [List.eq_of_mem_replicate ha] at hforeign
      cases hforeign) hrun
  obtain ⟨r, check, hr, hcheck, herror⟩ := check_answered id (mariadb.columns (some ddlAuditLogs))
    (some (mariadb.table ddlAuditLogs)) "audit"
  have hreturned : s.calls 0 = .returned (.ok r) := hcall.trans (congrArg Phase.returned hr)
  obtain ⟨-, -, hverdict⟩ := verdict_of_table id mariadb "audit" _ s hreached
  exact ⟨s, hrun, htable, r, hreturned,
    (hverdict 0 r check hreturned hcheck herror).2.2 mariadb_documented rfl⟩

end Bluewave.Bootstrap
