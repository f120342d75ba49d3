import Mathlib.Data.Char
import Mathlib.Data.List.Dedup
import Mathlib.Data.List.Lex
import Mathlib.Data.List.Sort
import Bluewave.Exceptions
import Bluewave.Numerals

/-! `schema.py`: what `information_schema` says of `z_audit_logs_efk`, compared
with the expected shape, and the two operations the worker performs on a target
database. `repr` stands for Python's, in the texts of the diffs. -/
namespace Bluewave.Schema
open Bluewave.Exceptions Bluewave.Auth Bluewave.Numerals

def auditTable : String := "z_audit_logs_efk"
def expectedCharset : String := "utf8mb4"
def expectedCollation : String := "utf8mb4_unicode_ci"

/-- The expectations on one column. -/
structure ColumnSpec where
  columnType : String
  isNullable : String
  hasCharset : Bool := false
  extra : String := ""

/-- `EXPECTED_COLUMNS_AUDIT_LOGS`. -/
def expectedColumns : List (String × ColumnSpec) :=
  [("id", { columnType := "bigint unsigned", isNullable := "NO", extra := "auto_increment" }),
   ("timestamp", { columnType := "datetime(3)", isNullable := "NO" }),
   ("source", { columnType := "varchar(64)", isNullable := "NO", hasCharset := true }),
   ("operation", { columnType := "varchar(128)", isNullable := "NO", hasCharset := true }),
   ("instance", { columnType := "varchar(128)", isNullable := "NO", hasCharset := true }),
   ("user_name", { columnType := "varchar(256)", isNullable := "YES", hasCharset := true }),
   ("user_id", { columnType := "varchar(64)", isNullable := "YES", hasCharset := true }),
   ("extra_data", { columnType := "json", isNullable := "YES" }),
   ("comments", { columnType := "varchar(1024)", isNullable := "YES", hasCharset := true }),
   ("dedup_hash", { columnType := "char(64)", isNullable := "NO", hasCharset := true }),
   ("ingested_at", { columnType := "datetime(3)", isNullable := "NO" }),
   ("ingest_run_id", { columnType := "bigint unsigned", isNullable := "YES" })]

/-- A row of `information_schema.COLUMNS`. -/
structure ColumnRow where
  columnName : String
  columnType : String
  isNullable : String
  characterSetName : Option String
  collationName : Option String
  extra : Option String
  deriving DecidableEq

/-- The row of `information_schema.TABLES` with its collation's charset. -/
structure TableRow where
  tableCollation : Option String
  characterSetName : Option String
  deriving DecidableEq

/-- A failing statement: an error of `pymysql.err` with its number, or any other. -/
inductive DbFailure where
  | operational (errno : Option Int) (text : String)
  | pymysql (text : String)
  | other (e : Exn)

structure SchemaCheck where
  ok : Bool
  diffs : List String := []
  error : Option String := none

structure BootstrapResult where
  ok : Bool
  errorKind : Option String := none
  errorMessage : Option String := none
  schemaCheck : Option SchemaCheck := none

/-! ## Column types -/

/-- `_INT_TYPES_WITH_WIDTH`. -/
def intTypesWithWidth : List String :=
  ["tinyint", "smallint", "mediumint", "int", "integer", "bigint"]

/-- What follows `(digits)` at the start of `s`. -/
def afterWidth? : List Char → Option (List Char)
  | '(' :: cs =>
    match cs.takeWhile fun c => (decimal? c).isSome, cs.dropWhile fun c => (decimal? c).isSome with
    | _ :: _, ')' :: rest => some rest
    | _, _ => none
  | _ => none

/-- `_INT_WIDTH_RE.sub(r"\1", s)`. -/
def stripIntWidth (s : List Char) : List Char :=
  (intTypesWithWidth.findSome? fun base =>
    if base.toList <+: s then (afterWidth? (s.drop base.toList.length)).map (base.toList ++ ·)
    else none).getD s

/-- `_normalize_column_type`. The width of `tinyint(1)` stays. -/
def normalizeColumnType (t : String) : String :=
  let s := strip (lower t)
  if "tinyint(1)".toList <+: s.toList then s else String.ofList (stripIntWidth s.toList)

/-- `_JSON_EQUIVALENTS`. -/
def jsonEquivalents : List String := ["json", "longtext"]

/-- `_types_match`. -/
def typesMatch (expected actual : String) : Bool :=
  let actualN := normalizeColumnType actual
  let expectedN := strip (lower expected)
  if expectedN = "json" then actualN ∈ jsonEquivalents else actualN = expectedN

/-! ## Columns and table -/

section
variable (repr : String → String)

def reprOption : Option String → String
  | none => "None"
  | some s => repr s

/-- `sorted` on strings. -/
def sorted (names : List String) : List String :=
  names.insertionSort fun a b => a.toList ≤ b.toList

/-- `found`: of two rows with one name the later one counts. -/
def found (rows : List ColumnRow) (name : String) : Option ColumnRow :=
  rows.reverse.find? fun r => r.columnName = name

def charsetDiffs (what : String) (hint : String) (cs co : Option String) : List String :=
  (if cs = some expectedCharset then []
    else [what ++ "charset=" ++ reprOption repr cs ++ ", expected " ++ repr expectedCharset ++ hint])
  ++ (if co = some expectedCollation then []
    else [what ++ "collation=" ++ reprOption repr co ++ ", expected " ++ repr expectedCollation])

def utf8Hint : String := " (legacy `utf8` silently truncates 4-byte chars; spec §3)"

/-- The checks on a column that is there. -/
def columnDiffs (name : String) (spec : ColumnSpec) (actual : ColumnRow) : List String :=
  let actualTypeRaw := lower actual.columnType
  let actualExtra := lower (actual.extra.getD "")
  (if typesMatch spec.columnType actualTypeRaw then []
    else ["column " ++ name ++ ": type " ++ repr actualTypeRaw ++ ", expected " ++
      repr spec.columnType])
  ++ (if actual.isNullable = spec.isNullable then []
    else ["column " ++ name ++ ": nullable=" ++ repr actual.isNullable ++ ", expected " ++
      repr spec.isNullable])
  ++ (if spec.hasCharset then
      charsetDiffs repr ("column " ++ name ++ ": ") utf8Hint actual.characterSetName
        actual.collationName
    else [])
  ++ (if spec.extra = "" ∨ spec.extra.toList <:+: actualExtra.toList then []
    else ["column " ++ name ++ ": extra=" ++ repr actualExtra ++ ", expected to contain " ++
      repr spec.extra])

def validateColumns (rows : List ColumnRow) : List String :=
  let expectedNames := expectedColumns.map Prod.fst
  let actualNames := (rows.map ColumnRow.columnName).dedup
  (sorted (expectedNames.filter (· ∉ actualNames))).map ("missing column: " ++ ·)
  ++ (sorted (actualNames.filter (· ∉ expectedNames))).map ("unexpected column: " ++ ·)
  ++ (sorted (expectedNames.filter (· ∈ actualNames))).flatMap fun name =>
      match expectedColumns.lookup name, found rows name with
      | some spec, some actual => columnDiffs repr name spec actual
      | _, _ => []

def validateTableCharset : Option TableRow → List String
  | none => ["table " ++ repr auditTable ++ " does not exist"]
  | some row => charsetDiffs repr "table " utf8Hint row.characterSetName row.tableCollation

/-! ## Live-DB operations -/

/-- What the two queries of `information_schema` answer for a database. -/
structure InformationSchema where
  columns : String → Except DbFailure (List ColumnRow)
  tables : String → Except DbFailure (Option TableRow)

def validate (is : InformationSchema) (database : String) : Except Exn SchemaCheck :=
  let fetched := do
    let colRows ← is.columns database
    let tableRow ← is.tables database
    pure (colRows, tableRow)
  match fetched with
  | .error (.operational _ text) =>
    .ok { ok := false, error := some ("information_schema query failed: " ++ text) }
  | .error (.pymysql text) =>
    .ok { ok := false, error := some ("information_schema query failed: " ++ text) }
  | .error (.other e) => .error e
  | .ok (colRows, tableRow) =>
    let diffs := validateTableCharset repr tableRow ++
      if tableRow = none then [] else validateColumns repr colRows
    .ok { ok := diffs.isEmpty, diffs }

/-- `bootstrap_and_validate`, from the outcome of `bootstrap` and what the server
says after it. -/
def bootstrapAndValidate (bootstrap : Except DbFailure Unit) (is : InformationSchema)
    (database : String) : Except Exn BootstrapResult :=
  match bootstrap with
  | .error (.operational errno text) =>
    let kind := if errno = some 1142 ∨ errno = some 1227 then "mysql_privilege" else "mysql_error"
    .ok { ok := false, errorKind := some kind, errorMessage := some text }
  | .error (.pymysql text) =>
    .ok { ok := false, errorKind := some "mysql_error", errorMessage := some text }
  | .error (.other e) => .error e
  | .ok () => do
    let check ← validate repr is database
    if check.ok then pure { ok := true, schemaCheck := some check }
    else pure { ok := false, errorKind := some "schema_drift", schemaCheck := some check }

/-- The validator's verdict on the shared table: there is one, and it is not ok. -/
def Drifted (is : InformationSchema) (database : String) : Prop :=
  ∃ check, validate repr is database = .ok check ∧ check.ok = false

/-! ## The table as `bootstrap` creates it -/

/-- How MySQL lists a column of the DDL. -/
def createdColumn (name : String) (spec : ColumnSpec) : ColumnRow where
  columnName := name
  columnType := spec.columnType
  isNullable := spec.isNullable
  characterSetName := if spec.hasCharset then some expectedCharset else none
  collationName := if spec.hasCharset then some expectedCollation else none
  extra := some spec.extra

def createdColumns : List ColumnRow := expectedColumns.map fun c => createdColumn c.1 c.2

def createdTable : TableRow := ⟨some expectedCollation, some expectedCharset⟩

/-- A server whose shared table has these columns. -/
def serving (columns : List ColumnRow) : InformationSchema where
  columns _ := .ok columns
  tables _ := .ok (some createdTable)

theorem mem_sorted {names : List String} {name : String} : name ∈ sorted names ↔ name ∈ names :=
  List.mem_insertionSort _

/-- A column of an unexpected name is a diff. -/
theorem drifted_of_unexpected {rows : List ColumnRow} {r : ColumnRow} (hr : r ∈ rows)
    (hname : r.columnName ∉ expectedColumns.map Prod.fst) (database : String) :
    Drifted repr (serving rows) database := by
  have hmem : "unexpected column: " ++ r.columnName ∈ validateColumns repr rows := by
    refine List.mem_append_left _ (List.mem_append_right _ (List.mem_map_of_mem ?_))
    rw [mem_sorted, List.mem_filter, List.mem_dedup]
    exact ⟨List.mem_map_of_mem hr, decide_eq_true hname⟩
  have hne : validateColumns repr rows ≠ [] := List.ne_nil_of_mem hmem
  refine ⟨_, rfl, ?_⟩
  simp [createdTable, hne]

end

end Bluewave.Schema
