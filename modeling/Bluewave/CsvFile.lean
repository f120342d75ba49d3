import Bluewave.Lib.CsvReader
import Bluewave.Lib.Utf8
import Bluewave.RunOutcome
import Bluewave.Transform

/-! The CSV file as `transform` reads it: its bytes are decoded piece by piece, and the records
are taken from the lines that are complete. What goes wrong there is raised between two records,
outside the `try` around the rows. -/
namespace Bluewave.CsvFile
open Lib Bluewave.Exceptions Bluewave.Tables Bluewave.Transform Bluewave.RunJob
open Bluewave.RunOutcome

def hexByte (b : UInt8) : String :=
  String.ofList [Nat.digitChar (b.toNat / 16), Nat.digitChar (b.toNat % 16)]

def unicodeDecodeError (e : Utf8.DecodeError) : Exn :=
  .other "UnicodeDecodeError" ("'utf-8' codec can't decode " ++
    (if e.length = 1 then "byte 0x" ++ hexByte e.lead ++ " in position " ++ toString e.start
      else "bytes in position " ++ toString e.start ++ "-" ++ toString (e.start + e.length - 1)) ++
    ": " ++ e.reason)

/-- `csv.Error`. -/
def csvError (e : CsvReader.Error) : Exn := .other "Error" e.text

/-- The lines of an open file, which hands its bytes out in pieces. A piece that is not text
takes the line begun before it along. -/
def readLines : List UInt8 → List Char → List (List UInt8) → List (List Char) × Option Exn
  | seen, line, [] =>
    match Utf8.finish seen with
    | .error e => ([], some (unicodeDecodeError e))
    | .ok () => (CsvReader.lastLine line, none)
  | seen, line, piece :: pieces =>
    match Utf8.decode seen 0 piece with
    | .error e => ([], some (unicodeDecodeError e))
    | .ok (chars, kept) =>
      let lines := CsvReader.split line chars
      let more := readLines kept lines.2 pieces
      (lines.1 ++ more.1, more.2)

/-- `csv.reader` on the open file. -/
def readCsv (pieces : List (List UInt8)) : Reading :=
  let lines := readLines [] [] pieces
  let records := CsvReader.records lines.2 CsvReader.fresh lines.1
  ⟨records.1, records.2.map (Sum.elim id csvError)⟩

/-- UTF-8, and records that `csv.reader` takes to the end. -/
def Readable (bytes : List UInt8) : Prop :=
  ∃ chars, bytes = Utf8.encode chars ∧
    (CsvReader.records (none : Option Exn) CsvReader.fresh (CsvReader.textLines chars)).2 = none

/-! ## Reading -/

section
variable {seen : List UInt8} {line : List Char} {pieces : List (List UInt8)}

/-- A file of text has the lines of its text. -/
theorem readLines_ok {chars : List Char} (h : Utf8.decodeAll seen pieces = .ok chars) :
    readLines seen line pieces = ((CsvReader.split line chars).1 ++
      CsvReader.lastLine (CsvReader.split line chars).2, none) := by
  induction pieces generalizing seen line chars with
  | nil =>
    simp only [Utf8.decodeAll, bind, Except.bind] at h
    simp only [readLines]
    cases hfinish : Utf8.finish seen with
    | error e =>
      rw [hfinish] at h
      cases h
    | ok u =>
      rw [hfinish] at h
      cases h
      rfl
  | cons piece pieces ih =>
    obtain ⟨first, rest, kept, hpiece, hrest, rfl⟩ := Utf8.decodeAll_cons.mp h
    simp only [readLines, hpiece, ih hrest, CsvReader.split_append, List.append_assoc]

/-- Any other file breaks off. -/
theorem readLines_error {e : Utf8.DecodeError} (h : Utf8.decodeAll seen pieces = .error e) :
    (readLines seen line pieces).2 ≠ none := by
  induction pieces generalizing seen line e with
  | nil =>
    simp only [Utf8.decodeAll, bind, Except.bind] at h
    simp only [readLines]
    cases hfinish : Utf8.finish seen with
    | error e => simp
    | ok u =>
      rw [hfinish] at h
      cases h
  | cons piece pieces ih =>
    simp only [Utf8.decodeAll, bind, Except.bind] at h
    simp only [readLines]
    cases hpiece : Utf8.decode seen 0 piece with
    | error e => simp
    | ok r =>
      obtain ⟨first, kept⟩ := r
      cases hrest : Utf8.decodeAll kept pieces with
      | error e => exact ih hrest
      | ok rest =>
        simp only [hpiece, hrest] at h
        cases h

theorem readLines_broken {e : Exn} (h : (readLines seen line pieces).2 = some e) : ∃ type text, e = .other type text := by
  induction pieces generalizing seen line with
  | nil =>
    simp only [readLines] at h
    split at h <;> cases h
    exact ⟨_, _, rfl⟩
  | cons piece pieces ih =>
    simp only [readLines] at h
    split at h
    · cases h
      exact ⟨_, _, rfl⟩
    · exact ih h

theorem records_failure {broken : Option Exn} {r : CsvReader.Reader} {lines : List (List Char)}
    {e : Exn} (h : (CsvReader.records broken r lines).2 = some (.inl e)) : broken = some e := by
  induction lines generalizing r with
  | nil =>
    simp only [CsvReader.records] at h
    split at h
    · cases h
      rfl
    · split at h <;> cases h
  | cons line lines ih =>
    simp only [CsvReader.records] at h
    split at h
    · cases h
    · split at h <;> exact ih h

/-- However the bytes come, they are read to their end exactly when they are readable. -/
theorem readCsv_failure_eq_none : (readCsv pieces).failure = none ↔ Readable pieces.flatten := by
  simp only [readCsv, Option.map_eq_none_iff]
  cases hdecode : Utf8.decodeAll [] pieces with
  | error e =>
    obtain ⟨e', he'⟩ := Option.ne_none_iff_exists'.mp (@readLines_error [] [] pieces e hdecode)
    rw [he']
    refine iff_of_false (CsvReader.records_broken e' _ _) ?_
    intro h
    obtain ⟨chars, hchars, -⟩ := h
    rw [(Utf8.decodeAll_iff pieces chars).mpr hchars] at hdecode
    cases hdecode
  | ok chars =>
    rw [readLines_ok hdecode, ← CsvReader.textLines]
    constructor
    · intro h
      exact ⟨chars, (Utf8.decodeAll_iff pieces chars).mp hdecode, h⟩
    · intro h
      obtain ⟨chars', hchars', h⟩ := h
      rw [(Utf8.decodeAll_iff pieces chars').mpr hchars'] at hdecode
      cases hdecode
      exact h

/-- What breaks the reading off is never a run failure. -/
theorem readCsv_failure {e : Exn} (h : (readCsv pieces).failure = some e) :
    ∃ type text, e = .other type text := by
  simp only [readCsv, Option.map_eq_some_iff] at h
  obtain ⟨failure, hfailure, rfl⟩ := h
  cases failure with
  | inl e => exact readLines_broken (records_failure hfailure)
  | inr e => exact ⟨_, _, rfl⟩

/-! ## What `transform` raises -/

/-- A run that downloads the file, has this of `transform` and records its failure. -/
structure Downloads (w : World) (cfg : Config) (reportDate : Date) (outcome : Except Exn (List Row)) :
    Prop extends Starts w cfg where
  startBrowser : w.startBrowser = .ok ()
  login : w.login cfg.bluewebUrl cfg.bluewebUser cfg.bluewebPassword = .ok ()
  scrape : ∃ csvPath, w.scrape reportDate = .ok (some csvPath) ∧
    w.transform csvPath cfg.operatorTimezone = outcome
  recorded : w.failFinal.statement = none ∧ w.failFinal.commit = none

/-- There are rows or a `MalformedCsvError`, and a run that fails there ends in
`parse_failed`. -/
structure ParseFailuresOnly (outcome : Except Exn (List Row)) : Prop where
  malformed : ∀ e, outcome = .error e → ∃ message, e = malformed message
  status : ∀ w cfg reportDate manual db e, Downloads w cfg reportDate outcome →
    outcome = .error e → (runJob w reportDate manual db).1 = .ok "parse_failed"

/-- The run is closed under the status of what `transform` raises. -/
theorem runJob_downloads {w : World} {cfg : Config} {reportDate : Date} {manual : Bool} {db : Db}
    {e : Exn} (h : Downloads w cfg reportDate (.error e)) :
    (runJob w reportDate manual db).1 = .ok (failureStatus e) := by
  obtain ⟨csvPath, hscrape, htransform⟩ := h.scrape
  have hacquire : acquire w cfg reportDate = .error e := by
    simp only [acquire, h.startBrowser, h.login, hscrape, htransform, bind, Except.bind]
  have hfirst : firstFailure w cfg reportDate db.runs.nextId
      (repeatsScheduled db reportDate manual) = some e := by
    simp only [firstFailure, hacquire]
  obtain ⟨s, cols, -, -, hrun⟩ := runJob_failed h.toStarts hfirst
  rw [hrun, h.recorded.1, h.recorded.2]
  rfl

theorem parseFailuresOnly_ok (rows : List Row) : ParseFailuresOnly (.ok rows) where
  malformed _ h := nomatch h
  status _ _ _ _ _ _ _ h := nomatch h

theorem parseFailuresOnly_error_iff (e : Exn) :
    ParseFailuresOnly (.error e) ↔ ∃ message, e = malformed message := by
  constructor
  · intro h
    exact h.malformed e rfl
  · intro h
    obtain ⟨message, rfl⟩ := h
    exact ⟨fun e he => ⟨message, (Except.error.inj he).symm⟩, fun _ _ _ _ _ _ h _ =>
      runJob_downloads h⟩

/-- The rows of the records up to a break: an error of one of them comes first. -/
theorem rowsOf_broken {rt : Runtime} {key source : String} {tz : Zone} (hz : tz.Regular)
    {type text : String} (i : Nat) (records : List (List String)) :
    ParseFailuresOnly (rowsOf rt key tz source (some (.other type text)) i records) ↔
      ¬ ∀ fields ∈ records, AcceptsRecord tz fields := by
  induction records generalizing i with
  | nil =>
    simp only [rowsOf, parseFailuresOnly_error_iff, malformed, List.not_mem_nil]
    simp
  | cons fields records ih =>
    simp only [rowsOf, bind, Except.bind, List.forall_mem_cons]
    cases hrow : rowOfFields rt key tz source i fields with
    | error e =>
      obtain ⟨message, rfl⟩ := rowOfFields_error hrow
      refine iff_of_true ((parseFailuresOnly_error_iff _).mpr ⟨message, rfl⟩) ?_
      intro h
      obtain ⟨hfields, -⟩ := h
      obtain ⟨row, hrow'⟩ := (@acceptsRecord_iff rt key source tz hz i fields).mp hfields
      rw [hrow] at hrow'
      cases hrow'
    | ok row =>
      have hfields := (@acceptsRecord_iff rt key source tz hz i fields).mpr ⟨row, hrow⟩
      simp only [hfields, true_and, ← ih (i + 1)]
      cases rowsOf rt key tz source (some (.other type text)) (i + 1) records with
      | error e => exact Iff.rfl
      | ok rows => exact iff_of_true (parseFailuresOnly_ok _) (parseFailuresOnly_ok _)

/-- A file whose zone is known, by how far it can be read. -/
theorem transform_of_zone {rt : Runtime} {timezone : String} {tz : Zone}
    (hzone : rt.zoneInfo timezone = .ok tz) (csvPath source : String) :
    ParseFailuresOnly (transform rt (.ok (readCsv pieces)) csvPath timezone source) ↔
      Readable pieces.flatten ∨
        (readCsv pieces).records ≠ [] ∧ ¬ Accepts tz (readCsv pieces).records := by
  have hz := rt.zoneInfo_regular timezone tz hzone
  rw [← readCsv_failure_eq_none]
  have hother := @readCsv_failure pieces
  generalize readCsv pieces = reading at hother ⊢
  obtain ⟨records, failure⟩ := reading
  cases failure with
  | none =>
    refine iff_of_true ?_ (.inl rfl)
    by_cases haccepts : Accepts tz records
    · obtain ⟨rows, hrows⟩ := (transform_exact rt hzone csvPath source records).1.mpr haccepts
      rw [hrows]
      exact parseFailuresOnly_ok rows
    · obtain ⟨message, he⟩ :=
        (transform_exact rt hzone csvPath source records).2.2.2.2 haccepts
      rw [he]
      exact (parseFailuresOnly_error_iff _).mpr ⟨message, rfl⟩
  | some e =>
    obtain ⟨type, text, rfl⟩ := hother rfl
    cases records with
    | nil =>
      simp only [transform, hzone, bind, Except.bind, parseFailuresOnly_error_iff, malformed]
      simp
    | cons header records =>
      by_cases hheader : header = expectedHeader
      · subst hheader
        simp only [transform, hzone, bind, Except.bind, ne_eq, not_true_eq_false, if_false,
          rowsOf_broken hz, Accepts]
        simp
      · have hnot : ¬ Accepts tz (header :: records) := by
          intro h
          obtain ⟨rest, heq, -⟩ := h
          exact hheader (List.cons.inj heq).1
        simp only [transform, hzone, bind, Except.bind, ne_eq, hheader, not_false_eq_true, if_true,
          parseFailuresOnly_error_iff]
        exact iff_of_true ⟨_, rfl⟩ (.inr ⟨List.cons_ne_nil _ _, hnot⟩)

end

/-- Every content problem of a file is a parse failure exactly when the zone is unknown, the
bytes can be read to their end, or a record in front of the break is refused. -/
theorem parseFailuresOnly_iff (rt : Runtime) (pieces : List (List UInt8))
    (csvPath timezone source : String) :
    ParseFailuresOnly (transform rt (.ok (readCsv pieces)) csvPath timezone source) ↔
      (∃ text, rt.zoneInfo timezone = .error text) ∨ Readable pieces.flatten ∨
        ∃ tz, rt.zoneInfo timezone = .ok tz ∧ (readCsv pieces).records ≠ [] ∧
          ¬ Accepts tz (readCsv pieces).records := by
  cases hzone : rt.zoneInfo timezone with
  | error text =>
    simp only [transform, hzone, parseFailuresOnly_error_iff]
    exact iff_of_true ⟨_, rfl⟩ (.inl ⟨text, rfl⟩)
  | ok tz =>
    rw [transform_of_zone hzone]
    simp

/-- A name in Latin-1. -/
def latin1 : List (List UInt8) := [[0x4A, 0x6F, 0x73, 0xE9, 0x0D, 0x0A]]

theorem not_parseFailuresOnly_latin1 :
    transform knowingNewYork (.ok (readCsv latin1)) "report.csv" "America/New_York" "Bluewave" =
        .error (.other "UnicodeDecodeError"
          "'utf-8' codec can't decode byte 0xe9 in position 3: invalid continuation byte") ∧
      ¬ ParseFailuresOnly (transform knowingNewYork (.ok (readCsv latin1)) "report.csv"
        "America/New_York" "Bluewave") := by
  have herror : transform knowingNewYork (.ok (readCsv latin1)) "report.csv" "America/New_York"
      "Bluewave" = .error (.other "UnicodeDecodeError"
        "'utf-8' codec can't decode byte 0xe9 in position 3: invalid continuation byte") := by
    decide
  refine ⟨herror, ?_⟩
  rw [herror, parseFailuresOnly_error_iff]
  intro h
  obtain ⟨message, h⟩ := h
  cases h

end Bluewave.CsvFile
