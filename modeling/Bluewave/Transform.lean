import Bluewave.Lib.Result
import Bluewave.Lib.Zone
import Bluewave.Dedup
import Bluewave.Tables

/-! `transform`: the records of the CSV file to rows, all of them or none. A local
time is taken to UTC as its first instant; what does not come back as itself never
was one. -/
namespace Bluewave.Transform
open Lib Bluewave.Exceptions Bluewave.Auth Bluewave.Datetime Bluewave.Dedup Bluewave.Tables

def expectedHeader : List String :=
  ["Date/Time", "Door Name", "Description", "Person", "Employee ID", "Card Number",
    "Facility Code", "Pin"]

/-- Python around the module: its `repr` of a string, and `ZoneInfo` over the IANA
database, in which no zone repeats or skips a local time twice. Offsets and times of a
zone are in microseconds. -/
structure Runtime extends Platform where
  repr : String → String
  zoneInfo : String → Except String Zone
  zoneInfo_regular : ∀ key tz, zoneInfo key = .ok tz → tz.Regular

/-- What reading a file through `csv.reader` yields: records, and an exception behind
them if it does not come to the end. -/
structure Reading where
  records : List (List String)
  failure : Option Exn

/-- A record under its header. -/
structure Raw where
  dateTime : String
  doorName : String
  description : String
  person : String
  employeeId : String
  cardNumber : String
  facilityCode : String
  pin : String

/-- `dict(zip(EXPECTED_HEADER, fields))`, for as many fields as there are names. -/
def raw? : List String → Option Raw
  | [dateTime, doorName, description, person, employeeId, cardNumber, facilityCode, pin] =>
    some { dateTime, doorName, description, person, employeeId, cardNumber, facilityCode, pin }
  | _ => none

def malformed (message : String) : Exn := .runFailure .malformedCsvError message

def stripOrNone (value : String) : Option String :=
  if strip value = "" then none else some (strip value)

section
variable (rt : Runtime)

def parseNaiveLocal (value : String) : Except Exn Int :=
  match strptime? value with
  | some naive => .ok naive
  | none =>
    .error (malformed ("unparseable Date/Time: " ++ rt.repr value ++ " (expected " ++
      rt.repr timestampFmt ++ ")"))

def dateValueOutOfRange : Exn := overflowError "date value out of range"

/-- `_localize_to_utc`, under the key of the zone. The `dst()` of a `ZoneInfo` is never
`None`. -/
def localizeToUtc (key : String) (tz : Zone) (naive : Int) : Except Exn Timestamp :=
  let utc := naive - tz.fold0 naive
  if ¬ InRange utc then .error dateValueOutOfRange
  else
    let roundtrip := tz.toLocal utc
    if ¬ InRange roundtrip then .error dateValueOutOfRange
    else if roundtrip ≠ naive then
      .error (malformed ("non-existent local time " ++ isoformat naive ++ " in " ++ rt.repr key ++
        " (spring-forward gap; round-trip → " ++ isoformat roundtrip ++ ")"))
    else .ok utc

/-- `_row_from_csv`. -/
def rowFromCsv (key : String) (tz : Zone) (source : String) (raw : Raw) : Except Exn Row := do
  let naive ← parseNaiveLocal rt raw.dateTime
  let tsUtc ← localizeToUtc rt key tz naive
  let operation := strip raw.description
  let instance_ := strip raw.doorName
  if operation = "" ∨ instance_ = "" then
    .error (malformed ("row missing required field(s): operation=" ++ rt.repr operation ++
      ", instance=" ++ rt.repr instance_))
  else
    let userName := stripOrNone raw.person
    let userId := stripOrNone raw.employeeId
    let extra := canonicalExtraData (stripOrNone raw.cardNumber) (stripOrNone raw.facilityCode)
    pure {
      timestamp := tsUtc, source, operation, instance_, userName, userId, extraDataStr := extra
      dedupHash := dedupHash rt.toPlatform source tsUtc operation instance_ userId userName extra }

/-- One turn of the loop, at line `i`. -/
def rowOfFields (key : String) (tz : Zone) (source : String) (i : Nat) (fields : List String) :
    Except Exn Row :=
  match raw? fields with
  | none =>
    .error (malformed ("line " ++ toString i ++ ": expected " ++ toString expectedHeader.length ++
      " fields, got " ++ toString fields.length))
  | some raw =>
    match rowFromCsv rt key tz source raw with
    | .ok row => .ok row
    | .error (.runFailure .malformedCsvError message) => .error (malformed message)
    | .error (.runFailure _ message) =>
      .error (malformed ("line " ++ toString i ++ ": unhandled parse error: " ++ message))
    | .error (.other _ text) =>
      .error (malformed ("line " ++ toString i ++ ": unhandled parse error: " ++ text))

/-- The loop over the records behind the header. -/
def rowsOf (key : String) (tz : Zone) (source : String) (failure : Option Exn) :
    Nat → List (List String) → Except Exn (List Row)
  | _, [] =>
    match failure with
    | some e => .error e
    | none => .ok []
  | i, fields :: records => do
    let row ← rowOfFields rt key tz source i fields
    let rows ← rowsOf key tz source failure (i + 1) records
    pure (row :: rows)

/-- `repr` of a tuple of strings. -/
def reprTuple : List String → String
  | [s] => "(" ++ rt.repr s ++ ",)"
  | ss => "(" ++ ", ".intercalate (ss.map rt.repr) ++ ")"

/-- `transform`, from the outcome of opening the file. -/
def transform (opened : Except Exn Reading) (csvPath timezone source : String) :
    Except Exn (List Row) :=
  match rt.zoneInfo timezone with
  | .error text =>
    .error (malformed ("unknown timezone " ++ rt.repr timezone ++ ": " ++ text))
  | .ok tz => do
    let reading ← opened
    match reading.records, reading.failure with
    | [], some e => .error e
    | [], none => .error (malformed ("empty CSV: " ++ csvPath))
    | header :: records, failure =>
      if header ≠ expectedHeader then
        .error (malformed ("unexpected header: " ++ reprTuple rt header ++ " (want " ++
          reprTuple rt expectedHeader ++ ")"))
      else rowsOf rt timezone tz source failure 2 records

/-! ## Local time to UTC -/

section
variable {rt : Runtime} {key : String} {tz : Zone} {naive : Int}

/-- The conversion returns the first instant of a local time, or fails. -/
theorem localizeToUtc_eq_ok (hz : tz.Regular) (hn : InRange naive) {u : Timestamp} :
    localizeToUtc rt key tz naive = .ok u ↔
      IsLeast {v | tz.toLocal v = naive} u ∧ InRange u := by
  simp only [localizeToUtc]
  constructor
  · intro h
    split at h
    · cases h
    · rename_i hutc
      split at h
      · cases h
      · split at h
        · cases h
        · rename_i hround
          cases h
          exact ⟨Zone.fold0_isLeast hz (not_not.mp hround), not_not.mp hutc⟩
  · intro h
    obtain ⟨hleast, hu⟩ := h
    have hfold := Zone.fold0_isLeast hz hleast.1
    have heq : naive - tz.fold0 naive = u := hfold.unique hleast
    have hround : tz.toLocal (naive - tz.fold0 naive) = naive := hfold.1
    have hback : InRange (tz.toLocal (naive - tz.fold0 naive)) := hround.symm ▸ hn
    rw [if_neg (not_not.mpr (heq ▸ hu)), if_neg (not_not.mpr hback),
      if_neg (not_not.mpr hround), heq]

end

/-- The conversion is the exact earliest inverse of UTC to local time. -/
theorem localizeToUtc_earliest (rt : Runtime) (key : String) {tz : Zone} (hz : tz.Regular)
    {naive : Int} (hutc : InRange (naive - tz.fold0 naive))
    (hlocal : InRange (tz.toLocal (naive - tz.fold0 naive))) :
    (∀ u, localizeToUtc rt key tz naive = .ok u ↔ IsLeast {v | tz.toLocal v = naive} u) ∧
      ((∃ message, localizeToUtc rt key tz naive = .error (malformed message)) ↔
        ¬ ∃ u, tz.toLocal u = naive) ∧
      ((¬ ∃ u, tz.toLocal u = naive) ↔ tz.Skips naive) := by
  have hiff := Zone.toLocal_sub_fold0_iff hz naive
  refine ⟨fun u => ?_, ?_, by rw [Zone.exists_toLocal_iff hz, not_not]⟩
  · simp only [localizeToUtc, if_neg (not_not.mpr hutc), if_neg (not_not.mpr hlocal)]
    split
    · rename_i hround
      refine iff_of_false (by simp) fun hleast => hround (hiff.mpr ⟨u, hleast.1⟩)
    · rename_i hround
      have hleast := Zone.fold0_isLeast hz (not_not.mp hround)
      constructor
      · intro h
        cases h
        exact hleast
      · intro h
        rw [hleast.unique h]
  · rw [← hiff]
    simp only [localizeToUtc, if_neg (not_not.mpr hutc), if_neg (not_not.mpr hlocal)]
    split
    · rename_i hround
      exact iff_of_true ⟨_, rfl⟩ hround
    · rename_i hround
      exact iff_of_false (by simp) hround

/-- New York in 2026: forward an hour on March 8, back on November 1. -/
def newYork : Zone where
  base := -18000000000
  transitions := [⟨1772953200000000, -14400000000⟩, ⟨1793512800000000, -18000000000⟩]

theorem newYork_regular : newYork.Regular where
  increasing := by simp [newYork]
  disjoint := by
    simp only [newYork, Zone.shiftsFrom, Zone.Shifted, List.pairwise_cons, List.not_mem_nil,
      List.mem_singleton, forall_eq, List.Pairwise.nil, and_true, false_implies, implies_true]
    omega

/-- A runtime that knows one zone. -/
def knowingNewYork : Runtime where
  sha256 s := s
  strftimeYear := pad 4
  repr s := "'" ++ s ++ "'"
  zoneInfo key :=
    if key = "America/New_York" then .ok newYork else .error "No time zone found with key"
  zoneInfo_regular := by
    intro key tz h
    split at h
    · cases h
      exact newYork_regular
    · cases h

/-- Half past one on the long day, the first time it comes. -/
theorem localizeToUtc_earliest_fallBack :
    localizeToUtc knowingNewYork "America/New_York" newYork 1793496600000000 =
        .ok 1793511000000000 ∧
      IsLeast {v | newYork.toLocal v = 1793496600000000} 1793511000000000 := by
  have hok : localizeToUtc knowingNewYork "America/New_York" newYork 1793496600000000 =
      .ok 1793511000000000 := by decide
  exact ⟨hok, ((localizeToUtc_earliest knowingNewYork "America/New_York" newYork_regular
    (by decide) (by decide)).1 _).mp hok⟩

/-! ## What is accepted -/

/-- A record the transform turns into a row: eight fields, a local time of the zone
whose first instant UTC can represent, and the two fields that may not be blank. -/
def AcceptsRecord (tz : Zone) (fields : List String) : Prop :=
  ∃ raw naive u, raw? fields = some raw ∧ strptime? raw.dateTime = some naive ∧
    IsLeast {v | tz.toLocal v = naive} u ∧ InRange u ∧
    strip raw.description ≠ "" ∧ strip raw.doorName ≠ ""

def Accepts (tz : Zone) (records : List (List String)) : Prop :=
  ∃ rest, records = expectedHeader :: rest ∧ ∀ fields ∈ rest, AcceptsRecord tz fields

/-- A text field of a row: what is left of the text, and nothing where that is empty. -/
inductive FieldOf (text : String) : Option String → Prop
  | blank : Stripped text "" → FieldOf text none
  | text {s : String} : Stripped text s → s ≠ "" → FieldOf text (some s)

/-- The `extra_data` of a row: the two fields that are not blank, under their keys. -/
inductive ExtraDataOf (cardNumber facilityCode : String) : Option String → Prop
  | blank : FieldOf cardNumber none → FieldOf facilityCode none →
      ExtraDataOf cardNumber facilityCode none
  | card {card : String} : FieldOf cardNumber (some card) → FieldOf facilityCode none →
      ExtraDataOf cardNumber facilityCode
        (some ("\x7b\"card_number\":" ++ jsonString card ++ "\x7d"))
  | facility {facility : String} : FieldOf cardNumber none → FieldOf facilityCode (some facility) →
      ExtraDataOf cardNumber facilityCode
        (some ("\x7b\"facility_code\":" ++ jsonString facility ++ "\x7d"))
  | both {card facility : String} : FieldOf cardNumber (some card) →
      FieldOf facilityCode (some facility) →
      ExtraDataOf cardNumber facilityCode
        (some ("\x7b\"card_number\":" ++ jsonString card ++ ",\"facility_code\":" ++
          jsonString facility ++ "\x7d"))

/-- The row of a record, by its first seven fields. -/
def RowOf (rt : Runtime) (tz : Zone) (source : String) (seven : List String) (row : Row) : Prop :=
  ∃ dateTime doorName description person employeeId cardNumber facilityCode naive,
    seven = [dateTime, doorName, description, person, employeeId, cardNumber, facilityCode] ∧
    strptime? dateTime = some naive ∧ IsLeast {v | tz.toLocal v = naive} row.timestamp ∧
    row.source = source ∧
    (Stripped description row.operation ∧ row.operation ≠ "") ∧
    (Stripped doorName row.instance_ ∧ row.instance_ ≠ "") ∧
    FieldOf person row.userName ∧ FieldOf employeeId row.userId ∧
    ExtraDataOf cardNumber facilityCode row.extraDataStr ∧
    row.dedupHash = dedupHash rt.toPlatform source row.timestamp row.operation row.instance_
      row.userId row.userName row.extraDataStr

theorem fieldOf_iff {text : String} {value : Option String} :
    FieldOf text value ↔ value = stripOrNone text := by
  unfold stripOrNone
  constructor
  · rintro (hblank | ⟨hstripped, hne⟩)
    · rw [if_pos (stripped_iff.mp hblank).symm]
    · rw [← stripped_iff.mp hstripped, if_neg hne]
  · rintro rfl
    split
    · rename_i hblank
      exact .blank (stripped_iff.mpr hblank.symm)
    · rename_i hne
      exact .text (stripped_strip text) hne

theorem payloadEntry_stripOrNone (key value : String) :
    payloadEntry key (stripOrNone value) = (stripOrNone value).toList.map fun s => (key, s) := by
  unfold stripOrNone
  split
  · rfl
  · rename_i hne
    simp [payloadEntry, strip_strip, hne]

theorem extraDataOf_canonical {cardNumber facilityCode : String} {extra : Option String}
    (h : ExtraDataOf cardNumber facilityCode extra) :
    extra = canonicalExtraData (stripOrNone cardNumber) (stripOrNone facilityCode) := by
  have hcardKey : jsonString "card_number" = "\"card_number\"" := by decide
  have hfacilityKey : jsonString "facility_code" = "\"facility_code\"" := by decide
  simp only [canonicalExtraData, payloadEntry_stripOrNone]
  rcases h with ⟨hcard, hfacility⟩ | ⟨hcard, hfacility⟩ | ⟨hcard, hfacility⟩ | ⟨hcard, hfacility⟩ <;>
    rw [← fieldOf_iff.mp hcard, ← fieldOf_iff.mp hfacility]
  · rfl
  all_goals simp [jsonObject, hcardKey, hfacilityKey, ← String.toList_inj]

theorem extraDataOf_iff {cardNumber facilityCode : String} {extra : Option String} :
    ExtraDataOf cardNumber facilityCode extra ↔
      extra = canonicalExtraData (stripOrNone cardNumber) (stripOrNone facilityCode) := by
  refine ⟨extraDataOf_canonical, ?_⟩
  have hsome : ∃ extra, ExtraDataOf cardNumber facilityCode extra := by
    rcases hcard : stripOrNone cardNumber with _ | card <;>
      rcases hfacility : stripOrNone facilityCode with _ | facility
    · exact ⟨_, .blank (fieldOf_iff.mpr hcard.symm) (fieldOf_iff.mpr hfacility.symm)⟩
    · exact ⟨_, .facility (fieldOf_iff.mpr hcard.symm) (fieldOf_iff.mpr hfacility.symm)⟩
    · exact ⟨_, .card (fieldOf_iff.mpr hcard.symm) (fieldOf_iff.mpr hfacility.symm)⟩
    · exact ⟨_, .both (fieldOf_iff.mpr hcard.symm) (fieldOf_iff.mpr hfacility.symm)⟩
  obtain ⟨extra', h⟩ := hsome
  rintro rfl
  exact extraDataOf_canonical h ▸ h

section
variable {rt : Runtime} {key source : String} {tz : Zone}

theorem raw?_eq_some {fields : List String} {raw : Raw} (h : raw? fields = some raw) :
    fields = [raw.dateTime, raw.doorName, raw.description, raw.person, raw.employeeId,
      raw.cardNumber, raw.facilityCode, raw.pin] := by
  unfold raw? at h
  split at h
  · cases h
    rfl
  · cases h

theorem exists_raw_iff {fields : List String} :
    (∃ raw, raw? fields = some raw) ↔ fields.length = expectedHeader.length := by
  constructor
  · rintro ⟨raw, h⟩
    rw [raw?_eq_some h]
    rfl
  · intro h
    match fields, h with
    | [a, b, c, d, e, f, g, p], _ => exact ⟨⟨a, b, c, d, e, f, g, p⟩, rfl⟩

/-- The row of a record at the instant `u`. -/
def rowAt (rt : Runtime) (source : String) (raw : Raw) (u : Timestamp) : Row :=
  let userId := stripOrNone raw.employeeId
  let userName := stripOrNone raw.person
  let extra := canonicalExtraData (stripOrNone raw.cardNumber) (stripOrNone raw.facilityCode)
  { timestamp := u, source, operation := strip raw.description, instance_ := strip raw.doorName
    userName, userId, extraDataStr := extra
    dedupHash := dedupHash rt.toPlatform source u (strip raw.description) (strip raw.doorName)
      userId userName extra }

/-- What `_row_from_csv` makes of a record, and when. -/
theorem rowFromCsv_eq_ok (hz : tz.Regular) {raw : Raw} {row : Row} :
    rowFromCsv rt key tz source raw = .ok row ↔
      ∃ naive, strptime? raw.dateTime = some naive ∧
        IsLeast {v | tz.toLocal v = naive} row.timestamp ∧ InRange row.timestamp ∧
        strip raw.description ≠ "" ∧ strip raw.doorName ≠ "" ∧
        row = rowAt rt source raw row.timestamp := by
  unfold rowFromCsv parseNaiveLocal
  cases hp : strptime? raw.dateTime with
  | none => simp [bind, Except.bind]
  | some naive =>
    have hn := strptime?_inRange hp
    simp only [bind, Except.bind, Option.some.injEq, exists_eq_left']
    cases hl : localizeToUtc rt key tz naive with
    | error e =>
      refine iff_of_false (by simp) ?_
      intro h
      obtain ⟨hleast, hrange, -⟩ := h
      rw [(localizeToUtc_eq_ok hz hn).mpr ⟨hleast, hrange⟩] at hl
      cases hl
    | ok u =>
      obtain ⟨hleast, hrange⟩ := (localizeToUtc_eq_ok hz hn).mp hl
      simp only
      split
      · rename_i hblank
        refine iff_of_false (by simp) ?_
        intro h
        obtain ⟨-, -, hop, hinst, -⟩ := h
        exact hblank.elim hop hinst
      · rename_i hfilled
        obtain ⟨hop, hinst⟩ := not_or.mp hfilled
        constructor
        · intro h
          cases h
          exact ⟨hleast, hrange, hop, hinst, rfl⟩
        · intro h
          obtain ⟨hleast', -, -, -, hrow⟩ := h
          rw [hrow, hleast.unique hleast']
          rfl

/-- A turn of the loop fails as a malformed CSV, whatever went wrong. -/
theorem rowOfFields_error {i : Nat} {fields : List String} {e : Exn}
    (h : rowOfFields rt key tz source i fields = .error e) : ∃ message, e = malformed message := by
  unfold rowOfFields at h
  split at h
  · cases h
    exact ⟨_, rfl⟩
  · split at h <;> cases h <;> exact ⟨_, rfl⟩

theorem rowOfFields_eq_ok {i : Nat} {fields : List String} {row : Row} :
    rowOfFields rt key tz source i fields = .ok row ↔
      ∃ raw, raw? fields = some raw ∧ rowFromCsv rt key tz source raw = .ok row := by
  unfold rowOfFields
  cases raw? fields with
  | none => simp
  | some raw =>
    simp only [Option.some.injEq, exists_eq_left']
    split <;> simp_all

/-- A record is accepted exactly when it gets its row. -/
theorem acceptsRecord_iff (hz : tz.Regular) (i : Nat) (fields : List String) :
    AcceptsRecord tz fields ↔ ∃ row, rowOfFields rt key tz source i fields = .ok row := by
  simp only [rowOfFields_eq_ok, rowFromCsv_eq_ok hz]
  constructor
  · intro h
    obtain ⟨raw, naive, u, hraw, hp, hleast, hrange, hop, hinst⟩ := h
    exact ⟨rowAt rt source raw u, raw, hraw, naive, hp, hleast, hrange, hop, hinst, rfl⟩
  · intro h
    obtain ⟨row, raw, hraw, naive, hp, hleast, hrange, hop, hinst, -⟩ := h
    exact ⟨raw, naive, row.timestamp, hraw, hp, hleast, hrange, hop, hinst⟩

theorem rowOf_of_ok (hz : tz.Regular) {i : Nat} {fields : List String} {row : Row}
    (h : rowOfFields rt key tz source i fields = .ok row) :
    RowOf rt tz source (fields.take 7) row := by
  obtain ⟨raw, hraw, hrow⟩ := rowOfFields_eq_ok.mp h
  obtain ⟨naive, hp, hleast, -, hop, hinst, heq⟩ := (rowFromCsv_eq_ok hz).mp hrow
  have hseven : fields.take 7 = [raw.dateTime, raw.doorName, raw.description, raw.person,
      raw.employeeId, raw.cardNumber, raw.facilityCode] := by
    rw [raw?_eq_some hraw]
    rfl
  refine ⟨raw.dateTime, raw.doorName, raw.description, raw.person, raw.employeeId, raw.cardNumber,
    raw.facilityCode, naive, hseven, hp, hleast, ?_⟩
  obtain ⟨u, hu⟩ : ∃ u, row.timestamp = u := ⟨_, rfl⟩
  rw [hu] at heq
  subst heq
  simp only [rowAt, true_and, and_true]
  exact ⟨⟨stripped_strip _, hop⟩, ⟨stripped_strip _, hinst⟩, fieldOf_iff.mpr rfl,
    fieldOf_iff.mpr rfl, extraDataOf_iff.mpr rfl⟩

/-- The seven fields settle the row. -/
theorem RowOf.unique {seven : List String} {row row' : Row} (h : RowOf rt tz source seven row)
    (h' : RowOf rt tz source seven row') : row = row' := by
  obtain ⟨_, _, _, _, _, _, _, naive, rfl, hp, hleast, hs, ho, hi, hn, hu, he, hd⟩ := h
  obtain ⟨_, _, _, _, _, _, _, naive', heq, hp', hleast', hs', ho', hi', hn', hu', he', hd'⟩ := h'
  cases heq
  cases hp.symm.trans hp'
  have htime := hleast.unique hleast'
  have hoperation := (stripped_iff.mp ho.1).trans (stripped_iff.mp ho'.1).symm
  have hinstance := (stripped_iff.mp hi.1).trans (stripped_iff.mp hi'.1).symm
  have huserName := (fieldOf_iff.mp hn).trans (fieldOf_iff.mp hn').symm
  have huserId := (fieldOf_iff.mp hu).trans (fieldOf_iff.mp hu').symm
  have hextra := (extraDataOf_iff.mp he).trans (extraDataOf_iff.mp he').symm
  rw [← htime, ← hoperation, ← hinstance, ← huserName, ← huserId, ← hextra, ← hd] at hd'
  cases row
  cases row'
  simp_all only

/-- A record whose Pin alone is another. -/
def SameButPin (fields fields' : List String) : Prop :=
  fields.length = fields'.length ∧ fields.take 7 = fields'.take 7

theorem rowOfFields_congr {i : Nat} {fields fields' : List String} (h : SameButPin fields fields') :
    rowOfFields rt key tz source i fields = rowOfFields rt key tz source i fields' := by
  obtain ⟨hlen, htake⟩ := h
  cases hraw : raw? fields with
  | none =>
    have hraw' : raw? fields' = none := by
      by_contra hsome
      obtain ⟨raw, hr⟩ := exists_raw_iff.mpr
        (hlen.trans (exists_raw_iff.mp (Option.ne_none_iff_exists'.mp hsome)))
      rw [hraw] at hr
      cases hr
    simp only [rowOfFields, hraw, hraw', hlen]
  | some raw =>
    obtain ⟨raw', hraw'⟩ := exists_raw_iff.mpr (hlen.symm.trans (exists_raw_iff.mp ⟨raw, hraw⟩))
    rw [raw?_eq_some hraw, raw?_eq_some hraw'] at htake
    simp only [List.take_succ_cons, List.take_zero, List.cons.injEq, and_true] at htake
    obtain ⟨h1, h2, h3, h4, h5, h6, h7⟩ := htake
    simp only [rowOfFields, hraw, hraw', rowFromCsv, h1, h2, h3, h4, h5, h6, h7]

/-! ## The loop -/

theorem rowsOf_cons {failure : Option Exn} {i : Nat} {fields : List String}
    {records : List (List String)} {rows : List Row} :
    rowsOf rt key tz source failure i (fields :: records) = .ok rows ↔
      ∃ row rest, rows = row :: rest ∧ rowOfFields rt key tz source i fields = .ok row ∧
        rowsOf rt key tz source failure (i + 1) records = .ok rest := by
  simp only [rowsOf, Result.bind_eq_ok]
  constructor
  · intro h
    obtain ⟨row, hrow, rest, hrest, h⟩ := h
    exact ⟨row, rest, (Except.ok.inj h).symm, hrow, hrest⟩
  · intro h
    obtain ⟨row, rest, hrows, hrow, hrest⟩ := h
    exact ⟨row, hrow, rest, hrest, hrows ▸ rfl⟩

theorem rowsOf_accepts (hz : tz.Regular) (i : Nat) (records : List (List String)) :
    (∃ rows, rowsOf rt key tz source none i records = .ok rows) ↔
      ∀ fields ∈ records, AcceptsRecord tz fields := by
  induction records generalizing i with
  | nil => exact iff_of_true ⟨[], rfl⟩ fun _ h => absurd h List.not_mem_nil
  | cons fields records ih =>
    simp only [rowsOf_cons, List.forall_mem_cons, ← ih (i + 1),
      @acceptsRecord_iff rt key source tz hz i fields]
    constructor
    · intro h
      obtain ⟨_, row, rest, rfl, hrow, hrest⟩ := h
      exact ⟨⟨row, hrow⟩, rest, hrest⟩
    · intro h
      obtain ⟨⟨row, hrow⟩, rest, hrest⟩ := h
      exact ⟨_, row, rest, rfl, hrow, hrest⟩

theorem rowsOf_rows (hz : tz.Regular) {i : Nat} {records : List (List String)} {rows : List Row}
    (h : rowsOf rt key tz source none i records = .ok rows) :
    List.Forall₂ (fun fields row => RowOf rt tz source (fields.take 7) row) records rows := by
  induction records generalizing i rows with
  | nil => cases h; exact .nil
  | cons fields records ih =>
    obtain ⟨row, rest, rfl, hrow, hrest⟩ := rowsOf_cons.mp h
    exact .cons (rowOf_of_ok hz hrow) (ih hrest)

theorem rowsOf_error {i : Nat} {records : List (List String)} {e : Exn}
    (h : rowsOf rt key tz source none i records = .error e) : ∃ message, e = malformed message := by
  induction records generalizing i with
  | nil => cases h
  | cons fields records ih =>
    rcases Result.bind_eq_error.mp h with hrow | ⟨row, hrow, h⟩
    · exact rowOfFields_error hrow
    · rcases Result.bind_eq_error.mp h with hrest | ⟨rest, hrest, h⟩
      · exact ih hrest
      · cases h

theorem rowsOf_congr {failure : Option Exn} {i : Nat} {records records' : List (List String)}
    (h : List.Forall₂ SameButPin records records') :
    rowsOf rt key tz source failure i records = rowsOf rt key tz source failure i records' := by
  induction h generalizing i with
  | nil => rfl
  | cons hfields _ ih => simp only [rowsOf, rowOfFields_congr hfields, ih]

/-- Behind the zone and the header there is only the loop. -/
theorem transform_eq {timezone : String} (hzone : rt.zoneInfo timezone = .ok tz)
    (csvPath : String) (records : List (List String)) :
    transform rt (.ok ⟨expectedHeader :: records, none⟩) csvPath timezone source =
      rowsOf rt timezone tz source none 2 records := by
  simp only [transform, hzone, bind, Except.bind, ne_eq, not_true_eq_false, if_false]

/-- Without the header there is one message or another. -/
theorem transform_no_header {timezone : String} (hzone : rt.zoneInfo timezone = .ok tz)
    (csvPath : String) {records : List (List String)}
    (h : ∀ rest, records ≠ expectedHeader :: rest) :
    ∃ message, transform rt (.ok ⟨records, none⟩) csvPath timezone source =
      .error (malformed message) := by
  cases records with
  | nil => exact ⟨_, by simp only [transform, hzone]; rfl⟩
  | cons header rest =>
    have hheader : header ≠ expectedHeader := fun he => h rest (he ▸ rfl)
    simp only [transform, hzone, bind, Except.bind, ne_eq, hheader, not_false_eq_true, if_true]
    exact ⟨_, rfl⟩

/-- What comes back are the rows of the records behind the header. -/
theorem transform_eq_ok {timezone : String} (hzone : rt.zoneInfo timezone = .ok tz)
    {csvPath : String} {records : List (List String)} {rows : List Row}
    (h : transform rt (.ok ⟨records, none⟩) csvPath timezone source = .ok rows) :
    ∃ rest, records = expectedHeader :: rest ∧
      rowsOf rt timezone tz source none 2 rest = .ok rows := by
  by_cases hheader : ∃ rest, records = expectedHeader :: rest
  · obtain ⟨rest, rfl⟩ := hheader
    rw [transform_eq hzone] at h
    exact ⟨rest, rfl, h⟩
  · obtain ⟨message, he⟩ := @transform_no_header rt source tz timezone hzone csvPath _
      (not_exists.mp hheader)
    rw [he] at h
    cases h

end

/-- `transform` accepts exactly its format and keeps the order of the file; each row is
settled by the first seven fields of its record. Anything else is a malformed CSV. -/
theorem transform_exact (rt : Runtime) {timezone : String} {tz : Zone}
    (hzone : rt.zoneInfo timezone = .ok tz) (csvPath source : String)
    (records : List (List String)) :
    ((∃ rows, transform rt (.ok ⟨records, none⟩) csvPath timezone source = .ok rows) ↔
      Accepts tz records) ∧
    (∀ rows, transform rt (.ok ⟨records, none⟩) csvPath timezone source = .ok rows →
      List.Forall₂ (fun fields row => RowOf rt tz source (fields.take 7) row) records.tail rows) ∧
    (∀ seven row row', RowOf rt tz source seven row → RowOf rt tz source seven row' → row = row') ∧
    (∀ header rest rest', records = header :: rest → List.Forall₂ SameButPin rest rest' →
      transform rt (.ok ⟨header :: rest', none⟩) csvPath timezone source =
        transform rt (.ok ⟨records, none⟩) csvPath timezone source) ∧
    (¬ Accepts tz records →
      ∃ message, transform rt (.ok ⟨records, none⟩) csvPath timezone source =
        .error (malformed message)) := by
  have hz := rt.zoneInfo_regular timezone tz hzone
  refine ⟨?_, ?_, fun seven row row' => RowOf.unique, ?_, ?_⟩
  · constructor
    · intro h
      obtain ⟨rows, hrows⟩ := h
      obtain ⟨rest, rfl, hloop⟩ := transform_eq_ok hzone hrows
      exact ⟨rest, rfl, (rowsOf_accepts hz 2 rest).mp ⟨rows, hloop⟩⟩
    · intro h
      obtain ⟨rest, rfl, hrest⟩ := h
      rw [transform_eq hzone]
      exact (rowsOf_accepts hz 2 rest).mpr hrest
  · intro rows hrows
    obtain ⟨rest, rfl, hloop⟩ := transform_eq_ok hzone hrows
    exact rowsOf_rows hz hloop
  · rintro header rest rest' rfl hsame
    by_cases hheader : header = expectedHeader
    · subst hheader
      rw [transform_eq hzone, transform_eq hzone, rowsOf_congr hsame]
    · simp only [transform, hzone, bind, Except.bind, ne_eq, hheader, not_false_eq_true, if_true]
  · intro hnot
    by_cases hheader : ∃ rest, records = expectedHeader :: rest
    · obtain ⟨rest, rfl⟩ := hheader
      rw [transform_eq hzone]
      cases hrows : rowsOf rt timezone tz source none 2 rest with
      | ok rows => exact absurd ⟨rest, rfl, (rowsOf_accepts hz 2 rest).mp ⟨rows, hrows⟩⟩ hnot
      | error e =>
        obtain ⟨message, rfl⟩ := rowsOf_error hrows
        exact ⟨message, rfl⟩
    · exact transform_no_header hzone csvPath (not_exists.mp hheader)

/-- A record in New York, with its time and its door open. -/
def eventAt (dateTime doorName : String) : List String :=
  [dateTime, doorName, "Valid Access", "", "7", "12", "", "1234"]

/-- A report of one event, and one of an event in the hour that March 8 skips. -/
theorem transform_exact_newYork :
    (∃ rows, transform knowingNewYork
        (.ok ⟨[expectedHeader, eventAt "05/01/2026 08:00:00" " Door 1"], none⟩) "report.csv"
        "America/New_York" "Bluewave" = .ok rows) ∧
      ∃ message, transform knowingNewYork
        (.ok ⟨[expectedHeader, eventAt "03/08/2026 02:30:00" "Door 1"], none⟩) "report.csv"
        "America/New_York" "Bluewave" = .error (malformed message) := by
  have hzone : knowingNewYork.zoneInfo "America/New_York" = .ok newYork := by
    simp only [knowingNewYork, if_true]
  constructor
  · have hnoon : IsLeast {v | newYork.toLocal v = 1777622400000000} 1777636800000000 :=
      ((@localizeToUtc_eq_ok knowingNewYork "America/New_York" _ _ newYork_regular
        (by decide) _).mp (by decide)).1
    refine (transform_exact knowingNewYork hzone "report.csv" "Bluewave" _).1.mpr ⟨_, rfl, ?_⟩
    intro fields hfields
    rw [List.mem_singleton.mp hfields]
    exact ⟨_, _, _, rfl, by decide, hnoon, by decide, by decide, by decide⟩
  · refine (transform_exact knowingNewYork hzone "report.csv" "Bluewave" _).2.2.2.2 ?_
    intro h
    obtain ⟨rest, hrecords, hall⟩ := h
    cases hrecords
    obtain ⟨raw, naive, u, hraw, hp, hleast, -⟩ := hall _ (List.mem_singleton_self _)
    cases hraw
    have hgap : strptime? "03/08/2026 02:30:00" = some 1772937000000000 := by decide
    cases hgap.symm.trans hp
    exact (Zone.exists_toLocal_iff newYork_regular _).mp ⟨u, hleast.1⟩ (Or.inl (by decide))

end

end Bluewave.Transform
