import Mathlib.Data.List.DropRight
import Bluewave.JsonText
import Bluewave.Transform

/-! Which events have one dedup hash. What the hash is taken of joins seven texts by
pipes; the timestamp has a fixed shape, `extra_data` is JSON and comes last, so only a
pipe within the four texts between them can blur the boundaries. -/
namespace Bluewave.Collisions
open Lib Bluewave.Exceptions Bluewave.Auth Bluewave.Datetime Bluewave.Dedup Bluewave.JsonText
open Bluewave.Tables Bluewave.Transform

/-- `transform` accepts a file with this record, and the row is what it makes of it. -/
def Yields (rt : Runtime) (timezone : String) (raw : Raw) (row : Row) : Prop :=
  ∃ csvPath records rows fields,
    transform rt (.ok ⟨expectedHeader :: records, none⟩) csvPath timezone dedupSourceBluewave =
      .ok rows ∧ (fields, row) ∈ records.zip rows ∧ raw? fields = some raw

section
variable {p : Platform}

end

/-! ## The payload -/

section
variable {rt : Runtime} {timezone : String} {tz : Zone} {source : String} {raw raw' : Raw}
  {row row' : Row}

theorem rowsOf_zip {failure : Option Exn} {i : Nat} {records : List (List String)}
    {rows : List Row} {fields : List String}
    (h : rowsOf rt timezone tz source failure i records = .ok rows)
    (hmem : (fields, row) ∈ records.zip rows) :
    ∃ j, rowOfFields rt timezone tz source j fields = .ok row := by
  induction records generalizing i rows with
  | nil => simp at hmem
  | cons record records ih =>
    obtain ⟨first, rest, rfl, hfirst, hrest⟩ := rowsOf_cons.mp h
    rw [List.zip_cons_cons, List.mem_cons] at hmem
    rcases hmem with heq | hmem
    · cases heq
      exact ⟨i, hfirst⟩
    · exact ih hrest hmem

/-- A row of an accepted file is `_row_from_csv` of its record. -/
theorem Yields.rowFromCsv (h : Yields rt timezone raw row) (hzone : rt.zoneInfo timezone = .ok tz) :
    rowFromCsv rt timezone tz dedupSourceBluewave raw = .ok row := by
  obtain ⟨csvPath, records, rows, fields, htransform, hmem, hraw⟩ := h
  rw [transform_eq hzone] at htransform
  obtain ⟨j, hrow⟩ := rowsOf_zip htransform hmem
  obtain ⟨raw', hraw', hrow⟩ := rowOfFields_eq_ok.mp hrow
  cases hraw.symm.trans hraw'
  exact hrow

theorem Yields.zone (h : Yields rt timezone raw row) : ∃ tz, rt.zoneInfo timezone = .ok tz := by
  obtain ⟨csvPath, records, rows, fields, htransform, -⟩ := h
  unfold transform at htransform
  split at htransform
  · cases htransform
  · exact ⟨_, ‹_›⟩

end

/-! ## Collisions -/

/-- An event at a door in New York, by the card that opened it. -/
def opened (card : String) : Raw :=
  ⟨"05/01/2026 08:00:00", "Door 1", "Valid Access", "", "7", card, "", "1234"⟩

end Bluewave.Collisions
