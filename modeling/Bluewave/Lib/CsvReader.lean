import Mathlib.Data.List.Basic

/-! A reader of comma-separated records, fed with the lines of a text: one character at a time,
and one step more at the end of each line. A quoted field goes on over line ends. -/
namespace Lib.CsvReader

/-! ## Lines -/

/-- The lines that are complete, and the one begun, ended by any of `\n`, `\r\n` and `\r` and
with their ends. A line that ends in `\r` is complete when the next character is known. -/
def split : List Char → List Char → List (List Char) × List Char
  | line, [] => ([], line)
  | line, c :: chars =>
    if c = '\n' then ((line ++ [c]) :: (split [] chars).1, (split [] chars).2)
    else if line.getLast? = some '\r' then (line :: (split [c] chars).1, (split [c] chars).2)
    else split (line ++ [c]) chars

/-- The line begun, at the end of the text. -/
def lastLine (line : List Char) : List (List Char) := if line = [] then [] else [line]

def textLines (chars : List Char) : List (List Char) :=
  (split [] chars).1 ++ lastLine (split [] chars).2

theorem split_append (line chars more : List Char) :
    split line (chars ++ more) =
      ((split line chars).1 ++ (split (split line chars).2 more).1,
        (split (split line chars).2 more).2) := by
  induction chars generalizing line with
  | nil => rfl
  | cons c chars ih =>
    simp only [List.cons_append, split, ih]
    split
    · rfl
    · split <;> rfl

/-! ## Records -/

inductive State where
  | startRecord
  | startField
  | inField
  | inQuotedField
  | quoteInQuotedField
  | eatCrnl
  deriving DecidableEq

/-- The field and the record begun. -/
structure Reader where
  state : State
  field : List Char
  fields : List String
  deriving DecidableEq

inductive Error where
  | fieldLimit
  | newline
  deriving DecidableEq

def fieldSizeLimit : Nat := 131072

def Error.text : Error → String
  | .fieldLimit => "field larger than field limit (" ++ toString fieldSizeLimit ++ ")"
  | .newline =>
    "new-line character seen in unquoted field - do you need to open the file with newline=''?"

/-- `parse_reset`. -/
def fresh : Reader := ⟨.startRecord, [], []⟩

/-- `parse_save_field`. -/
def saveField (r : Reader) (state : State) : Reader :=
  ⟨state, [], r.fields ++ [String.ofList r.field]⟩

/-- `parse_add_char`. -/
def addChar (r : Reader) (c : Char) (state : State) : Except Error Reader :=
  if fieldSizeLimit ≤ r.field.length then .error .fieldLimit
  else .ok { r with state, field := r.field ++ [c] }

def isLineEnd (c : Char) : Bool := c = '\n' ∨ c = '\r'

/-- `START_FIELD`, where a record falls through to as well. -/
def startField (r : Reader) (c : Char) : Except Error Reader :=
  if isLineEnd c then .ok (saveField r .eatCrnl)
  else if c = '"' then .ok { r with state := .inQuotedField }
  else if c = ',' then .ok (saveField r .startField)
  else addChar r c .inField

/-- `parse_process_char`. -/
def processChar (r : Reader) (c : Char) : Except Error Reader :=
  match r.state with
  | .startRecord => if isLineEnd c then .ok { r with state := .eatCrnl } else startField r c
  | .startField => startField r c
  | .inField =>
    if isLineEnd c then .ok (saveField r .eatCrnl)
    else if c = ',' then .ok (saveField r .startField)
    else addChar r c .inField
  | .inQuotedField =>
    if c = '"' then .ok { r with state := .quoteInQuotedField } else addChar r c .inQuotedField
  | .quoteInQuotedField =>
    if c = '"' then addChar r c .inQuotedField
    else if c = ',' then .ok (saveField r .startField)
    else if isLineEnd c then .ok (saveField r .eatCrnl)
    else addChar r c .inField
  | .eatCrnl => if isLineEnd c then .ok r else .error .newline

/-- `parse_process_char`, at the `EOL` behind a line. -/
def processEol (r : Reader) : Reader :=
  match r.state with
  | .startRecord => r
  | .inQuotedField => r
  | .eatCrnl => { r with state := .startRecord }
  | .startField | .inField | .quoteInQuotedField => saveField r .startRecord

def processLine (r : Reader) (line : List Char) : Except Error Reader := do
  let r ← line.foldlM processChar r
  pure (processEol r)

/-- The records of the lines, and what ends them: `broken`, if the lines break off there, or an
error of the reader. -/
def records {ε : Type} (broken : Option ε) :
    Reader → List (List Char) → List (List String) × Option (ε ⊕ Error)
  | r, [] =>
    match broken with
    | some e => ([], some (.inl e))
    | none =>
      if r.field ≠ [] ∨ r.state = .inQuotedField then ([(saveField r .startRecord).fields], none)
      else ([], none)
  | r, line :: lines =>
    match processLine r line with
    | .error e => ([], some (.inr e))
    | .ok r' =>
      if r'.state = .startRecord then
        (r'.fields :: (records broken fresh lines).1, (records broken fresh lines).2)
      else records broken r' lines

/-- Lines that break off never end well. -/
theorem records_broken {ε : Type} (e : ε) (r : Reader) (lines : List (List Char)) :
    (records (some e) r lines).2 ≠ none := by
  induction lines generalizing r with
  | nil => simp [records]
  | cons line lines ih =>
    simp only [records]
    cases processLine r line with
    | error e' => simp
    | ok r' =>
      simp only
      split
      · exact ih fresh
      · exact ih r'

example : (records (none : Option Empty) fresh (textLines "a,\"b\"\"c\nd\"\r\n\r\n,e".toList)).1 =
    [["a", "b\"c\nd"], [], ["", "e"]] := by
  decide

end Lib.CsvReader
