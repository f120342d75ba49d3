import Bluewave.Datetime

/-! The canonical `extra_data` and the dedup hash of `dedup.py`. -/
namespace Bluewave.Dedup
open Bluewave.Auth Bluewave.Datetime

/-- What the worker takes from outside Python's own code. -/
structure Platform where
  /-- `hashlib.sha256(s.encode("utf-8")).hexdigest()` -/
  sha256 : String → String
  /-- `%Y` of `strftime`: the C library decides how to pad a year below 1000 -/
  strftimeYear : Nat → String

def dedupSourceBluewave : String := "Bluewave"

def dedupSep : String := "|"

/-! ## extra_data -/

/-- One character of a JSON string, with `ensure_ascii=False`. -/
def escape (c : Char) : List Char :=
  match c with
  | '"' => ['\\', '"']
  | '\\' => ['\\', '\\']
  | '\n' => ['\\', 'n']
  | '\r' => ['\\', 'r']
  | '\t' => ['\\', 't']
  | '\x0c' => ['\\', 'f']
  | '\x08' => ['\\', 'b']
  | c =>
    if c.toNat < 32 then
      ['\\', 'u', '0', '0', Nat.digitChar (c.toNat / 16), Nat.digitChar (c.toNat % 16)]
    else [c]

def jsonString (s : String) : String :=
  "\"" ++ String.ofList (s.toList.flatMap escape) ++ "\""

/-- `json.dumps` of a flat object, without blanks. -/
def jsonObject (payload : List (String × String)) : String :=
  "\x7b" ++ ",".intercalate (payload.map fun kv => jsonString kv.1 ++ ":" ++ jsonString kv.2) ++
    "\x7d"

/-- A key whose value is missing or blank is left out. -/
def payloadEntry (key : String) : Option String → List (String × String)
  | none => []
  | some value => if strip value = "" then [] else [(key, strip value)]

/-- The two keys are in their order already. -/
def canonicalExtraData (cardNumber facilityCode : Option String) : Option String :=
  let payload := payloadEntry "card_number" cardNumber ++
    payloadEntry "facility_code" facilityCode
  if payload = [] then none else some (jsonObject payload)

/-! ## The hash -/

/-- `strftime("%Y-%m-%dT%H:%M:%S.000Z")` of a UTC time. -/
def canonicalTimestampUtc (p : Platform) (ts : Int) : String :=
  let f := fields ts
  p.strftimeYear f.year ++ "-" ++ pad 2 f.month ++ "-" ++ pad 2 f.day ++ "T" ++ pad 2 f.hour ++
    ":" ++ pad 2 f.minute ++ ":" ++ pad 2 f.second ++ ".000Z"

/-- What the hash is taken of. -/
def dedupPayload (p : Platform) (source : String) (timestampUtc : Int)
    (operation instance_ : String) (userId userName extraDataStr : Option String) : String :=
  dedupSep.intercalate
    [source, canonicalTimestampUtc p timestampUtc, operation, instance_, userId.getD "",
      userName.getD "", extraDataStr.getD ""]

def dedupHash (p : Platform) (source : String) (timestampUtc : Int) (operation instance_ : String)
    (userId userName extraDataStr : Option String) : String :=
  p.sha256 (dedupPayload p source timestampUtc operation instance_ userId userName extraDataStr)

example : canonicalExtraData (some " 12\"3 ") none =
    some "\x7b\"card_number\":\"12\\\"3\"\x7d" := by decide

end Bluewave.Dedup
