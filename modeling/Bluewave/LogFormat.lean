import Bluewave.Exceptions
import Bluewave.JsonText

/-! `JsonFormatter`: one JSON object for each log record. A message that mentions a card number
is replaced, the `event` beside it is not. -/
namespace Bluewave.LogFormat
open Bluewave.Exceptions Bluewave.Datetime Bluewave.Dedup Bluewave.JsonText

/-- What `logging` asks of the objects it is given: `str(obj)`, and `template % args`. -/
structure Objects (Obj : Type) where
  str : Obj → String
  percent : String → List Obj → Except Exn String

/-- `LogRecord.msg`. -/
inductive Msg (Obj : Type) where
  | text (template : String)
  | object (obj : Obj)

/-- The attributes of a `LogRecord` that are read here, its creation in microseconds. -/
structure LogRecord (Obj : Type) where
  name : String
  levelname : String
  created : Int
  msg : Msg Obj
  args : List Obj

/-- `LogRecord.getMessage`. -/
def getMessage {Obj : Type} (py : Objects Obj) (r : LogRecord Obj) : Except Exn String :=
  let msg := match r.msg with
    | .text template => template
    | .object obj => py.str obj
  if r.args = [] then .ok msg else py.percent msg r.args

/-- `isoformat(timespec="milliseconds")` of a UTC time, with `Z` for its offset. -/
def timestamp (created : Int) : String :=
  let f := fields created
  pad 4 f.year ++ "-" ++ pad 2 f.month ++ "-" ++ pad 2 f.day ++ "T" ++ pad 2 f.hour ++ ":" ++
    pad 2 f.minute ++ ":" ++ pad 2 f.second ++ "." ++ pad 3 (f.microsecond / 1000) ++ "Z"

/-- What the event is named by: the template up to its first blank. -/
def eventWord {Obj : Type} : Msg Obj → String
  | .text template => String.ofList (template.toList.takeWhile (· ≠ ' '))
  | .object _ => "log"

def redacted : String := "[redacted: payload would have contained card_number]"

/-- `json.dumps(payload, ensure_ascii=False)`. -/
def dumps (payload : List (String × String)) : String :=
  "\x7b" ++ ", ".intercalate (payload.map fun kv => jsonString kv.1 ++ ": " ++ jsonString kv.2) ++
    "\x7d"

def MentionsCard (message : String) : Prop := "card_number".toList <:+: message.toList

instance (message : String) : Decidable (MentionsCard message) :=
  inferInstanceAs (Decidable (_ <:+: _))

/-- `JsonFormatter.format`. -/
def format {Obj : Type} (py : Objects Obj) (r : LogRecord Obj) : Except Exn String := do
  let message ← getMessage py r
  pure (dumps
    [("ts", timestamp r.created), ("level", r.levelname), ("event", r.name ++ "." ++ eventWord r.msg),
      ("message", if MentionsCard message then redacted else message)])

section
variable {Obj : Type} {py : Objects Obj} {r r' : LogRecord Obj} {message message' : String}

/-- The event stands between two texts of the line that do not depend on it. -/
theorem dumps_event (ts level message : String) : ∃ before behind, ∀ event,
    (dumps [("ts", ts), ("level", level), ("event", event), ("message", message)]).toList =
      before ++ ((jsonString event).toList ++ behind) := by
  refine ⟨('\x7b' :: (jsonString "ts" ++ ": " ++ jsonString ts ++ ", " ++ jsonString "level" ++
    ": " ++ jsonString level ++ ", " ++ jsonString "event" ++ ": ").toList),
    (", " ++ jsonString "message" ++ ": " ++ jsonString message ++ "\x7d").toList, fun event => ?_⟩
  simp [dumps]

/-- The line tells its event. -/
theorem dumps_event_inj {ts level message event event' : String}
    (h : dumps [("ts", ts), ("level", level), ("event", event), ("message", message)] =
      dumps [("ts", ts), ("level", level), ("event", event'), ("message", message)]) :
    event = event' := by
  obtain ⟨before, behind, hevent⟩ := dumps_event ts level message
  have htext := congrArg String.toList h
  rw [hevent, hevent] at htext
  exact (jsonString_append_inj (List.append_cancel_left htext)).1

theorem format_redacted (hm : getMessage py r = .ok message) (hc : MentionsCard message) :
    format py r = .ok (dumps [("ts", timestamp r.created), ("level", r.levelname),
      ("event", r.name ++ "." ++ eventWord r.msg), ("message", redacted)]) := by
  simp only [format, hm, bind, Except.bind, if_pos hc, pure, Except.pure]

end

/-- Two records that differ in nothing but what is redacted give the same line exactly when their
events have the same word. -/
theorem format_eq_iff {Obj : Type} (py : Objects Obj) (r r' : LogRecord Obj)
    (message message' : String) (hname : r.name = r'.name) (hlevel : r.levelname = r'.levelname)
    (hcreated : r.created = r'.created) (hm : getMessage py r = .ok message)
    (hm' : getMessage py r' = .ok message') (hc : MentionsCard message)
    (hc' : MentionsCard message') :
    format py r = format py r' ↔ eventWord r.msg = eventWord r'.msg := by
  rw [format_redacted hm hc, format_redacted hm' hc', hname, hlevel, hcreated]
  constructor
  · intro h
    have hchars := congrArg String.toList (dumps_event_inj (Except.ok.inj h))
    simp only [String.toList_append] at hchars
    exact String.toList_inj.mp (List.append_cancel_left hchars)
  · intro h
    rw [h]

/-- Texts only. -/
def plain : Objects Empty where
  str obj := nomatch obj
  percent template _ := .ok template

def sinkRecord (template : String) : LogRecord Empty :=
  ⟨"bluewave.sink", "INFO", 1777636800000000, .text template, []⟩

/-- Card numbers behind a harmless first word stay out of the line. -/
theorem format_eq_iff_inserted :
    format plain (sinkRecord "inserted with card_number=4458") =
        format plain (sinkRecord "inserted with card_number=4459") ↔
      eventWord (sinkRecord "inserted with card_number=4458").msg =
        eventWord (sinkRecord "inserted with card_number=4459").msg :=
  format_eq_iff plain _ _ "inserted with card_number=4458" "inserted with card_number=4459" rfl rfl
    rfl rfl rfl (by decide) (by decide)

/-- A card number in the first word is in the event, and the line tells it. -/
theorem format_ne_cardNumber :
    eventWord (sinkRecord "card_number=4458").msg = "card_number=4458" ∧
      getMessage plain (sinkRecord "card_number=4458") = .ok "card_number=4458" ∧
      getMessage plain (sinkRecord "card_number=4459") = .ok "card_number=4459" ∧
      MentionsCard "card_number=4458" ∧ MentionsCard "card_number=4459" ∧
      format plain (sinkRecord "card_number=4458") ≠
        format plain (sinkRecord "card_number=4459") := by
  have hm : getMessage plain (sinkRecord "card_number=4458") = .ok "card_number=4458" := rfl
  have hm' : getMessage plain (sinkRecord "card_number=4459") = .ok "card_number=4459" := rfl
  have hc : MentionsCard "card_number=4458" := by decide
  have hc' : MentionsCard "card_number=4459" := by decide
  refine ⟨by decide, hm, hm', hc, hc', fun h => ?_⟩
  rw [format_redacted hm hc, format_redacted hm' hc'] at h
  exact absurd (dumps_event_inj (Except.ok.inj h)) (by decide)

end Bluewave.LogFormat
