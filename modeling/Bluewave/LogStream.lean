import Bluewave.Lib.JsonReader
import Bluewave.LogFormat

/-! What is on stdout once `configure_logging` has been called, which only the tests do: a line for
each record that is logged and can be formatted. The file is read back record by record, wherever
it is cut off: no text of a record ends its line, or begins another one. -/
namespace Bluewave.LogStream
open Lib Lib.JsonReader Bluewave.Exceptions Bluewave.Dedup Bluewave.LogFormat
open Bluewave.JsonText (jsonString_toList)

/-! ## The handler -/

/-- A record with the number of its level. -/
structure Entry (Obj : Type) extends LogRecord Obj where
  levelno : Nat

/-- `Logger.isEnabledFor`, with the level of the root logger. -/
def isEnabledFor (level levelno : Nat) : Bool := 0 < levelno ∧ level ≤ levelno

/-- `StreamHandler.emit`: a record that raises goes to `handleError`, which writes elsewhere. -/
def emit {Obj : Type} (py : Objects Obj) (r : LogRecord Obj) : List Char :=
  match format py r with
  | .ok line => line.toList ++ ['\n']
  | .error _ => []

/-- The stream of the handler that `configure_logging` gives the root logger. `main` never calls
it, and what the worker prints without it is in another format. -/
def stdout {Obj : Type} (py : Objects Obj) (level : Nat) (entries : List (Entry Obj)) : List Char :=
  (entries.filter fun e => isEnabledFor level e.levelno).flatMap fun e => emit py e.toLogRecord

/-! ## The records -/

/-- The members of the object of a record. -/
def payload {Obj : Type} (py : Objects Obj) (r : LogRecord Obj) :
    Except Exn (List (String × String)) := do
  let message ← getMessage py r
  pure [("ts", timestamp r.created), ("level", r.levelname),
    ("event", r.name ++ "." ++ eventWord r.msg),
    ("message", if MentionsCard message then redacted else message)]

/-- What the entries that are written tell. -/
def logged {Obj : Type} (py : Objects Obj) (level : Nat) (entries : List (Entry Obj)) :
    List (List (String × String)) :=
  (entries.filter fun e => isEnabledFor level e.levelno).filterMap fun e =>
    (payload py e.toLogRecord).toOption

/-- The four members of an object, a message that mentions a card replaced. -/
def WellFormed (p : List (String × String)) : Prop :=
  ∃ ts level event message,
    p = [("ts", ts), ("level", level), ("event", event), ("message", message)] ∧
      (message = redacted ∨ ¬ MentionsCard message)

/-- Each line of a text that has its end is read, what stands behind the last one is not. -/
def readLog (text : List Char) : Option (List (List (String × String))) :=
  (text.splitOn '\n').dropLast.mapM readObject

section
variable {Obj : Type} {py : Objects Obj}

theorem format_eq (py : Objects Obj) (r : LogRecord Obj) :
    format py r = (payload py r).map dumps := by
  unfold format payload
  cases getMessage py r <;> rfl

theorem digitChar_hex : ∀ n < 16, hexDigit (Nat.digitChar n) = some n := by
  decide

theorem readable_escape : Readable escape := by
  intro c rest
  unfold escape
  split
  case h_8 hquote hbackslash _ _ _ _ _ =>
    split
    · rename_i hcontrol
      have hhigh := digitChar_hex (c.toNat / 16) (by omega)
      have hlow := digitChar_hex (c.toNat % 16) (by omega)
      have hcode : 4096 * 0 + 256 * 0 + 16 * (c.toNat / 16) + c.toNat % 16 = c.toNat := by omega
      simp only [List.cons_append, List.nil_append, readChar, codePoint, hhigh, hlow,
        show hexDigit '0' = some 0 from rfl, Option.bind_eq_bind, Option.bind_some, hcode]
      rw [if_pos (Or.inl (by omega)), Char.ofNat_toNat]
      rfl
    · rename_i hcontrol
      simp only [List.cons_append, List.nil_append]
      unfold readChar
      split
      · rename_i heq
        exact absurd (List.cons.inj heq).1 hbackslash
      · rename_i heq
        exact absurd (List.cons.inj heq).1 hbackslash
      · rename_i heq
        obtain ⟨rfl, rfl⟩ := List.cons.inj heq
        simpa [hcontrol] using ⟨hquote, hbackslash⟩
      · rename_i heq
        cases heq
  all_goals rfl

theorem newline_notMem_escape (c : Char) : '\n' ∉ escape c := by
  unfold escape
  split
  case h_8 _ _ hnewline _ _ _ _ =>
    split
    · have hdigits : ∀ n < 16, '\n' ≠ Nat.digitChar n := by decide
      simp only [List.mem_cons, List.not_mem_nil, or_false, not_or]
      exact ⟨by decide, by decide, by decide, by decide, hdigits _ (by omega), hdigits _ (by omega)⟩
    · simpa using fun h => hnewline h.symm
  all_goals decide

theorem members_eq (payload : List (String × String)) :
    (", ".intercalate (payload.map fun kv => jsonString kv.1 ++ ": " ++ jsonString kv.2) ++
      "\x7d").toList = members escape [' '] [' '] payload := by
  induction payload with
  | nil => rfl
  | cons kv rest ih =>
    cases rest with
    | nil => simp [members, member, string, jsonString_toList]
    | cons kv' rest =>
      rw [members, ← ih]
      simp [member, string, jsonString_toList]

theorem dumps_toList (payload : List (String × String)) :
    (dumps payload).toList = object escape [' '] [' '] payload := by
  rw [object, ← members_eq]
  simp [dumps]

theorem readObject_dumps (payload : List (String × String)) :
    readObject (dumps payload).toList = some payload := by
  rw [dumps_toList]
  exact readObject_object readable_escape (by simp [isBlank]) (by simp [isBlank]) payload

theorem newline_notMem_string (s : String) : '\n' ∉ string escape s := by
  simp only [string, List.mem_cons, List.mem_append, List.mem_flatMap, List.not_mem_nil, or_false,
    not_or, not_exists, not_and]
  exact ⟨by decide, fun c _ => newline_notMem_escape c, by decide⟩

theorem newline_notMem_member (kv : String × String) : '\n' ∉ member escape [' '] kv := by
  simp only [member, List.mem_append, List.mem_cons, List.not_mem_nil, or_false, not_or]
  exact ⟨newline_notMem_string _, by decide, by decide, newline_notMem_string _⟩

/-- No text of the payload breaks the line. -/
theorem newline_notMem_dumps (payload : List (String × String)) :
    '\n' ∉ (dumps payload).toList := by
  have hmembers : '\n' ∉ members escape [' '] [' '] payload := by
    induction payload with
    | nil => decide
    | cons kv rest ih =>
      cases rest with
      | nil =>
        simp only [members, List.mem_append, List.mem_singleton, not_or]
        exact ⟨newline_notMem_member kv, by decide⟩
      | cons kv' rest =>
        simp only [members, List.mem_append, List.mem_cons, List.not_mem_nil, or_false, not_or]
        exact ⟨newline_notMem_member kv, by decide, by decide, ih⟩
  rw [dumps_toList, object, List.mem_cons, not_or]
  exact ⟨by decide, hmembers⟩

theorem emit_eq (py : Objects Obj) (r : LogRecord Obj) :
    emit py r =
      ((payload py r).toOption.toList.map fun p => (dumps p).toList).flatMap (· ++ ['\n']) := by
  rw [emit, format_eq]
  cases payload py r <;> simp [Except.map, Except.toOption]

theorem stdout_eq (py : Objects Obj) (level : Nat) (entries : List (Entry Obj)) :
    stdout py level entries =
      ((logged py level entries).map fun p => (dumps p).toList).flatMap (· ++ ['\n']) := by
  unfold stdout logged
  induction entries.filter fun e => isEnabledFor level e.levelno with
  | nil => rfl
  | cons e rest ih =>
    rw [List.flatMap_cons, ih, emit_eq]
    cases h : (payload py e.toLogRecord).toOption <;> simp [h]

theorem mapM_readObject (objects : List (List (String × String))) :
    (objects.map fun p => (dumps p).toList).mapM readObject = some objects := by
  induction objects with
  | nil => rfl
  | cons p rest ih =>
    simp only [List.map_cons, List.mapM_cons, readObject_dumps, ih, Option.bind_eq_bind,
      Option.bind_some]
    rfl

theorem newline_notMem_lines (objects : List (List (String × String))) :
    ∀ line ∈ objects.map fun p => (dumps p).toList, '\n' ∉ line := by
  intro line hline
  obtain ⟨p, _, rfl⟩ := List.mem_map.mp hline
  exact newline_notMem_dumps p

theorem mem_logged {level : Nat} {entries : List (Entry Obj)} {p : List (String × String)}
    (h : p ∈ logged py level entries) : WellFormed p := by
  obtain ⟨e, _, hpayload⟩ := List.mem_filterMap.mp h
  unfold payload at hpayload
  cases hmessage : getMessage py e.toLogRecord with
  | error exn =>
    rw [hmessage] at hpayload
    cases hpayload
  | ok message =>
    rw [hmessage] at hpayload
    cases hpayload
    refine ⟨_, _, _, _, rfl, ?_⟩
    split
    · exact Or.inl rfl
    · rename_i hcard
      exact Or.inr hcard

end

/-- Whatever is logged, its text is read back as the records that were written, and a text that
is cut off somewhere as the first of them, one for each line that is complete. -/
theorem readLog_stdout {Obj : Type} (py : Objects Obj) (level : Nat) (entries : List (Entry Obj)) :
    readLog (stdout py level entries) = some (logged py level entries) ∧
    (∀ n, readLog ((stdout py level entries).take n) =
      some ((logged py level entries).take (((stdout py level entries).take n).count '\n'))) ∧
    ∀ p ∈ logged py level entries, WellFormed p := by
  refine ⟨?_, fun n => ?_, fun p hp => mem_logged hp⟩
  · rw [readLog, stdout_eq, splitOn_lines (newline_notMem_lines _), mapM_readObject]
  · have hcut := List.take_prefix n (stdout py level entries)
    generalize (stdout py level entries).take n = text at hcut ⊢
    rw [stdout_eq] at hcut
    rw [readLog, splitOn_terminated (newline_notMem_lines _) hcut, ← List.map_take,
      mapM_readObject]

end Bluewave.LogStream
