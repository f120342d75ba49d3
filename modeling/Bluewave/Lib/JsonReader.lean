import Mathlib.Data.List.Basic

/-! A strict reader of flat JSON objects whose values are strings, and what it makes of the texts
of a writer. Escapes stand for characters of the basic plane only. -/
namespace Lib.JsonReader

/-! ## The reader -/

def hexDigit (c : Char) : Option Nat :=
  if '0' ≤ c ∧ c ≤ '9' then some (c.toNat - 48)
  else if 'a' ≤ c ∧ c ≤ 'f' then some (c.toNat - 87)
  else if 'A' ≤ c ∧ c ≤ 'F' then some (c.toNat - 55)
  else none

/-- Surrogates are no characters. -/
def codePoint (a b c d : Char) : Option Char := do
  let n := 4096 * (← hexDigit a) + 256 * (← hexDigit b) + 16 * (← hexDigit c) + (← hexDigit d)
  if n < 0xd800 ∨ 0xdfff < n then some (Char.ofNat n) else none

/-- The character a two-character escape stands for. -/
def shortEscape : Char → Option Char
  | '"' => some '"'
  | '\\' => some '\\'
  | '/' => some '/'
  | 'b' => some '\x08'
  | 'f' => some '\x0c'
  | 'n' => some '\n'
  | 'r' => some '\r'
  | 't' => some '\t'
  | _ => none

/-- The first character inside a string. -/
def readChar : List Char → Option (Char × List Char)
  | '\\' :: 'u' :: a :: b :: c :: d :: rest => (codePoint a b c d).map (·, rest)
  | '\\' :: c :: rest => (shortEscape c).map (·, rest)
  | c :: rest => if c.toNat < 32 ∨ c = '"' ∨ c = '\\' then none else some (c, rest)
  | [] => none

/-- A string behind its first quote. -/
def readChars : Nat → List Char → Option (List Char × List Char)
  | 0, _ => none
  | _ + 1, '"' :: rest => some ([], rest)
  | n + 1, text => do
    let (c, rest) ← readChar text
    let (cs, rest) ← readChars n rest
    some (c :: cs, rest)

def readString : List Char → Option (String × List Char)
  | '"' :: text => (readChars (text.length + 1) text).map fun p => (String.ofList p.1, p.2)
  | _ => none

def isBlank (c : Char) : Bool := c = ' ' ∨ c = '\t' ∨ c = '\n' ∨ c = '\r'

def skipBlanks (text : List Char) : List Char := text.dropWhile isBlank

/-- What the mark stands before, blanks around it left out. -/
def readMark (mark : Char) (text : List Char) : Option (List Char) :=
  match skipBlanks text with
  | c :: rest => if c = mark then some (skipBlanks rest) else none
  | [] => none

def readMember (text : List Char) : Option ((String × String) × List Char) := do
  let (key, rest) ← readString text
  let (value, rest) ← readString (← readMark ':' rest)
  some ((key, value), rest)

/-- The members up to the brace that ends the text. -/
def readMembers : Nat → List Char → Option (List (String × String))
  | 0, _ => none
  | n + 1, text => do
    let (kv, rest) ← readMember text
    match readMark ',' rest with
    | some rest => return kv :: (← readMembers n rest)
    | none => if (← readMark '\x7d' rest) = [] then some [kv] else none

def readObject (text : List Char) : Option (List (String × String)) := do
  let rest ← readMark '\x7b' text
  match readMark '\x7d' rest with
  | some rest => if rest = [] then some [] else none
  | none => readMembers (rest.length + 1) rest

/-! ## Writers -/

section
variable (code : Char → List Char) (comma colon : List Char)

def string (s : String) : List Char := '"' :: (s.toList.flatMap code ++ ['"'])

def member (kv : String × String) : List Char :=
  string code kv.1 ++ ':' :: (colon ++ string code kv.2)

/-- The members up to the closing brace, with what is written behind commas and colons. -/
def members : List (String × String) → List Char
  | [] => ['\x7d']
  | [kv] => member code colon kv ++ ['\x7d']
  | kv :: kv' :: rest => member code colon kv ++ ',' :: (comma ++ members (kv' :: rest))

def object (payload : List (String × String)) : List Char :=
  '\x7b' :: members code comma colon payload

theorem members_cons (kv : String × String) (payload : List (String × String)) :
    ∃ text, members code comma colon (kv :: payload) = '"' :: text := by
  cases payload <;> exact ⟨_, rfl⟩

theorem length_le_members (payload : List (String × String)) :
    payload.length ≤ (members code comma colon payload).length := by
  induction payload with
  | nil => exact Nat.zero_le _
  | cons kv rest ih =>
    cases rest with
    | nil => simp [members]
    | cons kv' rest =>
      simp only [members, List.length_append, List.length_cons] at ih ⊢
      omega

/-- The reader gets each character back from its code. -/
def Readable : Prop := ∀ c rest, readChar (code c ++ rest) = some (c, rest)

end

section
variable {code : Char → List Char} {comma colon : List Char}

theorem readChar_quote (rest : List Char) : readChar ('"' :: rest) = none := by
  simp [readChar]

theorem readChars_succ {c : Char} {text rest : List Char} (n : Nat)
    (h : readChar text = some (c, rest)) :
    readChars (n + 1) text = (readChars n rest).map fun p => (c :: p.1, p.2) := by
  rw [readChars]
  · simp only [h, Option.bind_eq_bind, Option.bind_some]
    cases readChars n rest <;> rfl
  · rintro rest' rfl
    rw [readChar_quote] at h
    cases h

theorem readChars_flatMap (h : Readable code) (cs rest : List Char) :
    ∀ n, cs.length < n → readChars n (cs.flatMap code ++ '"' :: rest) = some (cs, rest) := by
  induction cs with
  | nil =>
    intro n hn
    obtain ⟨n, rfl⟩ := Nat.exists_eq_succ_of_ne_zero (by omega : n ≠ 0)
    rfl
  | cons c cs ih =>
    intro n hn
    obtain ⟨n, rfl⟩ := Nat.exists_eq_succ_of_ne_zero (by omega : n ≠ 0)
    rw [List.flatMap_cons, List.append_assoc, readChars_succ n (h c _),
      ih n (by simpa using hn)]
    rfl

theorem Readable.ne_nil (h : Readable code) (c : Char) : code c ≠ [] := by
  intro hnil
  have hread := h c []
  rw [hnil] at hread
  cases hread

theorem Readable.length_le (h : Readable code) (cs : List Char) :
    cs.length ≤ (cs.flatMap code).length := by
  induction cs with
  | nil => exact Nat.zero_le _
  | cons c cs ih =>
    have hpos := List.length_pos_of_ne_nil (h.ne_nil c)
    simp only [List.flatMap_cons, List.length_append, List.length_cons]
    omega

theorem readString_string (h : Readable code) (s : String) (rest : List Char) :
    readString (string code s ++ rest) = some (s, rest) := by
  have hle := h.length_le s.toList
  simp only [string, List.cons_append, List.append_assoc, List.nil_append, readString]
  rw [readChars_flatMap h s.toList rest _ (by simp only [List.length_append]; omega)]
  simp

theorem skipBlanks_quote {blanks : List Char} (h : ∀ c ∈ blanks, isBlank c = true)
    (text : List Char) : skipBlanks (blanks ++ '"' :: text) = '"' :: text := by
  rw [skipBlanks, List.dropWhile_append_of_pos h]
  rfl

theorem readMark_self {mark : Char} (h : isBlank mark = false) (text : List Char) :
    readMark mark (mark :: text) = some (skipBlanks text) := by
  simp [readMark, skipBlanks, h]

theorem readMark_ne {mark c : Char} (h : isBlank c = false) (hne : c ≠ mark) (text : List Char) :
    readMark mark (c :: text) = none := by
  simp [readMark, skipBlanks, h, hne]

theorem readMember_member (h : Readable code) (hcolon : ∀ c ∈ colon, isBlank c = true)
    (kv : String × String) (rest : List Char) :
    readMember (member code colon kv ++ rest) = some (kv, rest) := by
  have hmark : readMark ':' (':' :: (colon ++ string code kv.2 ++ rest)) =
      some (string code kv.2 ++ rest) := by
    rw [readMark_self rfl, List.append_assoc, string, List.cons_append, skipBlanks_quote hcolon]
  simp only [readMember, member, List.append_assoc, List.cons_append, Option.bind_eq_bind,
    readString_string h, Option.bind_some]
  rw [← List.append_assoc, hmark]
  simp only [Option.bind_some, readString_string h]

theorem readMembers_members (h : Readable code) (hcomma : ∀ c ∈ comma, isBlank c = true)
    (hcolon : ∀ c ∈ colon, isBlank c = true) (kv : String × String)
    (rest : List (String × String)) : ∀ n, rest.length < n →
      readMembers n (members code comma colon (kv :: rest)) = some (kv :: rest) := by
  induction rest generalizing kv with
  | nil =>
    intro n hn
    obtain ⟨n, rfl⟩ := Nat.exists_eq_succ_of_ne_zero (by omega : n ≠ 0)
    simp only [members, readMembers, readMember_member h hcolon, Option.bind_eq_bind,
      Option.bind_some]
    rw [readMark_ne rfl (by decide), readMark_self rfl]
    rfl
  | cons kv' rest ih =>
    intro n hn
    obtain ⟨n, rfl⟩ := Nat.exists_eq_succ_of_ne_zero (by omega : n ≠ 0)
    obtain ⟨text, htext⟩ := members_cons code comma colon kv' rest
    simp only [members, readMembers, readMember_member h hcolon, Option.bind_eq_bind,
      Option.bind_some]
    rw [readMark_self rfl, htext, skipBlanks_quote hcomma, ← htext]
    simp only [ih kv' n (by simpa using hn), Option.bind_some]
    rfl

/-- What is written is read back. -/
theorem readObject_object (h : Readable code) (hcomma : ∀ c ∈ comma, isBlank c = true)
    (hcolon : ∀ c ∈ colon, isBlank c = true) (payload : List (String × String)) :
    readObject (object code comma colon payload) = some payload := by
  cases payload with
  | nil => rfl
  | cons kv rest =>
    have hlength := length_le_members code comma colon (kv :: rest)
    obtain ⟨text, htext⟩ := members_cons code comma colon kv rest
    have hskip : skipBlanks (members code comma colon (kv :: rest)) =
        members code comma colon (kv :: rest) := by
      rw [htext]
      rfl
    simp only [readObject, object, readMark_self (show isBlank '\x7b' = false from rfl), hskip,
      Option.bind_eq_bind, Option.bind_some]
    rw [show readMark '\x7d' (members code comma colon (kv :: rest)) = none by
      rw [htext]
      exact readMark_ne rfl (by decide) _]
    rw [List.length_cons] at hlength
    exact readMembers_members h hcomma hcolon kv rest _ (by omega)

end

end Lib.JsonReader
