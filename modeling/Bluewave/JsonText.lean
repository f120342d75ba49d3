import Bluewave.Lib.PrefixCode
import Bluewave.Dedup

/-! What `json.dumps` writes can be read back: the end of a string is the first quote
behind no backslash. -/
namespace Bluewave.JsonText
open Lib Bluewave.Dedup

def hexValue (c : Char) : Nat := if c.toNat < 58 then c.toNat - 48 else c.toNat - 87

/-- The character a two-character escape stands for. -/
def unescaped : Char → Char
  | 'n' => '\n'
  | 'r' => '\r'
  | 't' => '\t'
  | 'f' => '\x0c'
  | 'b' => '\x08'
  | c => c

/-- The first character of the inside of a JSON string. -/
def readChar : List Char → Option (Char × List Char)
  | '\\' :: 'u' :: '0' :: '0' :: hi :: lo :: rest =>
    some (Char.ofNat (16 * hexValue hi + hexValue lo), rest)
  | '\\' :: c :: rest => some (unescaped c, rest)
  | c :: rest => some (c, rest)
  | [] => none

theorem hexValue_digits : ∀ n < 32,
    16 * hexValue (Nat.digitChar (n / 16)) + hexValue (Nat.digitChar (n % 16)) = n := by
  decide

theorem readChar_escape (c : Char) (rest : List Char) :
    readChar (escape c ++ rest) = some (c, rest) := by
  unfold escape
  split
  · rfl
  · rfl
  · rfl
  · rfl
  · rfl
  · rfl
  · rfl
  · rename_i hbackslash _ _ _ _ _
    split
    · rename_i hcontrol
      simp only [List.cons_append, List.nil_append, readChar, hexValue_digits _ hcontrol,
        Char.ofNat_toNat]
    · simp only [List.cons_append, List.nil_append]
      unfold readChar
      split
      · rename_i heq
        exact absurd (List.cons.inj heq).1 hbackslash
      · rename_i heq
        exact absurd (List.cons.inj heq).1 hbackslash
      · rename_i heq
        obtain ⟨rfl, rfl⟩ := List.cons.inj heq
        rfl
      · rename_i heq
        cases heq

theorem escape_prefixCode : PrefixCode escape := .of_read readChar readChar_escape

theorem escape_ne_quote (c : Char) : ∃ d w, escape c = d :: w ∧ d ≠ '"' := by
  unfold escape
  split
  case h_8 hquote _ _ _ _ _ _ =>
    split
    · exact ⟨_, _, rfl, by decide⟩
    · exact ⟨_, _, rfl, hquote⟩
  all_goals exact ⟨_, _, rfl, by decide⟩

theorem jsonString_toList (s : String) :
    (jsonString s).toList = '"' :: (s.toList.flatMap escape ++ ['"']) := by
  simp [jsonString]

/-- Two texts that begin with a JSON string each, if they are the same, begin with the
same one. -/
theorem jsonString_append_inj {s t : String} {x y : List Char}
    (h : (jsonString s).toList ++ x = (jsonString t).toList ++ y) : s = t ∧ x = y := by
  simp only [jsonString_toList, List.cons_append, List.append_assoc, List.nil_append,
    List.cons.injEq, true_and] at h
  obtain ⟨hst, hxy⟩ := escape_prefixCode.flatMap escape_ne_quote h
  exact ⟨String.toList_inj.mp hst, hxy⟩

/-! ## Objects -/

/-- The members of a flat object, up to its closing brace. -/
def members : List (String × String) → List Char
  | [] => ['\x7d']
  | [kv] => (jsonString kv.1).toList ++ ':' :: ((jsonString kv.2).toList ++ ['\x7d'])
  | kv :: kv' :: rest =>
    (jsonString kv.1).toList ++ ':' :: ((jsonString kv.2).toList ++ ',' :: members (kv' :: rest))

end Bluewave.JsonText
