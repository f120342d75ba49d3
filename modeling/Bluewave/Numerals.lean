import Bluewave.Auth

/-! The decimal digits of Unicode and `int` on a string. The same digits are what
`\d` matches in a pattern over `str`. -/
namespace Bluewave.Numerals
open Bluewave.Auth

/-- The zero of each run of ten decimal digits, Unicode 15.0. -/
def decimalZeros : List Nat :=
  [0x30, 0x660, 0x6f0, 0x7c0, 0x966, 0x9e6, 0xa66, 0xae6, 0xb66, 0xbe6, 0xc66, 0xce6, 0xd66, 0xde6,
    0xe50, 0xed0, 0xf20, 0x1040, 0x1090, 0x17e0, 0x1810, 0x1946, 0x19d0, 0x1a80, 0x1a90, 0x1b50,
    0x1bb0, 0x1c40, 0x1c50, 0xa620, 0xa8d0, 0xa900, 0xa9d0, 0xa9f0, 0xaa50, 0xabf0, 0xff10,
    0x104a0, 0x10d30, 0x11066, 0x110f0, 0x11136, 0x111d0, 0x112f0, 0x11450, 0x114d0, 0x11650,
    0x116c0, 0x11730, 0x118e0, 0x11950, 0x11c50, 0x11d50, 0x11da0, 0x11f50, 0x16a60, 0x16ac0,
    0x16b50, 0x1d7ce, 0x1d7d8, 0x1d7e2, 0x1d7ec, 0x1d7f6, 0x1e140, 0x1e2f0, 0x1e4f0, 0x1e950,
    0x1fbf0]

/-- `unicodedata.decimal(c, None)`. -/
def decimal? (c : Char) : Option Nat :=
  (decimalZeros.find? fun z => z ≤ c.toNat ∧ c.toNat < z + 10).map (c.toNat - ·)

/-- What `int` skips on both sides: fewer controls than `str.strip`. -/
def isIntSpace (c : Char) : Bool := isSpace c ∧ ¬ (28 ≤ c.toNat ∧ c.toNat ≤ 31)

/-- The longest digit string `int` converts. -/
def maxStrDigits : Nat := 4300

/-- Digits with single underscores between them. -/
def digits? : List Char → Option (List Nat)
  | [] => none
  | [c] => (decimal? c).map fun d => [d]
  | c :: '_' :: c' :: cs => do
    let d ← decimal? c
    let ds ← digits? (c' :: cs)
    pure (d :: ds)
  | c :: c' :: cs => do
    let d ← decimal? c
    let ds ← digits? (c' :: cs)
    pure (d :: ds)

def ofDigits (ds : List Nat) : Nat := ds.foldl (fun n d => 10 * n + d) 0

def natural? (cs : List Char) : Option Nat := do
  let ds ← digits? cs
  if ds.length ≤ maxStrDigits then some (ofDigits ds) else none

/-- `int(s)`; `none` is its `ValueError`. -/
def int? (s : String) : Option Int :=
  match ((s.toList.dropWhile isIntSpace).reverse.dropWhile isIntSpace).reverse with
  | '+' :: cs => (natural? cs).map Int.ofNat
  | '-' :: cs => (natural? cs).map fun n => -(n : Int)
  | cs => (natural? cs).map Int.ofNat

example : int? " 0_6\n" = some 6 := by decide

example : int? "1__0" = none := by decide

end Bluewave.Numerals
