import Mathlib.Tactic.IntervalCases
import Bluewave.Lib.PrefixCode
import Bluewave.Numerals

/-! `datetime` as far as the worker uses it: a naive date and time counts the
microseconds since 1970-01-01 00:00:00 on its own clock, and so does a UTC one. -/
namespace Bluewave.Datetime
open Bluewave.Numerals Bluewave.Auth

/-! ## Calendar -/

def isLeap (y : Nat) : Bool := y % 4 = 0 ∧ (y % 100 ≠ 0 ∨ y % 400 = 0)

def daysInMonth (y m : Nat) : Nat :=
  if m = 2 ∧ isLeap y then 29 else [31, 28, 31, 30, 31, 30, 31, 31, 30, 31, 30, 31].getD (m - 1) 0

def daysBeforeYear (y : Nat) : Nat := (y - 1) * 365 + (y - 1) / 4 - (y - 1) / 100 + (y - 1) / 400

def daysBeforeMonth (y m : Nat) : Nat :=
  [0, 31, 59, 90, 120, 151, 181, 212, 243, 273, 304, 334].getD (m - 1) 0 +
    if 2 < m ∧ isLeap y then 1 else 0

/-- `_ymd2ord`. -/
def ymdToOrd (y m d : Nat) : Nat := daysBeforeYear y + daysBeforeMonth y m + d

/-- `_ord2ymd`. -/
def ordToYmd (ordinal : Nat) : Nat × Nat × Nat :=
  let n := ordinal - 1
  let n400 := n / 146097
  let n := n % 146097
  let n100 := n / 36524
  let n := n % 36524
  let n4 := n / 1461
  let n := n % 1461
  let n1 := n / 365
  let n := n % 365
  let year := n400 * 400 + 1 + n100 * 100 + n4 * 4 + n1
  if n1 = 4 ∨ n100 = 4 then (year - 1, 12, 31)
  else
    let month := (n + 50) / 32
    let month := if daysBeforeMonth year month > n then month - 1 else month
    (year, month, n - daysBeforeMonth year month + 1)

/-! ## Date and time -/

/-- The ordinal of 1970-01-01. -/
def epochOrdinal : Nat := 719163

def microsPerDay : Int := 86400000000

/-- The fields of a date and time. -/
structure Fields where
  year : Nat
  month : Nat
  day : Nat
  hour : Nat
  minute : Nat
  second : Nat
  microsecond : Nat

def Fields.micros (f : Fields) : Int :=
  ((ymdToOrd f.year f.month f.day : Int) - epochOrdinal) * microsPerDay +
    ((f.hour * 60 + f.minute) * 60 + f.second) * 1000000 + f.microsecond

def fields (t : Int) : Fields :=
  let (year, month, day) := ordToYmd (t / microsPerDay + epochOrdinal).toNat
  let micros := (t % microsPerDay).toNat
  let seconds := micros / 1000000
  { year, month, day, hour := seconds / 3600, minute := seconds / 60 % 60, second := seconds % 60
    microsecond := micros % 1000000 }

/-- Between `datetime.min` and `datetime.max`. -/
def InRange (t : Int) : Prop := -62135596800000000 ≤ t ∧ t ≤ 253402300799999999

instance (t : Int) : Decidable (InRange t) := inferInstanceAs (Decidable (_ ∧ _))

/-- `datetime(...)`; `none` is its `ValueError`. -/
def Fields.datetime? (f : Fields) : Option Int :=
  if 1 ≤ f.year ∧ f.year ≤ 9999 ∧ 1 ≤ f.month ∧ f.month ≤ 12 ∧ 1 ≤ f.day ∧
      f.day ≤ daysInMonth f.year f.month ∧ f.hour ≤ 23 ∧ f.minute ≤ 59 ∧ f.second ≤ 59 ∧
      f.microsecond ≤ 999999 then some f.micros
  else none

def pad (width n : Nat) : String :=
  String.ofList (List.replicate (width - (toString n).toList.length) '0') ++ toString n

/-- `datetime.isoformat` of a naive one. -/
def isoformat (t : Int) : String :=
  let f := fields t
  pad 4 f.year ++ "-" ++ pad 2 f.month ++ "-" ++ pad 2 f.day ++ "T" ++ pad 2 f.hour ++ ":" ++
    pad 2 f.minute ++ ":" ++ pad 2 f.second ++
    if f.microsecond = 0 then "" else "." ++ pad 6 f.microsecond

/-! ## strptime -/

/-- An ASCII digit from `lo` to `hi`. -/
def between? (lo hi : Nat) (c : Char) : Option Nat :=
  if 48 + lo ≤ c.toNat ∧ c.toNat ≤ 48 + hi then some (c.toNat - 48) else none

/-- `%m`. -/
def month? : List Char → Option Nat
  | ['1', c] => (between? 0 2 c).map (10 + ·)
  | ['0', c] => between? 1 9 c
  | [c] => between? 1 9 c
  | _ => none

/-- `%d`. Only a second digit may be one of another script. -/
def day? : List Char → Option Nat
  | ['3', c] => (between? 0 1 c).map (30 + ·)
  | ['0', c] => between? 1 9 c
  | [' ', c] => between? 1 9 c
  | [a, c] => do
    let tens ← between? 1 2 a
    let d ← decimal? c
    pure (10 * tens + d)
  | [c] => between? 1 9 c
  | _ => none

/-- `%Y`. -/
def year? : List Char → Option Nat
  | [a, b, c, d] => do
    let ds ← [a, b, c, d].mapM decimal?
    pure (ofDigits ds)
  | _ => none

/-- A tens digit up to `hi` and a digit, or a digit alone. -/
def sexagesimal? (hi : Nat) : List Char → Option Nat
  | [a, c] => do
    let tens ← between? 0 hi a
    let d ← decimal? c
    pure (10 * tens + d)
  | [c] => decimal? c
  | _ => none

/-- `%H`. -/
def hour? : List Char → Option Nat
  | ['2', c] => (between? 0 3 c).map (20 + ·)
  | cs => sexagesimal? 1 cs

/-- `%M`. -/
def minute? : List Char → Option Nat := sexagesimal? 5

/-- `%S`, with the leap seconds that `datetime` then refuses. -/
def second? : List Char → Option Nat
  | ['6', c] => (between? 0 1 c).map (60 + ·)
  | cs => sexagesimal? 5 cs

/-- What stands before and after the first `sep`. -/
def cut? (sep : Char) (s : List Char) : Option (List Char × List Char) :=
  match s.dropWhile (· ≠ sep) with
  | [] => none
  | _ :: rest => some (s.takeWhile (· ≠ sep), rest)

/-- What stands before and after the first run of blanks. -/
def cutBlank? (s : List Char) : Option (List Char × List Char) :=
  match s.dropWhile (! isSpace ·) with
  | [] => none
  | rest => some (s.takeWhile (! isSpace ·), rest.dropWhile isSpace)

def timestampFmt : String := "%m/%d/%Y %H:%M:%S"

/-- `datetime.strptime(value, "%m/%d/%Y %H:%M:%S")`; `none` is its `ValueError`. The
pattern's parts hold none of the separators behind them, so cutting at these is
matching it. -/
def strptime? (value : String) : Option Int := do
  let (month, s) ← cut? '/' value.toList
  let (day, s) ← cut? '/' s
  let (year, s) ← cutBlank? s
  let (hour, s) ← cut? ':' s
  let (minute, second) ← cut? ':' s
  let f : Fields := {
    month := ← month? month, day := ← day? day, year := ← year? year, hour := ← hour? hour
    minute := ← minute? minute, second := ← second? second, microsecond := 0 }
  f.datetime?

example : strptime? "5/ 1/2026\t7:03:09" = some 1777618989000000 := by decide

/-! ## Ranges -/

theorem monthEnd_le {y m d : Nat} (hm : 1 ≤ m) (hm' : m ≤ 12) (hd : d ≤ daysInMonth y m) :
    daysBeforeMonth y m + d ≤ 365 + if isLeap y then 1 else 0 := by
  unfold daysBeforeMonth
  cases hleap : isLeap y with
  | false =>
    simp only [daysInMonth, hleap, Bool.false_eq_true, and_false, if_false] at hd ⊢
    interval_cases m <;> simp at hd ⊢ <;> omega
  | true =>
    simp only [daysInMonth, hleap, and_true, if_true] at hd ⊢
    interval_cases m <;> simp at hd ⊢ <;> omega

theorem ymdToOrd_le {y m d : Nat} (hy : 1 ≤ y) (hy' : y ≤ 9999) (hm : 1 ≤ m) (hm' : m ≤ 12)
    (hd : d ≤ daysInMonth y m) : ymdToOrd y m d ≤ 3652059 := by
  have hmonth := monthEnd_le hm hm' hd
  unfold ymdToOrd daysBeforeYear
  by_cases hlast : y = 9999
  · subst hlast
    have hleap : isLeap 9999 = false := by decide
    rw [hleap] at hmonth
    simp only [Bool.false_eq_true, if_false] at hmonth
    omega
  · have hone : (if isLeap y then 1 else 0) ≤ 1 := by split <;> omega
    omega

/-- A date and time that `datetime` accepts lies in its range. -/
theorem datetime?_inRange {f : Fields} {t : Int} (h : f.datetime? = some t) : InRange t := by
  unfold Fields.datetime? at h
  split at h
  · rename_i hf
    obtain ⟨hy, hy', hm, hm', hd, hd', hh, hmin, hsec, hmicro⟩ := hf
    cases h
    have hord := ymdToOrd_le hy hy' hm hm' hd'
    have hpos : 1 ≤ ymdToOrd f.year f.month f.day := by unfold ymdToOrd; omega
    unfold InRange Fields.micros microsPerDay epochOrdinal
    omega
  · cases h

/-- What `strptime` reads are fields that `datetime` accepts, in whole seconds. -/
theorem strptime?_fields {value : String} {t : Int} (h : strptime? value = some t) :
    ∃ f : Fields, f.datetime? = some t ∧ f.microsecond = 0 := by
  simp only [strptime?, Option.bind_eq_bind, Option.bind_eq_some_iff] at h
  obtain ⟨_, _, _, _, _, _, _, _, _, _, _, _, _, _, _, _, _, _, _, _, _, _, h⟩ := h
  exact ⟨_, h, rfl⟩

theorem strptime?_inRange {value : String} {t : Int} (h : strptime? value = some t) :
    InRange t := by
  obtain ⟨f, hf, -⟩ := strptime?_fields h
  exact datetime?_inRange hf

/-! ## Back from the ordinal -/

/-- The month of the day `n` of the year, from 0: an estimate, put right. -/
def monthOf (y n : Nat) : Nat :=
  let month := (n + 50) / 32
  if daysBeforeMonth y month > n then month - 1 else month

theorem monthOf_spec (y : Nat) {n : Nat} (h : n < 365) :
    monthOf y n ≤ 12 ∧ daysBeforeMonth y (monthOf y n) ≤ n ∧
      n - daysBeforeMonth y (monthOf y n) < 31 := by
  unfold monthOf daysBeforeMonth
  generalize isLeap y = leap
  revert leap n
  decide +kernel

theorem daysBeforeYear_eq (a : Nat) {b c d : Nat} (hb : b ≤ 3) (hc : c ≤ 24) (hd : d ≤ 3) :
    daysBeforeYear (a * 400 + 1 + b * 100 + c * 4 + d) =
      146097 * a + 36524 * b + 1461 * c + 365 * d := by
  unfold daysBeforeYear
  omega

/-- The last day of a leap year. -/
theorem ymdToOrd_lastDay {y : Nat} (h : isLeap y = true) :
    ymdToOrd y 12 31 = daysBeforeYear y + 366 := by
  simp [ymdToOrd, daysBeforeMonth, h]

/-- `_ymd2ord` takes `_ord2ymd` back, which names a month and a day. -/
theorem ordToYmd_spec {n : Nat} (h : 1 ≤ n) :
    ymdToOrd (ordToYmd n).1 (ordToYmd n).2.1 (ordToYmd n).2.2 = n ∧
      (ordToYmd n).2.1 ≤ 12 ∧ (ordToYmd n).2.2 ≤ 31 := by
  obtain ⟨k, rfl⟩ : ∃ k, n = k + 1 := ⟨n - 1, by omega⟩
  -- 400 years, centuries, four years, years and days
  obtain ⟨a, ha⟩ : ∃ a, k / 146097 = a := ⟨_, rfl⟩
  obtain ⟨b, hb⟩ : ∃ b, k % 146097 / 36524 = b := ⟨_, rfl⟩
  obtain ⟨c, hc⟩ : ∃ c, k % 146097 % 36524 / 1461 = c := ⟨_, rfl⟩
  obtain ⟨d, hd⟩ : ∃ d, k % 146097 % 36524 % 1461 / 365 = d := ⟨_, rfl⟩
  obtain ⟨e, he⟩ : ∃ e, k % 146097 % 36524 % 1461 % 365 = e := ⟨_, rfl⟩
  have heq : ordToYmd (k + 1) =
      if d = 4 ∨ b = 4 then (a * 400 + 1 + b * 100 + c * 4 + d - 1, 12, 31)
      else
        let year := a * 400 + 1 + b * 100 + c * 4 + d
        (year, monthOf year e, e - daysBeforeMonth year (monthOf year e) + 1) := by
    subst ha hb hc hd he
    rfl
  have hsum : k = 146097 * a + 36524 * b + 1461 * c + 365 * d + e := by omega
  have hyears : 365 * d + e < 1461 := by omega
  have hcentury : 1461 * c + 365 * d + e < 36524 := by omega
  have hcycle : 36524 * b + 1461 * c + 365 * d + e < 146097 := by omega
  rw [heq]
  split
  · rename_i hlast
    have hleap : isLeap (a * 400 + 1 + b * 100 + c * 4 + d - 1) = true := by
      unfold isLeap
      simp only [decide_eq_true_eq]
      omega
    simp only [ymdToOrd_lastDay hleap]
    refine ⟨?_, le_rfl, le_rfl⟩
    clear ha hb hc hd he heq hleap
    rcases hlast with rfl | rfl
    · have hyear : a * 400 + 1 + b * 100 + c * 4 + 4 - 1 = a * 400 + 1 + b * 100 + c * 4 + 3 := by
        omega
      rw [hyear, daysBeforeYear_eq a (by omega) (by omega) le_rfl]
      omega
    · have hyear : a * 400 + 1 + 4 * 100 + c * 4 + d - 1 = a * 400 + 1 + 3 * 100 + 24 * 4 + 3 := by
        omega
      rw [hyear, daysBeforeYear_eq a le_rfl le_rfl le_rfl]
      omega
  · rename_i hlast
    obtain ⟨hd4, hb4⟩ := not_or.mp hlast
    have hmonth := monthOf_spec (a * 400 + 1 + b * 100 + c * 4 + d) (n := e) (by omega)
    simp only [ymdToOrd]
    rw [daysBeforeYear_eq a (by omega) (by omega) (by omega)]
    omega

theorem ordToYmd_year {n : Nat} (h : 1 ≤ n) (hle : n ≤ 3652059) :
    1 ≤ (ordToYmd n).1 ∧ (ordToYmd n).1 ≤ 9999 := by
  unfold ordToYmd
  dsimp only
  split <;> dsimp only <;> omega

/-- `pad` writes a number in decimal, with zeros before it. -/
theorem pad_toList (width n : Nat) :
    ∃ k, (pad width n).toList = List.replicate k '0' ++ Nat.toDigits 10 n := by
  refine ⟨width - (toString n).toList.length, ?_⟩
  simp [pad]

theorem isDigit_of_mem_pad {width n : Nat} {c : Char} (h : c ∈ (pad width n).toList) :
    c.isDigit = true := by
  obtain ⟨k, hn⟩ := pad_toList width n
  rw [hn, List.mem_append] at h
  rcases h with hzero | hdigit
  · rw [List.eq_of_mem_replicate hzero]
    decide
  · exact Nat.isDigit_of_mem_toDigits (by decide) (by decide) hdigit

theorem not_mem_pad {c : Char} (hc : c.isDigit = false) (width n : Nat) :
    c ∉ (pad width n).toList := by
  intro hmem
  rw [isDigit_of_mem_pad hmem] at hc
  exact Bool.noConfusion hc

end Bluewave.Datetime
