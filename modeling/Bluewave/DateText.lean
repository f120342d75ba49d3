import Bluewave.RunHistory

/-! A date as text, there and back. `str` writes a date with leading zeros, and
`strptime` with `%Y-%m-%d` reads it again: four digits for the year, one or two for
month and day, and a calendar check at the end. -/
namespace Bluewave.DateText
open Bluewave.Datetime Bluewave.Numerals Bluewave.Tables Bluewave.RunHistory

/-- `datetime.date(year, month, day)`; `none` is its `ValueError`. -/
def date? (year month day : Nat) : Option Date :=
  if h : (1 ≤ year ∧ year ≤ 9999) ∧ (1 ≤ month ∧ month ≤ 12) ∧
      1 ≤ day ∧ day ≤ daysInMonth year month then
    some
      { ordinal := ymdToOrd year month day
        one_le := by unfold ymdToOrd; omega
        le_max := ymdToOrd_le h.1.1 h.1.2 h.2.1.1 h.2.1.2 h.2.2.2 }
  else none

/-- `datetime.strptime(value, "%Y-%m-%d").date()`; `none` is its `ValueError`. -/
def strptimeDate? (value : String) : Option Date := do
  let (year, s) ← cut? '-' value.toList
  let (month, day) ← cut? '-' s
  date? (← year? year) (← month? month) (← day? day)

example : strptimeDate? "2026-5- 1" = strptimeDate? "2026-05-01" := by decide

/-! ## The calendar -/

/-- The estimate of the month is a month, and the rest of the days fits into it. -/
theorem monthOf_valid (y : Nat) {n : Nat} (h : n < 365) :
    1 ≤ monthOf y n ∧ n - daysBeforeMonth y (monthOf y n) < daysInMonth y (monthOf y n) := by
  unfold monthOf daysBeforeMonth daysInMonth
  generalize isLeap y = leap
  revert leap n
  decide +kernel

/-- `_ord2ymd` names a day of the calendar. -/
theorem ordToYmd_valid {n : Nat} (h : 1 ≤ n) :
    1 ≤ (ordToYmd n).2.1 ∧ 1 ≤ (ordToYmd n).2.2 ∧
      (ordToYmd n).2.2 ≤ daysInMonth (ordToYmd n).1 (ordToYmd n).2.1 := by
  obtain ⟨k, rfl⟩ : ∃ k, n = k + 1 := ⟨n - 1, by omega⟩
  obtain ⟨e, he⟩ : ∃ e, k % 146097 % 36524 % 1461 % 365 = e := ⟨_, rfl⟩
  obtain ⟨year, hyear⟩ : ∃ year, ordToYmd (k + 1) = (year - 1, 12, 31) ∨
      ordToYmd (k + 1) = (year, monthOf year e, e - daysBeforeMonth year (monthOf year e) + 1) := by
    unfold ordToYmd
    simp only [Nat.add_sub_cancel, he]
    split
    · exact ⟨_, .inl rfl⟩
    · exact ⟨_, .inr rfl⟩
  rcases hyear with hlast | hmonth
  · rw [hlast]
    exact ⟨by simp, by simp, le_of_eq rfl⟩
  · obtain ⟨hone, hlt⟩ := monthOf_valid year (n := e) (by omega)
    rw [hmonth]
    exact ⟨hone, by simp, hlt⟩

/-- `date` takes back what `_ord2ymd` gives. -/
theorem date?_ordToYmd (d : Date) :
    date? (ordToYmd d.ordinal).1 (ordToYmd d.ordinal).2.1 (ordToYmd d.ordinal).2.2 = some d := by
  obtain ⟨hord, hmonth, -⟩ := ordToYmd_spec d.one_le
  obtain ⟨hmonth', hday, hday'⟩ := ordToYmd_valid d.one_le
  have hyear := ordToYmd_year d.one_le d.le_max
  rw [date?, dif_pos ⟨hyear, ⟨hmonth', hmonth⟩, hday, hday'⟩]
  cases d
  simp only at hord
  simp only [hord]

/-! ## Digits -/

/-- What `\d` reads of a digit `str` has written. -/
theorem decimal?_digitChar : ∀ d, d < 10 → decimal? (Nat.digitChar d) = some d := by decide

/-- The last digit stands behind the rest, padded to one place less. -/
theorem pad_succ {width n : Nat} (h : 0 < width) :
    (pad (width + 1) n).toList = (pad width (n / 10)).toList ++ [Nat.digitChar (n % 10)] := by
  have hlist (w m : Nat) : (pad w m).toList =
      List.replicate (w - (Nat.toDigits 10 m).length) '0' ++ Nat.toDigits 10 m := by simp [pad]
  rw [hlist, hlist]
  rcases Nat.lt_or_ge n 10 with hlt | hge
  · -- one digit, behind zeros only
    obtain ⟨w, rfl⟩ : ∃ w, width = w + 1 := ⟨width - 1, by omega⟩
    rw [Nat.div_eq_of_lt hlt, Nat.mod_eq_of_lt hlt, Nat.toDigits_of_lt_base hlt, Nat.toDigits_zero,
      ← List.replicate_succ']
    simp
  · rw [Nat.toDigits_of_base_le (by decide) hge, List.length_append, List.length_singleton,
      Nat.add_sub_add_right, List.append_assoc]

theorem pad_one {n : Nat} (h : n < 10) : (pad 1 n).toList = [Nat.digitChar n] := by
  simp [pad, Nat.toDigits_of_lt_base h]

theorem year?_pad {y : Nat} (h : y ≤ 9999) : year? (pad 4 y).toList = some y := by
  have hlast (n : Nat) : decimal? (Nat.digitChar (n % 10)) = some (n % 10) :=
    decimal?_digitChar _ (Nat.mod_lt _ (by decide))
  rw [pad_succ (by decide), pad_succ (by decide), pad_succ (by decide),
    pad_one (n := y / 10 / 10 / 10) (by omega)]
  have hfirst := decimal?_digitChar (y / 10 / 10 / 10) (by omega)
  simp only [List.cons_append, List.nil_append, year?, List.mapM_cons, List.mapM_nil, hfirst, hlast,
    bind, pure, Option.bind]
  refine congrArg some ?_
  simp only [ofDigits, List.foldl_cons, List.foldl_nil]
  omega

theorem month?_pad : ∀ m, m < 13 → 1 ≤ m → month? (pad 2 m).toList = some m := by decide +kernel

theorem day?_pad : ∀ d, d < 32 → 1 ≤ d → day? (pad 2 d).toList = some d := by decide +kernel

theorem cut?_append {sep : Char} {a b : List Char} (h : sep ∉ a) :
    cut? sep (a ++ sep :: b) = some (a, b) := by
  have hne : ∀ c ∈ a, decide (c ≠ sep) = true := fun c hc =>
    decide_eq_true fun he => h (he ▸ hc)
  simp only [cut?, List.dropWhile_append_of_pos hne, List.takeWhile_append_of_pos hne,
    List.dropWhile_cons, List.takeWhile_cons, ne_eq, not_true_eq_false, decide_false,
    Bool.false_eq_true, if_false, List.append_nil]

/-- A date is read back as it was written. -/
theorem strptimeDate?_strDate (d : Date) : strptimeDate? (strDate d) = some d := by
  obtain ⟨-, hmonth, hday⟩ := ordToYmd_spec d.one_le
  obtain ⟨hmonth', hday', -⟩ := ordToYmd_valid d.one_le
  have hdash : ('-').isDigit = false := rfl
  have htext : (strDate d).toList = (pad 4 (ordToYmd d.ordinal).1).toList ++
      '-' :: ((pad 2 (ordToYmd d.ordinal).2.1).toList ++
        '-' :: (pad 2 (ordToYmd d.ordinal).2.2).toList) := by
    simp [strDate]
  rw [strptimeDate?, htext, cut?_append (not_mem_pad hdash 4 _)]
  simp only [bind, Option.bind]
  rw [cut?_append (not_mem_pad hdash 2 _)]
  simp only [year?_pad (ordToYmd_year d.one_le d.le_max).2,
    month?_pad _ (Nat.lt_succ_of_le hmonth) hmonth', day?_pad _ (Nat.lt_succ_of_le hday) hday']
  exact date?_ordToYmd d

end Bluewave.DateText
