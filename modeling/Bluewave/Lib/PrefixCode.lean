import Mathlib.Data.List.Basic

/-! Codes in which no word begins another one, and texts cut at their first mark. -/
namespace Lib

variable {α β : Type}

/-- A text starts with at most one word of the code. -/
def PrefixCode (code : α → List β) : Prop :=
  ∀ a b x y, code a ++ x = code b ++ y → a = b ∧ x = y

/-- It is enough that a reader gets each word back, and the rest of the text. -/
theorem PrefixCode.of_read {code : α → List β} (read : List β → Option (α × List β))
    (h : ∀ a x, read (code a ++ x) = some (a, x)) : PrefixCode code := by
  intro a b x y heq
  have hread := h a x
  rw [heq, h b y] at hread
  cases hread
  exact ⟨rfl, rfl⟩

/-- Words in a row, closed by a mark that starts none of them. -/
theorem PrefixCode.flatMap {code : α → List β} (h : PrefixCode code) {t : β}
    (ht : ∀ a, ∃ c w, code a = c :: w ∧ c ≠ t) {as bs : List α} {x y : List β}
    (heq : as.flatMap code ++ t :: x = bs.flatMap code ++ t :: y) : as = bs ∧ x = y := by
  induction as generalizing bs with
  | nil =>
    cases bs with
    | nil => exact ⟨rfl, (List.cons.inj heq).2⟩
    | cons b bs =>
      obtain ⟨c, w, hb, hne⟩ := ht b
      rw [List.flatMap_cons, hb] at heq
      exact absurd (List.cons.inj heq).1.symm hne
  | cons a as ih =>
    cases bs with
    | nil =>
      obtain ⟨c, w, ha, hne⟩ := ht a
      rw [List.flatMap_cons, ha] at heq
      exact absurd (List.cons.inj heq).1 hne
    | cons b bs =>
      rw [List.flatMap_cons, List.flatMap_cons, List.append_assoc, List.append_assoc] at heq
      obtain ⟨rfl, hrest⟩ := h a b _ _ heq
      obtain ⟨rfl, hxy⟩ := ih hrest
      exact ⟨rfl, hxy⟩

/-- What stands before a mark, and behind it. -/
theorem cut_inj {t : β} {as bs x y : List β} (ha : t ∉ as) (hb : t ∉ bs)
    (heq : as ++ t :: x = bs ++ t :: y) : as = bs ∧ x = y := by
  induction as generalizing bs with
  | nil =>
    cases bs with
    | nil => exact ⟨rfl, (List.cons.inj heq).2⟩
    | cons b bs => exact absurd ((List.cons.inj heq).1 ▸ List.mem_cons_self) hb
  | cons a as ih =>
    cases bs with
    | nil => exact absurd ((List.cons.inj heq).1 ▸ List.mem_cons_self) ha
    | cons b bs =>
      obtain ⟨rfl, hrest⟩ := List.cons.inj heq
      obtain ⟨rfl, hxy⟩ := ih (fun h => ha (List.mem_cons_of_mem _ h))
        (fun h => hb (List.mem_cons_of_mem _ h)) hrest
      exact ⟨rfl, hxy⟩

/-- Lines with their ends, cut off at any place: the complete ones are the first, one for each
end that is there. -/
theorem splitOn_terminated [DecidableEq β] {t : β} {lines : List (List β)} {text : List β}
    (ht : ∀ line ∈ lines, t ∉ line) (h : text <+: lines.flatMap (· ++ [t])) :
    (text.splitOn t).dropLast = lines.take (text.count t) := by
  induction lines generalizing text with
  | nil =>
    obtain rfl := List.prefix_nil.mp h
    rfl
  | cons line lines ih =>
    rw [List.flatMap_cons] at h
    have hline := ht line List.mem_cons_self
    rcases List.prefix_or_prefix_of_prefix h (List.prefix_append _ _) with hcut | ⟨more, rfl⟩
    · rcases List.prefix_concat_iff.mp hcut with rfl | hbefore
      · rw [List.splitOn_append_cons_self_of_not_mem hline]
        simp [List.count_eq_zero.mpr hline]
      · -- the line is not complete
        have hnone : t ∉ text := fun hmem => hline (hbefore.subset hmem)
        rw [List.splitOn_eq_singleton hnone, List.count_eq_zero.mpr hnone]
        rfl
    · have hmore := (List.prefix_append_right_inj _).mp h
      have hrest := ih (fun l hl => ht l (List.mem_cons_of_mem _ hl)) hmore
      rw [List.append_assoc, List.cons_append, List.nil_append,
        List.splitOn_append_cons_self_of_not_mem hline,
        List.dropLast_cons_of_ne_nil (List.splitOn_ne_nil _ _), hrest]
      simp [List.count_eq_zero.mpr hline]

theorem length_le_count [DecidableEq β] (t : β) (lines : List (List β)) :
    lines.length ≤ (lines.flatMap (· ++ [t])).count t := by
  induction lines with
  | nil => exact Nat.zero_le _
  | cons line lines ih =>
    simp only [List.flatMap_cons, List.count_append, List.count_singleton_self, List.length_cons]
    omega

/-- With nothing cut off, all lines are complete. -/
theorem splitOn_lines [DecidableEq β] {t : β} {lines : List (List β)}
    (ht : ∀ line ∈ lines, t ∉ line) :
    ((lines.flatMap (· ++ [t])).splitOn t).dropLast = lines := by
  rw [splitOn_terminated ht (List.prefix_refl _), List.take_of_length_le (length_le_count t lines)]

end Lib
