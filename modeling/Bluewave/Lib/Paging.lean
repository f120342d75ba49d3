import Mathlib.Order.Lattice
import Mathlib.Data.List.Nodup

/-! Pages of a table that is sorted by a key, each page cut from a result of its own. Rows
that share a key may stand in any order in each result. -/
namespace Lib.Paging

variable {α κ : Type} [LinearOrder κ] (key : α → κ)

/-- A result of sorting the table by the key, the greatest first. -/
structure Ordered (table result : List α) : Prop where
  perm : result.Perm table
  sorted : result.Pairwise fun a b => key b ≤ key a

/-- `LIMIT limit OFFSET offset`. -/
def page (limit offset : Nat) (result : List α) : List α := (result.drop offset).take limit

/-- The first `n` pages one after the other, page `k` from result `k`. -/
def pages (limit : Nat) (results : Nat → List α) (n : Nat) : List α :=
  (List.range n).flatMap fun k => page limit (k * limit) (results k)

/-- How many rows of the table come before all rows with this key. -/
def before (table : List α) (x : κ) : Nat := table.countP fun b => x < key b

/-- How many rows come before the first row behind those with this key. -/
def upTo (table : List α) (x : κ) : Nat := table.countP fun b => x ≤ key b

/-- The first and the last of the rows with this key are on one page. -/
def OnOnePage (table : List α) (limit : Nat) (x : κ) : Prop :=
  before key table x / limit = (upTo key table x - 1) / limit

instance (table : List α) (limit : Nat) (x : κ) : Decidable (OnOnePage key table limit x) :=
  inferInstanceAs (Decidable (_ = _))

variable {key} {table result result' : List α} {limit : Nat} {x : κ}

/-- What holds of a first part of a list holds of as many entries as pass it. -/
theorem filter_eq_take {p : α → Bool} (h : result.Pairwise fun a b => p b = true → p a = true) :
    result.filter p = result.take (result.countP p) := by
  induction result with
  | nil => rfl
  | cons a result ih =>
    obtain ⟨hhead, htail⟩ := List.pairwise_cons.mp h
    by_cases ha : p a = true
    · rw [List.filter_cons_of_pos ha, List.countP_cons_of_pos ha, List.take_succ_cons, ih htail]
    · have hnone : ∀ b ∈ result, ¬ p b = true := fun b hb hpb => ha (hhead b hb hpb)
      rw [List.filter_cons_of_neg ha, List.countP_cons_of_neg ha, List.countP_eq_zero.mpr hnone,
        List.take_zero, List.filter_eq_nil_iff]
      exact hnone

theorem Ordered.take_upTo (h : Ordered key table result) (x : κ) :
    result.take (upTo key table x) = result.filter fun b => x ≤ key b := by
  have hcount : upTo key table x = result.countP fun b => x ≤ key b :=
    (h.perm.countP_eq _).symm
  rw [hcount, filter_eq_take]
  refine h.sorted.imp fun {a b} hle hb => ?_
  simp only [decide_eq_true_eq] at hb ⊢
  exact le_trans hb hle

/-- A row of the result stands behind the rows that come before its key, and among those
up to it. -/
theorem Ordered.bounds {l₁ l₂ : List α} {a : α} (h : Ordered key table (l₁ ++ a :: l₂)) :
    before key table (key a) ≤ l₁.length ∧ l₁.length < upTo key table (key a) := by
  obtain ⟨-, htail, hleft⟩ := List.pairwise_append.mp h.sorted
  have hright := (List.pairwise_cons.mp htail).1
  unfold before upTo
  rw [← h.perm.countP_eq, ← h.perm.countP_eq, List.countP_append, List.countP_append]
  constructor
  · have hnone : (a :: l₂).countP (fun b => key a < key b) = 0 := by
      rw [List.countP_eq_zero]
      intro b hb
      rw [decide_eq_true_eq, not_lt]
      rcases List.mem_cons.mp hb with rfl | hb
      · exact le_rfl
      · exact hright b hb
    rw [hnone]
    exact List.countP_le_length
  · have hall : l₁.countP (fun b => key a ≤ key b) = l₁.length := by
      rw [List.countP_eq_length]
      intro b hb
      exact decide_eq_true (hleft b hb a List.mem_cons_self)
    have hself : 0 < (a :: l₂).countP (fun b => key a ≤ key b) :=
      List.countP_pos_iff.mpr ⟨a, List.mem_cons_self, decide_eq_true le_rfl⟩
    omega

/-- The rows with greater keys, with this one and with smaller ones. -/
theorem split_perm (key : α → κ) (table : List α) (x : κ) :
    (table.filter (fun b => x < key b) ++ (table.filter (fun b => key b = x) ++
      table.filter fun b => key b < x)).Perm table := by
  have houter := List.filter_append_perm (fun b => x < key b) table
  have hinner := List.filter_append_perm (fun b => key b = x)
    (table.filter fun b => !decide (x < key b))
  have hequal : table.filter (fun b => decide (key b = x) && !decide (x < key b)) =
      table.filter fun b => key b = x := by
    refine List.filter_congr fun b _ => ?_
    by_cases h : key b = x
    · simp [h]
    · simp [h]
  have hless : table.filter (fun b => !decide (key b = x) && !decide (x < key b)) =
      table.filter fun b => key b < x := by
    refine List.filter_congr fun b _ => ?_
    rcases lt_trichotomy (key b) x with h | h | h
    · simp [h, ne_of_lt h, le_of_lt h]
    · simp [h]
    · simp [h, le_of_lt h]
  rw [List.filter_filter, List.filter_filter, hequal, hless] at hinner
  exact (hinner.append_left _).trans houter

theorem upTo_eq (key : α → κ) (table : List α) (x : κ) :
    upTo key table x = before key table x + (table.filter fun b => key b = x).length := by
  have hgreater : (table.filter fun b => x < key b).countP (fun b => x ≤ key b) =
      (table.filter fun b => x < key b).length :=
    List.countP_eq_length.mpr fun b hb =>
      decide_eq_true (le_of_lt (of_decide_eq_true (List.mem_filter.mp hb).2))
  have hequal : (table.filter fun b => key b = x).countP (fun b => x ≤ key b) =
      (table.filter fun b => key b = x).length :=
    List.countP_eq_length.mpr fun b hb =>
      decide_eq_true (le_of_eq (of_decide_eq_true (List.mem_filter.mp hb).2).symm)
  have hless : (table.filter fun b => key b < x).countP (fun b => x ≤ key b) = 0 :=
    List.countP_eq_zero.mpr fun b hb hle =>
      not_lt_of_ge (of_decide_eq_true hle) (of_decide_eq_true (List.mem_filter.mp hb).2)
  unfold upTo before
  rw [← (split_perm key table x).countP_eq, List.countP_append, List.countP_append, hgreater,
    hequal, hless, Nat.add_zero, List.countP_eq_length_filter]

theorem before_lt_upTo {a : α} (ha : a ∈ table) :
    before key table (key a) < upTo key table (key a) := by
  have hmem : a ∈ table.filter fun b => key b = key a :=
    List.mem_filter.mpr ⟨ha, decide_eq_true rfl⟩
  rw [upTo_eq]
  exact Nat.lt_add_of_pos_right (List.length_pos_of_mem hmem)

/-- The rows of a key are on one page when no page starts between them. -/
theorem onOnePage_iff (hlimit : 0 < limit) {a : α} (ha : a ∈ table) :
    OnOnePage key table limit (key a) ↔
      ∀ k, k * limit ≤ before key table (key a) ∨ upTo key table (key a) ≤ k * limit := by
  have hlt : before key table (key a) < upTo key table (key a) := before_lt_upTo ha
  unfold OnOnePage
  constructor
  · intro h k
    by_contra hstarts
    obtain ⟨hbefore, hupTo⟩ := not_or.mp hstarts
    have hfirst : before key table (key a) / limit < k :=
      (Nat.div_lt_iff_lt_mul hlimit).mpr (by omega)
    have hlast : k ≤ (upTo key table (key a) - 1) / limit :=
      (Nat.le_div_iff_mul_le hlimit).mpr (by omega)
    omega
  · intro h
    have hle : before key table (key a) / limit ≤ (upTo key table (key a) - 1) / limit :=
      Nat.div_le_div_right (by omega)
    refine Nat.le_antisymm hle (Nat.lt_add_one_iff.mp ((Nat.div_lt_iff_lt_mul hlimit).mpr ?_))
    have hnext : before key table (key a) < (before key table (key a) / limit + 1) * limit :=
      (Nat.div_lt_iff_lt_mul hlimit).mp (Nat.lt_succ_self _)
    rcases h (before key table (key a) / limit + 1) with h | h <;> omega

/-- Where no two rows share a key, a page never starts between rows of one key. -/
theorem onOnePage_of_nodup (h : (table.map key).Nodup) {a : α} (ha : a ∈ table) :
    OnOnePage key table limit (key a) := by
  have hall : ∀ b ∈ table.filter (fun b => key b = key a), key b = key a := fun b hb =>
    of_decide_eq_true (List.mem_filter.mp hb).2
  have hone : (table.filter fun b => key b = key a).length ≤ 1 := by
    have hgroup : ((table.filter fun b => key b = key a).map key).Nodup :=
      h.sublist (List.filter_sublist.map key)
    rw [List.map_eq_replicate_iff.mpr hall] at hgroup
    exact List.nodup_replicate.mp hgroup
  have hlt : before key table (key a) < upTo key table (key a) := before_lt_upTo ha
  have hupTo := upTo_eq key table (key a)
  unfold OnOnePage
  congr 1
  omega

/-- No group of rows with one key stands on both sides of this place. -/
def Cut (key : α → κ) (table : List α) (c : Nat) : Prop :=
  ∀ a ∈ table, c ≤ before key table (key a) ∨ upTo key table (key a) ≤ c

/-- Two results hold the same rows before a cut. -/
theorem Ordered.take_perm (h : Ordered key table result) (h' : Ordered key table result') {c : Nat}
    (hcut : Cut key table c) : (result.take c).Perm (result'.take c) := by
  have hlen : result.length = result'.length := h.perm.length_eq.trans h'.perm.length_eq.symm
  by_cases hc : c = 0 ∨ result.length ≤ c
  · rcases hc with rfl | hc
    · rw [List.take_zero, List.take_zero]
    · rw [List.take_of_length_le hc, List.take_of_length_le (hlen ▸ hc)]
      exact h.perm.trans h'.perm.symm
  · obtain ⟨hzero, hlt⟩ := not_or.mp hc
    -- the last row before the cut is the last of its group
    have hlast : c - 1 < result.length := by omega
    have hsplit : result.take (c - 1) ++ result[c - 1] :: result.drop c = result := by
      have hdrop := List.drop_eq_getElem_cons hlast
      rw [Nat.sub_add_cancel (Nat.pos_of_ne_zero hzero)] at hdrop
      rw [← hdrop, List.take_append_drop]
    have hbounds := (hsplit.symm ▸ h : Ordered key table
      (result.take (c - 1) ++ result[c - 1] :: result.drop c)).bounds
    rw [List.length_take] at hbounds
    have hend : upTo key table (key result[c - 1]) = c := by
      rcases hcut _ (h.perm.subset (List.getElem_mem hlast)) with hle | hle <;> omega
    rw [← hend, h.take_upTo, h'.take_upTo]
    exact (h.perm.trans h'.perm.symm).filter _

/-! ## All pages together -/

theorem pages_succ (limit : Nat) (results : Nat → List α) (n : Nat) :
    pages limit results (n + 1) = pages limit results n ++ page limit (n * limit) (results n) := by
  unfold pages
  rw [List.range_succ, List.flatMap_append, List.flatMap_singleton]

theorem take_append_page (limit n : Nat) (result : List α) :
    result.take (n * limit) ++ page limit (n * limit) result = result.take ((n + 1) * limit) := by
  rw [Nat.succ_mul, List.take_add]
  rfl

section
variable {results : Nat → List α} (hresults : ∀ k, Ordered key table (results k))
  (hcut : ∀ k, Cut key table (k * limit))
include hresults hcut

/-- Up to a cut, it does not matter which result a page is from. -/
theorem pages_perm_take (h : Ordered key table result) (n : Nat) :
    (pages limit results n).Perm (result.take (n * limit)) := by
  induction n with
  | zero =>
    rw [Nat.zero_mul, List.take_zero]
    exact .refl _
  | succ n ih =>
    have hsame := h.take_perm (hresults n) (hcut n)
    have hpage := (ih.trans hsame).append_right (page limit (n * limit) (results n))
    rw [take_append_page] at hpage
    rw [pages_succ]
    exact hpage.trans ((hresults n).take_perm h (hcut (n + 1)))

/-- The pages are in order: a later one is behind the rows of the earlier ones. -/
theorem pages_sorted (n : Nat) : (pages limit results n).Pairwise fun a b => key b ≤ key a := by
  induction n with
  | zero => exact .nil
  | succ n ih =>
    have hsorted := (hresults n).sorted
    rw [← List.take_append_drop (n * limit) (results n)] at hsorted
    obtain ⟨-, hdrop, hacross⟩ := List.pairwise_append.mp hsorted
    rw [pages_succ]
    refine List.pairwise_append.mpr ⟨ih, hdrop.sublist (List.take_sublist _ _), ?_⟩
    intro a ha b hb
    have ha' := (pages_perm_take hresults hcut (hresults n) n).subset ha
    exact hacross a ha' b (List.mem_of_mem_take hb)

/-- As many pages as hold the table list it. -/
theorem pages_perm {n : Nat} (hn : table.length ≤ n * limit) :
    (pages limit results n).Perm table := by
  have hlen : (results 0).length ≤ n * limit := (hresults 0).perm.length_eq ▸ hn
  have hpages := pages_perm_take hresults hcut (hresults 0) n
  rw [List.take_of_length_le hlen] at hpages
  exact hpages.trans (hresults 0).perm

end

/-! ## A group on two pages -/

def sort (key : α → κ) (rows : List α) : List α :=
  rows.mergeSort fun a b => key b ≤ key a

theorem sort_sorted (rows : List α) : (sort key rows).Pairwise fun a b => key b ≤ key a := by
  have h : (sort key rows).Pairwise fun a b => decide (key b ≤ key a) = true := by
    refine List.pairwise_mergeSort (fun a b c hab hbc => ?_) (fun a b => ?_) rows
    · simp only [decide_eq_true_eq] at hab hbc ⊢
      exact le_trans hbc hab
    · simp only [Bool.or_eq_true, decide_eq_true_eq]
      exact le_total _ _
  exact h.imp fun hab => of_decide_eq_true hab

/-- The rows with one key may stand in any order between the others. -/
theorem exists_ordered (key : α → κ) (table : List α) (x : κ) :
    ∃ l₁ l₂, l₁.length = before key table x ∧
      ∀ group : List α, group.Perm (table.filter fun b => key b = x) →
        Ordered key table (l₁ ++ (group ++ l₂)) := by
  refine ⟨sort key (table.filter fun b => x < key b),
    sort key (table.filter fun b => key b < x), ?_, fun group h => ⟨?_, ?_⟩⟩
  · rw [sort, List.length_mergeSort, before, List.countP_eq_length_filter]
  · exact ((List.mergeSort_perm _ _).append (h.append (List.mergeSort_perm _ _))).trans
      (split_perm key table x)
  · have hgroup : ∀ b ∈ group, key b = x := fun b hb =>
      of_decide_eq_true (List.mem_filter.mp (h.subset hb)).2
    have hgreater : ∀ b ∈ sort key (table.filter fun b => x < key b), x < key b :=
      fun b hb => of_decide_eq_true (List.mem_filter.mp (List.mem_mergeSort.mp hb)).2
    have hless : ∀ b ∈ sort key (table.filter fun b => key b < x), key b < x :=
      fun b hb => of_decide_eq_true (List.mem_filter.mp (List.mem_mergeSort.mp hb)).2
    refine List.pairwise_append.mpr ⟨sort_sorted _, List.pairwise_append.mpr
      ⟨?_, sort_sorted _, ?_⟩, ?_⟩
    · exact List.pairwise_of_forall_mem_list fun a ha b hb => by rw [hgroup a ha, hgroup b hb]
    · intro a ha b hb
      rw [hgroup a ha]
      exact le_of_lt (hless b hb)
    · intro a ha b hb
      rcases List.mem_append.mp hb with hb | hb
      · rw [hgroup b hb]
        exact le_of_lt (hgreater a ha)
      · exact le_of_lt (lt_trans (hless b hb) (hgreater a ha))

section
variable {b : α} {l₁ l₂ : List α} {c : Nat}

theorem length_lt_of_mem_take (hnodup : (l₁ ++ b :: l₂).Nodup)
    (h : b ∈ (l₁ ++ b :: l₂).take c) : l₁.length < c := by
  by_contra hle
  rw [List.take_append_of_le_length (by omega)] at h
  exact (List.nodup_cons.mp (List.nodup_middle.mp hnodup)).1
    (List.mem_append_left _ (List.mem_of_mem_take h))

theorem le_length_of_mem_drop (hnodup : (l₁ ++ b :: l₂).Nodup)
    (h : b ∈ (l₁ ++ b :: l₂).drop c) : c ≤ l₁.length := by
  by_contra hlt
  obtain ⟨j, rfl⟩ : ∃ j, c = l₁.length + (j + 1) := ⟨c - l₁.length - 1, by omega⟩
  rw [List.drop_length_add_append, List.drop_succ_cons] at h
  exact (List.nodup_cons.mp (List.nodup_middle.mp hnodup)).1
    (List.mem_append_right _ (List.mem_of_mem_drop h))

end

/-- A row is on no page when it stands behind the start of page `k` in the results of the pages
before that one, and in front of it in all others. -/
theorem not_mem_pages {results : Nat → List α} {b : α} (k : Nat)
    (hearly : ∀ j, j < k → b ∉ (results j).take (k * limit))
    (hlate : ∀ j, k ≤ j → b ∉ (results j).drop (k * limit)) (n : Nat) :
    b ∉ pages limit results n := by
  intro hpages
  obtain ⟨j, -, hpage⟩ := List.mem_flatMap.mp hpages
  by_cases hj : j < k
  · have htake : b ∈ (results j).take ((j + 1) * limit) := by
      rw [← take_append_page]
      exact List.mem_append_right _ hpage
    exact hearly j hj ((List.take_prefix_take_left (Nat.mul_le_mul_right _ hj)).subset htake)
  · have hle : k * limit ≤ j * limit := Nat.mul_le_mul_right _ (Nat.le_of_not_lt hj)
    exact hlate j (Nat.le_of_not_lt hj)
      ((List.drop_suffix_drop_left _ hle).subset (List.mem_of_mem_take hpage))

/-- A group on two pages can lose a row: each result puts it on the side of the other page. -/
theorem exists_missing (hnodup : table.Nodup) (hlimit : 0 < limit) {a : α} (ha : a ∈ table)
    (h : ¬ OnOnePage key table limit (key a)) :
    ∃ results : Nat → List α, (∀ k, Ordered key table (results k)) ∧
      ∃ b ∈ table, ∀ n, b ∉ pages limit results n := by
  obtain ⟨group, hgroup⟩ : ∃ group, table.filter (fun b => key b = key a) = group :=
    ⟨_, rfl⟩
  have hmem : a ∈ group := hgroup ▸ List.mem_filter.mpr ⟨ha, decide_eq_true rfl⟩
  obtain ⟨front, b, hfront⟩ : ∃ front b, group = front ++ [b] :=
    ⟨_, _, (List.dropLast_append_getLast (List.ne_nil_of_mem hmem)).symm⟩
  have hb : b ∈ table := by
    have hbgroup : b ∈ group := by simp [hfront]
    rw [← hgroup] at hbgroup
    exact (List.mem_filter.mp hbgroup).1
  have hupTo : upTo key table (key a) = before key table (key a) + (front.length + 1) := by
    rw [upTo_eq, hgroup, hfront, List.length_append, List.length_singleton]
  -- a page starts between the first and the last row of the group
  obtain ⟨k, hstarts⟩ := not_forall.mp (mt (onOnePage_iff hlimit ha).mpr h)
  obtain ⟨hbefore, hafter⟩ := not_or.mp hstarts
  obtain ⟨l₁, l₂, hl₁, hordered⟩ := exists_ordered key table (key a)
  rw [hgroup, hfront] at hordered
  have hlast := hordered (front ++ [b]) (.refl _)
  have hfirst := hordered ([b] ++ front) List.perm_append_comm
  have hlastEq : l₁ ++ (front ++ [b] ++ l₂) = (l₁ ++ front) ++ b :: l₂ := by simp
  have hfirstEq : l₁ ++ ([b] ++ front ++ l₂) = l₁ ++ b :: (front ++ l₂) := by simp
  rw [hlastEq] at hlast
  rw [hfirstEq] at hfirst
  refine ⟨fun j => if j < k then (l₁ ++ front) ++ b :: l₂ else l₁ ++ b :: (front ++ l₂),
    fun j => ?_, b, hb, not_mem_pages k (fun j hj htake => ?_) (fun j hj hdrop => ?_)⟩
  · dsimp only
    split
    · exact hlast
    · exact hfirst
  · rw [if_pos hj] at htake
    have hlt := length_lt_of_mem_take (hlast.perm.nodup_iff.mpr hnodup) htake
    rw [List.length_append] at hlt
    omega
  · rw [if_neg (Nat.not_lt_of_le hj)] at hdrop
    have hle := le_length_of_mem_drop (hfirst.perm.nodup_iff.mpr hnodup) hdrop
    omega

end Lib.Paging
