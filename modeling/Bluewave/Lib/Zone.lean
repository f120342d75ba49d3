import Mathlib.Order.Bounds.Basic
import Mathlib.Algebra.Order.Group.Int

/-! Local time in a zone given by its UTC transitions. A transition repeats the
local times of an interval or skips them, by the difference of its two offsets.
`fold0` is the offset of a local time read with `fold=0`; where these intervals do
not overlap, it leads to the first instant of a local time if there is one. -/
namespace Lib

/-- From `time` on, local time is UTC plus `offset`. -/
structure Transition where
  time : Int
  offset : Int
  deriving DecidableEq

/-- The offset before the first transition, and the transitions in their order. -/
structure Zone where
  base : Int
  transitions : List Transition

namespace Zone

/-- The offset in force at the instant `u`. -/
def offsetFrom (b : Int) : List Transition → Int → Int
  | [], _ => b
  | tr :: ts, u => if u < tr.time then b else offsetFrom tr.offset ts u

/-- The offset of the local time `t`, the earlier one where there is a choice and the
one before the transition where `t` is skipped. -/
def fold0From (b : Int) : List Transition → Int → Int
  | [], _ => b
  | tr :: ts, t => if t < tr.time + max b tr.offset then b else fold0From tr.offset ts t

def toLocal (z : Zone) (u : Int) : Int := u + offsetFrom z.base z.transitions u

def fold0 (z : Zone) (t : Int) : Int := fold0From z.base z.transitions t

/-- The local times each transition repeats or skips, from the first up to the second
component, with the offset before it. -/
def shiftsFrom (b : Int) : List Transition → List (Int × Int × Int)
  | [] => []
  | tr :: ts =>
    (tr.time + min b tr.offset, tr.time + max b tr.offset, b) :: shiftsFrom tr.offset ts

/-- A transition skips the local time `t`. -/
def SkipsFrom (b : Int) : List Transition → Int → Prop
  | [], _ => False
  | tr :: ts, t => (tr.time + b ≤ t ∧ t < tr.time + tr.offset) ∨ SkipsFrom tr.offset ts t

def Skips (z : Zone) (t : Int) : Prop := SkipsFrom z.base z.transitions t

def Shifted (s : Int × Int × Int) (t : Int) : Prop := s.1 ≤ t ∧ t < s.2.1

/-- Transitions in order, no local time affected by two of them. -/
structure RegularFrom (b : Int) (ts : List Transition) : Prop where
  increasing : ts.Pairwise fun x y => x.time < y.time
  disjoint : (shiftsFrom b ts).Pairwise fun s s' => ∀ t, ¬ (Shifted s t ∧ Shifted s' t)

def Regular (z : Zone) : Prop := RegularFrom z.base z.transitions

theorem RegularFrom.tail {b : Int} {tr : Transition} {ts : List Transition}
    (h : RegularFrom b (tr :: ts)) : RegularFrom tr.offset ts :=
  ⟨(List.pairwise_cons.mp h.increasing).2, (List.pairwise_cons.mp h.disjoint).2⟩

section
variable {b t u p : Int} {tr : Transition} {ts : List Transition}

/-- Before all transitions. -/
theorem offsetFrom_of_lt (h : ∀ x ∈ ts, u < x.time) : offsetFrom b ts u = b := by
  cases ts with
  | nil => rfl
  | cons x ts => simp [offsetFrom, h x List.mem_cons_self]

/-- A local time that no later transition falls back over is never reached again. -/
theorem le_local_of_not_shifted (hinc : (tr :: ts).Pairwise fun x y => x.time < y.time)
    (hp : p ≤ tr.time + tr.offset)
    (hdis : ∀ s ∈ shiftsFrom tr.offset ts, ¬ Shifted s (p - 1)) (hu : tr.time ≤ u) :
    p ≤ u + offsetFrom tr.offset ts u := by
  induction ts generalizing tr with
  | nil => simp only [offsetFrom]; omega
  | cons x ts ih =>
    have htime : tr.time < x.time := (List.pairwise_cons.mp hinc).1 x List.mem_cons_self
    simp only [offsetFrom]
    split
    · omega
    · rename_i hux
      have hx := hdis _ List.mem_cons_self
      simp only [Shifted, not_and] at hx
      refine ih (List.pairwise_cons.mp hinc).2 ?_
        (fun s hs => hdis s (List.mem_cons_of_mem _ hs)) (by omega)
      -- falling below `p` at `x` would shift `p - 1`
      by_contra hlt
      have hmin : min tr.offset x.offset ≤ x.offset := min_le_right _ _
      have hmax : tr.offset ≤ max tr.offset x.offset := le_max_left _ _
      have := hx (by omega)
      omega

/-- The first transition skips its local times for good. -/
theorem ne_of_head_skips (h : RegularFrom b (tr :: ts))
    (ht : tr.time + b ≤ t ∧ t < tr.time + tr.offset) (u : Int) :
    u + offsetFrom b (tr :: ts) u ≠ t := by
  intro hu
  have hgap : b < tr.offset := by omega
  have hafter : tr.time ≤ u := by
    by_contra hlt
    simp only [offsetFrom, if_pos (not_le.mp hlt)] at hu
    omega
  have hle : tr.time + tr.offset ≤ u + offsetFrom tr.offset ts u := by
    refine le_local_of_not_shifted h.increasing le_rfl ?_ hafter
    intro s hs hshift
    refine (List.pairwise_cons.mp h.disjoint).1 s hs (tr.time + tr.offset - 1) ⟨⟨?_, ?_⟩, hshift⟩
    · simp only [min_eq_left hgap.le]; omega
    · simp only [max_eq_right hgap.le]; omega
  simp only [offsetFrom, if_neg (not_lt.mpr hafter)] at hu
  omega

/-- Where a local time has instants, `fold0` leads to the first of them. -/
theorem fold0From_isLeast (h : RegularFrom b ts) (hu : u + offsetFrom b ts u = t) :
    IsLeast {v | v + offsetFrom b ts v = t} (t - fold0From b ts t) := by
  induction ts generalizing b u with
  | nil =>
    simp only [offsetFrom, fold0From]
    exact ⟨by simp, fun v hv => by simp only [Set.mem_ofPred_eq] at hv; omega⟩
  | cons tr ts ih =>
    obtain ⟨hhead, hrest⟩ := List.pairwise_cons.mp h.increasing
    have hdis := (List.pairwise_cons.mp h.disjoint).1
    simp only [fold0From]
    split
    · rename_i ht
      -- the instant before the transition that would be `t`
      have hbefore : t < tr.time + b := by
        by_contra hge
        refine ne_of_head_skips h ⟨not_lt.mp hge, ?_⟩ u hu
        rcases le_total tr.offset b with hle | hle
        · rw [max_eq_left hle] at ht; omega
        · rwa [max_eq_right hle] at ht
      refine ⟨?_, ?_⟩
      · simp only [Set.mem_ofPred_eq, offsetFrom]
        rw [if_pos (by omega)]
        omega
      · intro v hv
        simp only [Set.mem_ofPred_eq, offsetFrom] at hv
        split at hv <;> omega
    · rename_i ht
      have hmaxb : b ≤ max b tr.offset := le_max_left _ _
      have hmaxo : tr.offset ≤ max b tr.offset := le_max_right _ _
      -- no instant before the transition has a local time this late
      have hlocal : ∀ v, v + offsetFrom b (tr :: ts) v = t →
          v + offsetFrom tr.offset ts v = t := by
        intro v hv
        simp only [offsetFrom] at hv
        split at hv
        · omega
        · exact hv
      obtain ⟨hmem, hleast⟩ := ih h.tail (hlocal u hu)
      refine ⟨?_, fun v hv => hleast (hlocal v hv)⟩
      have hge : tr.time ≤ t - fold0From tr.offset ts t := by
        by_contra hlt
        have hoff : offsetFrom tr.offset ts (t - fold0From tr.offset ts t) = tr.offset :=
          offsetFrom_of_lt fun x hx => (not_le.mp hlt).trans (hhead x hx)
        simp only [Set.mem_ofPred_eq, hoff] at hmem
        omega
      simp only [Set.mem_ofPred_eq, offsetFrom, if_neg (not_lt.mpr hge)]
      exact hmem

/-- Intervals apart from `[lo, p)` that lie behind a transition into it lie above it. -/
theorem le_of_disjoint {lo : Int} (hinc : (tr :: ts).Pairwise fun x y => x.time < y.time)
    (hlt : lo < p) (hlo : lo ≤ tr.time + tr.offset)
    (hdis : ∀ s ∈ shiftsFrom tr.offset ts, ∀ t, ¬ ((lo ≤ t ∧ t < p) ∧ Shifted s t))
    {s : Int × Int × Int} (hs : s ∈ shiftsFrom tr.offset ts) (hst : Shifted s t) : p ≤ s.1 := by
  induction ts generalizing tr with
  | nil => cases hs
  | cons x ts ih =>
    have htime : tr.time < x.time := (List.pairwise_cons.mp hinc).1 x List.mem_cons_self
    have hmin := min_le_right tr.offset x.offset
    have hmax := le_max_left tr.offset x.offset
    have hx := hdis _ List.mem_cons_self
    simp only [Shifted] at hx
    have habove : tr.offset ≠ x.offset → p ≤ x.time + min tr.offset x.offset := by
      intro hne
      by_contra hbelow
      have hwide : min tr.offset x.offset < max tr.offset x.offset := min_lt_max.mpr hne
      have hpoint := hx (max lo (x.time + min tr.offset x.offset))
      omega
    rcases List.mem_cons.mp hs with rfl | hs
    · refine habove fun he => ?_
      simp only [Shifted, he, min_self, max_self] at hst
      omega
    · refine ih (List.pairwise_cons.mp hinc).2 ?_
        (fun s hs => hdis s (List.mem_cons_of_mem _ hs)) hs
      by_cases hne : tr.offset = x.offset
      · omega
      · have := habove hne
        omega

/-- A shifted local time that is over before the first transition counts from it. -/
theorem offset_of_shifted_early (h : RegularFrom b ts) (hbefore : ∀ x ∈ ts, u < x.time)
    (ht : t < u + b) {s : Int × Int × Int} (hs : s ∈ shiftsFrom b ts) (hst : Shifted s t) :
    s.2.2 = b := by
  induction ts generalizing b u with
  | nil => cases hs
  | cons x ts ih =>
    obtain ⟨hhead, -⟩ := List.pairwise_cons.mp h.increasing
    have hdis := (List.pairwise_cons.mp h.disjoint).1
    have hx := hbefore x List.mem_cons_self
    rcases List.mem_cons.mp hs with rfl | hrest
    · rfl
    · by_cases hne : b = x.offset
      · subst hne
        exact ih h.tail hhead (by omega) hrest
      · have hwide : x.time + min b x.offset < x.time + max b x.offset :=
          Int.add_lt_add_left (min_lt_max.mpr hne) _
        have hle := le_of_disjoint h.increasing hwide (by simp) hdis hrest hst
        have hmax := le_max_left b x.offset
        have := hst.1
        omega

theorem mem_shiftsFrom_of_skips (h : SkipsFrom b ts t) :
    ∃ s ∈ shiftsFrom b ts, Shifted s t := by
  induction ts generalizing b with
  | nil => cases h
  | cons tr ts ih =>
    rcases h with ht | h
    · refine ⟨_, List.mem_cons_self, ?_⟩
      have hgap : b ≤ tr.offset := by omega
      simpa only [Shifted, min_eq_left hgap, max_eq_right hgap] using ht
    · obtain ⟨s, hs, hst⟩ := ih h
      exact ⟨s, List.mem_cons_of_mem _ hs, hst⟩

/-- The local times without an instant are the skipped ones. -/
theorem exists_local_iff (h : RegularFrom b ts) :
    (∃ u, u + offsetFrom b ts u = t) ↔ ¬ SkipsFrom b ts t := by
  induction ts generalizing b with
  | nil => simp only [offsetFrom, SkipsFrom, not_false_eq_true, iff_true]; exact ⟨t - b, by omega⟩
  | cons tr ts ih =>
    obtain ⟨hhead, -⟩ := List.pairwise_cons.mp h.increasing
    have hdis := (List.pairwise_cons.mp h.disjoint).1
    constructor
    · rintro ⟨u, hu⟩ (ht | hskip)
      · exact ne_of_head_skips h ht u hu
      · refine (ih h.tail).mp ⟨u, ?_⟩ hskip
        simp only [offsetFrom] at hu
        split at hu
        · -- an instant before a transition that does not shift `t` has its offset too
          rename_i hlt
          obtain ⟨s, hs, hst⟩ := mem_shiftsFrom_of_skips hskip
          by_cases hne : b = tr.offset
          · rwa [offsetFrom_of_lt fun x hx => hlt.trans (hhead x hx), ← hne]
          · have hwide : tr.time + min b tr.offset < tr.time + max b tr.offset :=
              Int.add_lt_add_left (min_lt_max.mpr hne) _
            have hle := le_of_disjoint h.increasing hwide (by simp) hdis hs hst
            have hmax := le_max_left b tr.offset
            have := hst.1
            omega
        · exact hu
    · intro hnot
      simp only [SkipsFrom, not_or] at hnot
      by_cases ht : t < tr.time + b
      · refine ⟨t - b, ?_⟩
        rw [offsetFrom, if_pos (by omega)]
        omega
      · obtain ⟨u, hu⟩ := (ih h.tail).mpr hnot.2
        refine ⟨u, ?_⟩
        rw [offsetFrom, if_neg, hu]
        intro hlt
        rw [offsetFrom_of_lt fun x hx => hlt.trans (hhead x hx)] at hu
        omega

/-- PEP 495: a repeated or skipped local time has the offset before the transition. -/
theorem fold0From_of_shifted (h : RegularFrom b ts) {s : Int × Int × Int}
    (hs : s ∈ shiftsFrom b ts) (hst : Shifted s t) : fold0From b ts t = s.2.2 := by
  induction ts generalizing b with
  | nil => cases hs
  | cons tr ts ih =>
    obtain ⟨hhead, -⟩ := List.pairwise_cons.mp h.increasing
    have hdis := (List.pairwise_cons.mp h.disjoint).1
    simp only [fold0From]
    rcases List.mem_cons.mp hs with rfl | hrest
    · exact if_pos hst.2
    · split
      · rename_i ht
        by_cases hne : b = tr.offset
        · subst hne
          rw [max_self] at ht
          exact (offset_of_shifted_early h.tail hhead ht hrest hst).symm
        · have hwide : tr.time + min b tr.offset < tr.time + max b tr.offset :=
            Int.add_lt_add_left (min_lt_max.mpr hne) _
          have hle := le_of_disjoint h.increasing hwide (by simp) hdis hrest hst
          have := hst.1
          omega
      · exact ih h.tail hrest

/-- PEP 495: any other local time has the offset in force at its instant. -/
theorem fold0From_of_not_shifted (hinc : ts.Pairwise fun x y => x.time < y.time)
    (hnot : ∀ s ∈ shiftsFrom b ts, ¬ Shifted s t) (hu : u + offsetFrom b ts u = t) :
    fold0From b ts t = offsetFrom b ts u := by
  induction ts generalizing b with
  | nil => rfl
  | cons tr ts ih =>
    have hmaxb := le_max_left b tr.offset
    have hmino := min_le_right b tr.offset
    have hrest : ∀ s ∈ shiftsFrom tr.offset ts, ¬ Shifted s t :=
      fun s hs => hnot s (List.mem_cons_of_mem _ hs)
    have hhead := hnot _ List.mem_cons_self
    simp only [Shifted] at hhead
    simp only [offsetFrom] at hu ⊢
    simp only [fold0From]
    split at hu
    · rename_i hlt
      rw [if_pos (by omega), if_pos hlt]
    · rename_i hge
      have hlate : ¬ t < tr.time + max b tr.offset := by
        intro ht
        have hle : t + 1 ≤ u + offsetFrom tr.offset ts u := by
          refine le_local_of_not_shifted hinc (by omega) ?_ (not_lt.mp hge)
          intro s hs
          rw [Int.add_sub_cancel]
          exact hrest s hs
        omega
      rw [if_neg hlate, if_neg hge]
      exact ih (List.pairwise_cons.mp hinc).2 hrest hu

end

/-- A local time comes back from UTC as itself exactly when it has an instant. -/
theorem toLocal_sub_fold0_iff {z : Zone} (h : z.Regular) (t : Int) :
    z.toLocal (t - z.fold0 t) = t ↔ ∃ u, z.toLocal u = t :=
  ⟨fun hr => ⟨_, hr⟩, fun ⟨_, hu⟩ => (fold0From_isLeast h hu).1⟩

theorem exists_toLocal_iff {z : Zone} (h : z.Regular) (t : Int) :
    (∃ u, z.toLocal u = t) ↔ ¬ z.Skips t :=
  exists_local_iff h

theorem fold0_isLeast {z : Zone} (h : z.Regular) {t u : Int} (hu : z.toLocal u = t) :
    IsLeast {v | z.toLocal v = t} (t - z.fold0 t) :=
  fold0From_isLeast h hu

end Zone

end Lib
