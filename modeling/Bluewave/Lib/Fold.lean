import Mathlib.Data.List.Pairwise
import Bluewave.Lib.Zone

/-! The two readings of a local time. A jump is a transition with the offset before it: it
repeats local times when it goes back and skips some when it goes forward. A local time
below which the clock falls again lies inside the interval of a jump back, and from that
follows all that is said here about instants. -/
namespace Lib

structure Jump where
  time : Int
  before : Int
  after : Int
  deriving DecidableEq

namespace Jump

/-- The first local time that is repeated or skipped. -/
def lo (j : Jump) : Int := j.time + min j.before j.after

/-- The local time at which that is over. -/
def hi (j : Jump) : Int := j.time + max j.before j.after

def Back (j : Jump) : Prop := j.after < j.before

def Forward (j : Jump) : Prop := j.before < j.after

def Shifts (j : Jump) (t : Int) : Prop := j.lo ≤ t ∧ t < j.hi

instance (j : Jump) : Decidable j.Back := inferInstanceAs (Decidable (_ < _))

instance (j : Jump) : Decidable j.Forward := inferInstanceAs (Decidable (_ < _))

instance (j : Jump) (t : Int) : Decidable (j.Shifts t) := inferInstanceAs (Decidable (_ ∧ _))

variable {j : Jump}

theorem Back.lo_eq (h : j.Back) : j.lo = j.time + j.after := by rw [lo, min_eq_right (le_of_lt h)]

theorem Back.hi_eq (h : j.Back) : j.hi = j.time + j.before := by rw [hi, max_eq_left (le_of_lt h)]

theorem Forward.lo_eq (h : j.Forward) : j.lo = j.time + j.before := by
  rw [lo, min_eq_left (le_of_lt h)]

theorem Forward.hi_eq (h : j.Forward) : j.hi = j.time + j.after := by
  rw [hi, max_eq_right (le_of_lt h)]

theorem Back.lt (h : j.Back) : j.lo < j.hi := by
  have hback : j.after < j.before := h
  rw [h.lo_eq, h.hi_eq]
  omega

theorem Forward.not_back (h : j.Forward) : ¬ j.Back := fun hb => lt_asymm h hb

end Jump

namespace Zone

def jumpsFrom (b : Int) : List Transition → List Jump
  | [] => []
  | tr :: ts => ⟨tr.time, b, tr.offset⟩ :: jumpsFrom tr.offset ts

def jumps (z : Zone) : List Jump := jumpsFrom z.base z.transitions

/-- The offset of a local time read with `fold=1`: the one after the transition where it
is repeated or skipped. -/
def fold1 (z : Zone) (t : Int) : Int :=
  match z.jumps.find? fun j => j.Shifts t with
  | some j => j.after
  | none => z.fold0 t

/-- The instant is the second one with its local time. -/
def fold (z : Zone) (u : Int) : Bool := z.toLocal u - z.fold0 (z.toLocal u) ≠ u

theorem shiftsFrom_eq_map (b : Int) (ts : List Transition) :
    shiftsFrom b ts = (jumpsFrom b ts).map fun j => (j.lo, j.hi, j.before) := by
  induction ts generalizing b with
  | nil => rfl
  | cons tr ts ih => rw [shiftsFrom, jumpsFrom, List.map_cons, ih]; rfl

section
variable {b t : Int} {ts : List Transition} {j : Jump}

theorem time_mem_of_mem_jumpsFrom (hj : j ∈ jumpsFrom b ts) : ∃ tr ∈ ts, tr.time = j.time := by
  induction ts generalizing b with
  | nil => cases hj
  | cons tr ts ih =>
    rcases List.mem_cons.mp hj with rfl | hj
    · exact ⟨tr, List.mem_cons_self, rfl⟩
    · obtain ⟨x, hx, htime⟩ := ih hj
      exact ⟨x, List.mem_cons_of_mem _ hx, htime⟩

/-- The offsets in force on the two sides of a jump. -/
theorem offsetFrom_of_jump (h : ts.Pairwise fun x y => x.time < y.time)
    (hj : j ∈ jumpsFrom b ts) :
    offsetFrom b ts j.time = j.after ∧ offsetFrom b ts (j.time - 1) = j.before := by
  induction ts generalizing b with
  | nil => cases hj
  | cons tr ts ih =>
    obtain ⟨hhead, hrest⟩ := List.pairwise_cons.mp h
    simp only [offsetFrom]
    rcases List.mem_cons.mp hj with rfl | hj
    · exact ⟨by rw [if_neg (lt_irrefl _), offsetFrom_of_lt hhead], if_pos (Int.sub_one_lt_of_le le_rfl)⟩
    · obtain ⟨x, hx, htime⟩ := time_mem_of_mem_jumpsFrom hj
      have hlt := hhead x hx
      rw [if_neg (by omega), if_neg (by omega)]
      exact ih hrest hj

/-- The offset changes at jumps only. -/
theorem offsetFrom_succ (b : Int) (ts : List Transition) (u : Int) :
    (∃ j ∈ jumpsFrom b ts, j.time = u + 1) ∨ offsetFrom b ts (u + 1) = offsetFrom b ts u := by
  induction ts generalizing b with
  | nil => exact .inr rfl
  | cons tr ts ih =>
    by_cases hu : tr.time = u + 1
    · exact .inl ⟨_, List.mem_cons_self, hu⟩
    · rcases ih tr.offset with ⟨j, hj, htime⟩ | hsame
      · exact .inl ⟨j, List.mem_cons_of_mem _ hj, htime⟩
      · simp only [offsetFrom]
        by_cases hlt : u < tr.time
        · exact .inr (by rw [if_pos (by omega), if_pos hlt])
        · exact .inr (by rw [if_neg (by omega), if_neg hlt, hsame])

theorem exists_forward_of_skips (h : SkipsFrom b ts t) :
    ∃ j ∈ jumpsFrom b ts, j.Forward ∧ j.Shifts t := by
  induction ts generalizing b with
  | nil => cases h
  | cons tr ts ih =>
    rcases h with ht | h
    · have hforward : Jump.Forward ⟨tr.time, b, tr.offset⟩ := by
        show b < tr.offset
        omega
      exact ⟨_, List.mem_cons_self, hforward, by rw [hforward.lo_eq]; exact ht.1,
        by rw [hforward.hi_eq]; exact ht.2⟩
    · obtain ⟨j, hj, hshift⟩ := ih h
      exact ⟨j, List.mem_cons_of_mem _ hj, hshift⟩

end

section
variable {z : Zone} {t u v : Int} {i j : Jump}

theorem toLocal_jump (h : z.Regular) (hj : j ∈ z.jumps) :
    z.toLocal j.time = j.time + j.after ∧ z.toLocal (j.time - 1) = j.time - 1 + j.before := by
  obtain ⟨hafter, hbefore⟩ := offsetFrom_of_jump h.increasing hj
  exact ⟨by rw [toLocal, hafter], by rw [toLocal, hbefore]⟩

/-- Local time goes on by one, but for jumps. -/
theorem toLocal_succ (h : z.Regular) (u : Int) :
    (∃ j ∈ z.jumps, j.time = u + 1 ∧ z.toLocal u = u + j.before ∧
      z.toLocal (u + 1) = u + 1 + j.after) ∨ z.toLocal (u + 1) = z.toLocal u + 1 := by
  rcases offsetFrom_succ z.base z.transitions u with ⟨j, hj, htime⟩ | hsame
  · obtain ⟨hafter, hbefore⟩ := toLocal_jump h hj
    rw [htime, Int.add_sub_cancel] at hbefore
    rw [htime] at hafter
    exact .inl ⟨j, hj, htime, hbefore, hafter⟩
  · refine .inr ?_
    rw [toLocal, toLocal, hsame]
    omega

/-- One local time is shifted by one jump. -/
theorem jump_eq_of_shifts (h : z.Regular) (hi : i ∈ z.jumps) (hj : j ∈ z.jumps)
    (hit : i.Shifts t) (hjt : j.Shifts t) : i = j := by
  by_contra hne
  have hpairs : z.jumps.Pairwise fun i j => ∀ t, ¬ (i.Shifts t ∧ j.Shifts t) := by
    have hdis := h.disjoint
    rw [shiftsFrom_eq_map, List.pairwise_map] at hdis
    exact hdis
  have : Std.Symm fun i j : Jump => ∀ t, ¬ (i.Shifts t ∧ j.Shifts t) :=
    ⟨fun _ _ hij t ht => hij t ⟨ht.2, ht.1⟩⟩
  exact hpairs.forall hi hj hne t ⟨hit, hjt⟩

/-- A local time that is reached and lost again is in the middle of a jump back. -/
theorem exists_back_of_lt (h : z.Regular) (huv : u ≤ v) (hu : t ≤ z.toLocal u)
    (hv : z.toLocal v < t) :
    ∃ j ∈ z.jumps, j.Back ∧ u < j.time ∧ j.time ≤ v ∧ j.lo < t ∧ t < j.hi := by
  obtain ⟨k, rfl⟩ := Int.le.dest huv
  induction k with
  | zero =>
    rw [Int.natCast_zero, add_zero] at hv
    omega
  | succ k ih =>
    rw [Int.natCast_succ, ← add_assoc] at hv ⊢
    by_cases hk : z.toLocal (u + k) < t
    · obtain ⟨j, hj, hback, hlt, hle, hshift⟩ := ih (by omega) hk
      exact ⟨j, hj, hback, hlt, by omega, hshift⟩
    · -- it is lost in this step
      rcases toLocal_succ h (u + k) with ⟨j, hj, htime, hbefore, hafter⟩ | hsucc
      · have hback : j.Back := by
          show j.after < j.before
          omega
        exact ⟨j, hj, hback, by omega, by omega, by rw [hback.lo_eq]; omega,
          by rw [hback.hi_eq]; omega⟩
      · omega

/-- A local time that comes again is in the interval of a jump back. -/
theorem exists_back_of_le (h : z.Regular) (huv : u < v) (hle : z.toLocal v ≤ z.toLocal u) :
    ∃ j ∈ z.jumps, j.Back ∧ u < j.time ∧ j.time ≤ v ∧ j.Shifts (z.toLocal u) := by
  by_cases hnext : z.toLocal u + 1 ≤ z.toLocal (u + 1)
  · obtain ⟨j, hj, hback, hlt, htime, hlo, hhi⟩ :=
      exists_back_of_lt h (by omega : u + 1 ≤ v) hnext (by omega)
    exact ⟨j, hj, hback, by omega, htime, by omega, by omega⟩
  · rcases toLocal_succ h u with ⟨j, hj, htime, hbefore, hafter⟩ | hsucc
    · have hback : j.Back := by
        show j.after < j.before
        omega
      exact ⟨j, hj, hback, by omega, by omega, by rw [hback.lo_eq]; omega,
        by rw [hback.hi_eq]; omega⟩
    · omega

/-- After a jump back its local times come once more, in their order. -/
theorem toLocal_second_pass (h : z.Regular) (hj : j ∈ z.jumps) (hback : j.Back)
    (hu : j.time ≤ u) (hlt : u + j.after < j.hi) : z.toLocal u = u + j.after := by
  obtain ⟨k, rfl⟩ := Int.le.dest hu
  induction k with
  | zero =>
    rw [Int.natCast_zero, add_zero]
    exact (toLocal_jump h hj).1
  | succ k ih =>
    rw [Int.natCast_succ, ← add_assoc] at hlt ⊢
    have hk := ih (by omega) (by omega)
    rcases toLocal_succ h (j.time + k) with ⟨i, hi, htime, hbefore, hafter⟩ | hsucc
    · -- another jump here would shift a local time of `j`
      rw [hk] at hbefore
      have hlo := hback.lo_eq
      have hne : i ≠ j := by
        intro heq
        rw [heq] at htime
        omega
      rcases lt_trichotomy i.after i.before with hi' | hi' | hi'
      · have hiback : i.Back := hi'
        refine absurd (@jump_eq_of_shifts z (j.time + k + j.after) i j h hi hj ?_ ?_) hne
        · exact ⟨by rw [hiback.lo_eq]; omega, by rw [hiback.hi_eq]; omega⟩
        · exact ⟨by omega, by omega⟩
      · omega
      · have hiforward : i.Forward := hi'
        refine absurd (@jump_eq_of_shifts z (j.time + k + 1 + j.after) i j h hi hj ?_ ?_) hne
        · exact ⟨by rw [hiforward.lo_eq]; omega, by rw [hiforward.hi_eq]; omega⟩
        · exact ⟨by omega, by omega⟩
    · rw [hsucc, hk]
      omega

/-! ## The readings -/

theorem fold0_of_shifts (h : z.Regular) (hj : j ∈ z.jumps) (ht : j.Shifts t) :
    z.fold0 t = j.before := by
  have hmem : (j.lo, j.hi, j.before) ∈ shiftsFrom z.base z.transitions := by
    rw [shiftsFrom_eq_map]
    exact List.mem_map_of_mem hj
  exact fold0From_of_shifted h hmem ht

theorem fold1_of_shifts (h : z.Regular) (hj : j ∈ z.jumps) (ht : j.Shifts t) :
    z.fold1 t = j.after := by
  unfold fold1
  cases hfind : z.jumps.find? fun j => j.Shifts t with
  | none => exact absurd ht (by simpa using List.find?_eq_none.mp hfind j hj)
  | some i =>
    have hit : i.Shifts t := by simpa using List.find?_some hfind
    rw [jump_eq_of_shifts h (List.mem_of_find?_eq_some hfind) hj hit ht]

theorem fold1_of_not_shifts (hnot : ∀ j ∈ z.jumps, ¬ j.Shifts t) : z.fold1 t = z.fold0 t := by
  have hnone : z.jumps.find? (fun j => j.Shifts t) = none :=
    List.find?_eq_none.mpr fun j hj => by simpa using hnot j hj
  rw [fold1, hnone]

theorem fold_eq_true_iff (h : z.Regular) :
    z.fold u = true ↔ ∃ v < u, z.toLocal v = z.toLocal u := by
  obtain ⟨hmem, hleast⟩ := fold0_isLeast h (rfl : z.toLocal u = z.toLocal u)
  simp only [fold, ne_eq, decide_eq_true_eq]
  constructor
  · intro hne
    exact ⟨_, lt_of_le_of_ne (hleast rfl) hne, hmem⟩
  · intro hv heq
    obtain ⟨v, hlt, hlocal⟩ := hv
    have := hleast hlocal
    omega

/-- A local time read with `fold=0` leads to no earlier local time. -/
theorem le_toLocal_fold0 (h : z.Regular) (t : Int) : t ≤ z.toLocal (t - z.fold0 t) := by
  by_cases hex : ∃ u, z.toLocal u = t
  · exact ge_of_eq ((toLocal_sub_fold0_iff h t).mpr hex)
  · rw [exists_toLocal_iff h, not_not] at hex
    obtain ⟨j, hj, hforward, hshift⟩ := exists_forward_of_skips hex
    rw [fold0_of_shifts h hj hshift]
    obtain ⟨hafter, -⟩ := toLocal_jump h hj
    obtain ⟨hlo, hhi⟩ := id hshift
    rw [hforward.lo_eq] at hlo
    rw [hforward.hi_eq] at hhi
    by_contra hlt
    obtain ⟨i, hi, hback, -, -, hilo, hihi⟩ :=
      exists_back_of_lt h (by omega : j.time ≤ t - j.before) (by omega) (not_le.mp hlt)
    have heq := jump_eq_of_shifts h hi hj ⟨hilo.le, hihi⟩ hshift
    exact hforward.not_back (heq ▸ hback)

/-- The reading with `fold=0` is the first instant with a local time as late, if the
local time is not in the middle of a jump back. -/
theorem lt_fold0_of_lt (h : z.Regular)
    (hnot : ∀ j ∈ z.jumps, j.Back → ¬ (j.lo < t ∧ t < j.hi)) (hu : z.toLocal u < t) :
    u < t - z.fold0 t := by
  by_contra hle
  obtain ⟨j, hj, hback, -, -, hshift⟩ :=
    exists_back_of_lt h (not_lt.mp hle) (le_toLocal_fold0 h t) hu
  exact hnot j hj hback hshift

theorem fold0_le (h : z.Regular) (hu : z.toLocal u = t) : t - z.fold0 t ≤ u :=
  (fold0_isLeast h hu).2 hu

/-- Before a jump back no local time is there for the second time. -/
theorem fold_before_back (h : z.Regular) (hj : j ∈ z.jumps) (hback : j.Back) :
    z.fold (j.time - 1) = false := by
  rw [← Bool.not_eq_true, fold_eq_true_iff h]
  intro hv
  obtain ⟨v, hlt, hlocal⟩ := hv
  obtain ⟨i, hi, -, -, htime, hshift⟩ := exists_back_of_le h hlt hlocal.ge
  rw [hlocal, (toLocal_jump h hj).2] at hshift
  have heq : i = j := by
    refine jump_eq_of_shifts h hi hj hshift ⟨?_, ?_⟩
    · have hlt := hback.lt
      rw [hback.hi_eq] at hlt
      omega
    · rw [hback.hi_eq]
      omega
  rw [heq] at htime
  omega

/-- Nor right after a jump forward. -/
theorem fold_after_forward (h : z.Regular) (hj : j ∈ z.jumps) (hforward : j.Forward) :
    z.fold j.time = false := by
  rw [← Bool.not_eq_true, fold_eq_true_iff h]
  intro hv
  obtain ⟨v, hlt, hlocal⟩ := hv
  obtain ⟨hafter, hbefore⟩ := toLocal_jump h hj
  have hlo := hforward.lo_eq
  have hhi := hforward.hi_eq
  have hlohi : j.before < j.after := hforward
  obtain ⟨i, hi, hback, -, -, hilo, hihi⟩ := @exists_back_of_lt z j.lo v (j.time - 1) h
    (by omega) (by omega) (by omega)
  have heq := jump_eq_of_shifts h hi hj ⟨hilo.le, hihi⟩ ⟨le_rfl, by omega⟩
  exact hforward.not_back (heq ▸ hback)

end

end Zone

end Lib
