import Mathlib.Logic.Basic

/-! Paths through symbolic links. What is at each place is given by a partial map, and a
path ends at the first place that holds no link. New items that are no links leave every
path where it ended. -/
namespace Lib.Links

variable {κ ι : Type} (link : ι → Option κ) (look : κ → Option ι)

/-- Where the path from `p` ends, over fewer than `n` links. -/
def follow : Nat → κ → Option κ
  | 0, _ => none
  | n + 1, p =>
    match (look p).bind link with
    | some q => follow n q
    | none => some p

/-- What the path from `p` leads to. -/
def resolve (n : Nat) (p : κ) : Option ι := (follow link look n p).bind look

/-- The second map has the items of the first and, elsewhere, only fresh ones. -/
structure Extends (Fresh : ι → Prop) (look look' : κ → Option ι) : Prop where
  keeps : ∀ p i, look p = some i → look' p = some i
  adds : ∀ p i, look p = none → look' p = some i → Fresh i

section
variable {link look} {look' : κ → Option ι} {Fresh : ι → Prop} {n : Nat} {p : κ} {i : ι}

theorem Extends.rfl : Extends Fresh look look :=
  ⟨fun _ _ h => h, fun p i h h' => by rw [h] at h'; cases h'⟩

theorem Extends.bind_link (h : Extends Fresh look look') (hlink : ∀ i, Fresh i → link i = none)
    (p : κ) : (look' p).bind link = (look p).bind link := by
  cases hold : look p with
  | some i => rw [h.keeps p i hold]
  | none =>
    cases hnew : look' p with
    | some i => exact hlink i (h.adds p i hold hnew)
    | none => exact Eq.refl none

theorem Extends.follow_eq (h : Extends Fresh look look') (hlink : ∀ i, Fresh i → link i = none)
    (n : Nat) (p : κ) : follow link look' n p = follow link look n p := by
  induction n generalizing p with
  | zero => exact Eq.refl none
  | succ n ih => simp only [follow, h.bind_link hlink, ih]

/-- A path that led somewhere leads there still. -/
theorem Extends.resolve_keeps (h : Extends Fresh look look')
    (hlink : ∀ i, Fresh i → link i = none) (hi : resolve link look n p = some i) :
    resolve link look' n p = some i := by
  simp only [resolve, h.follow_eq hlink] at hi ⊢
  obtain ⟨q, hq, hi⟩ := Option.bind_eq_some_iff.mp hi
  rw [hq, Option.bind_some]
  exact h.keeps q i hi

/-- A path that led nowhere leads to a fresh item, if anywhere. -/
theorem Extends.fresh_of_resolve (h : Extends Fresh look look')
    (hlink : ∀ i, Fresh i → link i = none) (hnone : resolve link look n p = none)
    (hi : resolve link look' n p = some i) : Fresh i := by
  simp only [resolve, h.follow_eq hlink] at hi hnone
  obtain ⟨q, hq, hi⟩ := Option.bind_eq_some_iff.mp hi
  rw [hq, Option.bind_some] at hnone
  exact h.adds q i hnone hi

/-- What is no link is what its own path leads to. -/
theorem resolve_of_look (hi : look p = some i) (hlink : link i = none) :
    resolve link look (n + 1) p = some i := by
  simp only [resolve, follow, hi, Option.bind_some, hlink]

end

end Lib.Links
