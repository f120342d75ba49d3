import Mathlib.Data.List.Forall2

/-! What it means for a computation in `Except` to return or to raise, step by step. -/
namespace Lib.Result

variable {α β ε : Type} {x : Except ε α} {f : α → Except ε β} {a a' : α} {b : β} {e : ε}

theorem bind_eq_ok : x >>= f = .ok b ↔ ∃ a, x = .ok a ∧ f a = .ok b := by
  cases x with
  | error e =>
    refine iff_of_false (fun h => by cases h) fun h => ?_
    obtain ⟨a, h, -⟩ := h
    cases h
  | ok a => exact ⟨fun h => ⟨a, rfl, h⟩, fun ⟨_, h, hf⟩ => Except.ok.inj h ▸ hf⟩

theorem bind_eq_error :
    x >>= f = .error e ↔ x = .error e ∨ ∃ a, x = .ok a ∧ f a = .error e := by
  cases x with
  | error e' =>
    constructor
    · intro h
      cases h
      exact .inl rfl
    · intro h
      rcases h with h | ⟨a, h, -⟩
      · cases h
        rfl
      · cases h
  | ok a =>
    constructor
    · intro h
      exact .inr ⟨a, rfl, h⟩
    · intro h
      rcases h with h | ⟨a', h, hf⟩
      · cases h
      · exact Except.ok.inj h ▸ hf

theorem ite_eq_ok {p : Prop} [Decidable p] :
    (if p then Except.ok a else .error e) = .ok a' ↔ p ∧ a' = a := by
  split
  · rename_i hp
    exact ⟨fun h => ⟨hp, (Except.ok.inj h).symm⟩, fun h => by rw [h.2]⟩
  · rename_i hp
    exact iff_of_false (fun h => by cases h) fun h => hp h.1

/-- A `mapM` returns what its calls return. -/
theorem mapM_eq_ok {l : List α} {out : List β} :
    l.mapM f = .ok out ↔ List.Forall₂ (fun a b => f a = .ok b) l out := by
  induction l generalizing out with
  | nil =>
    rw [List.forall₂_nil_left_iff]
    exact ⟨fun h => (Except.ok.inj h).symm, fun h => h ▸ rfl⟩
  | cons a l ih =>
    simp only [List.mapM_cons, bind_eq_ok, ih, List.forall₂_cons_left_iff]
    constructor
    · intro h
      obtain ⟨b, hb, bs, hbs, hout⟩ := h
      exact ⟨b, bs, hb, hbs, (Except.ok.inj hout).symm⟩
    · intro h
      obtain ⟨b, bs, hb, hbs, hout⟩ := h
      exact ⟨b, hb, bs, hbs, hout ▸ rfl⟩

theorem exists_mapM_eq_ok {l : List α} (h : ∀ a ∈ l, ∃ b, f a = .ok b) :
    ∃ out, l.mapM f = .ok out := by
  induction l with
  | nil => exact ⟨[], rfl⟩
  | cons a l ih =>
    obtain ⟨b, hb⟩ := h a List.mem_cons_self
    obtain ⟨out, hout⟩ := ih fun x hx => h x (List.mem_cons_of_mem a hx)
    exact ⟨b :: out, mapM_eq_ok.mpr (.cons hb (mapM_eq_ok.mp hout))⟩

end Lib.Result
