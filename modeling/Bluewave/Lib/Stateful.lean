/-! Programs that return or raise over a state. An exception keeps the state it is
raised in. -/
namespace Lib

/-- A program over states in `σ` with exceptions in `ε`. -/
abbrev Stateful (σ ε : Type) := ExceptT ε (StateM σ)

namespace Stateful
variable {σ ε α β : Type}

/-- What a program comes to, and the state after it. -/
def outcome (m : Stateful σ ε α) (s : σ) : Except ε α × σ := m.run.run s

/-- A result that is there already. -/
def lift : Except ε α → Stateful σ ε α
  | .ok a => pure a
  | .error e => throw e

/-- A step of the state, after which something may be raised. -/
def step (f : σ → Option ε × σ) : Stateful σ ε Unit := do
  let s ← get
  set (f s).2
  match (f s).1 with
  | none => pure ()
  | some e => throw e

/-- From `s` the program returns `a` and leaves the state `t`. -/
def Returns (m : Stateful σ ε α) (s : σ) (a : α) (t : σ) : Prop := outcome m s = (.ok a, t)

/-- From `s` the program raises `e` and leaves the state `t`. -/
def Raises (m : Stateful σ ε α) (s : σ) (e : ε) (t : σ) : Prop := outcome m s = (.error e, t)

/-- From no state does it raise anything else. -/
def RaisesOnly (P : ε → Prop) (m : Stateful σ ε α) : Prop := ∀ s e t, Raises m s e t → P e

theorem outcome_bind (m : Stateful σ ε α) (f : α → Stateful σ ε β) (s : σ) :
    outcome (m >>= f) s =
      match outcome m s with
      | (.ok a, t) => outcome (f a) t
      | (.error e, t) => (.error e, t) := by
  simp only [outcome, ExceptT.run_bind, StateT.run_bind]
  rcases m.run.run s with ⟨e | a, t⟩ <;> rfl

theorem outcome_tryCatch (m : Stateful σ ε α) (h : ε → Stateful σ ε α) (s : σ) :
    outcome (MonadExcept.tryCatch m h) s =
      match outcome m s with
      | (.ok a, t) => (.ok a, t)
      | (.error e, t) => outcome (h e) t := by
  simp only [outcome, ExceptT.run_tryCatch, StateT.run_bind]
  rcases m.run.run s with ⟨e | a, t⟩ <;> rfl

theorem outcome_lift (r : Except ε α) (s : σ) : outcome (lift r) s = (r, s) := by
  cases r <;> rfl

theorem outcome_step (f : σ → Option ε × σ) (s : σ) :
    outcome (step f) s =
      match (f s).1 with
      | none => (.ok (), (f s).2)
      | some e => (.error e, (f s).2) := by
  show (outcome (match (f s).1 with
    | none => pure ()
    | some e => throw e) (f s).2 : Except ε Unit × σ) = _
  cases (f s).1 <;> rfl

theorem returns_bind {m : Stateful σ ε α} {f : α → Stateful σ ε β} {s u : σ} {b : β} :
    Returns (m >>= f) s b u ↔ ∃ a t, Returns m s a t ∧ Returns (f a) t b u := by
  unfold Returns
  rw [outcome_bind]
  rcases hm : outcome m s with ⟨e | a, t⟩
  · simp
  · constructor
    · intro h
      exact ⟨a, t, rfl, h⟩
    · intro h
      obtain ⟨a', t', heq, h⟩ := h
      cases heq
      exact h

theorem returns_pure {a b : α} {s t : σ} :
    Returns (pure a : Stateful σ ε α) s b t ↔ b = a ∧ t = s := by
  show ((.ok a, s) : Except ε α × σ) = (.ok b, t) ↔ _
  simp only [Prod.mk.injEq, Except.ok.injEq, eq_comm]

theorem returns_get {a s t : σ} : Returns (get : Stateful σ ε σ) s a t ↔ a = s ∧ t = s := by
  show ((.ok s, s) : Except ε σ × σ) = (.ok a, t) ↔ _
  simp only [Prod.mk.injEq, Except.ok.injEq, eq_comm]

theorem returns_modify {f : σ → σ} {s t : σ} {a : Unit} :
    Returns (modify f : Stateful σ ε Unit) s a t ↔ t = f s := by
  show ((.ok (), f s) : Except ε Unit × σ) = (.ok a, t) ↔ _
  simp only [Prod.mk.injEq, true_and, eq_comm]

theorem returns_step {f : σ → Option ε × σ} {s t : σ} {a : Unit} :
    Returns (step f) s a t ↔ (f s).1 = none ∧ t = (f s).2 := by
  unfold Returns
  rw [outcome_step]
  cases (f s).1 <;> simp [eq_comm]

theorem returns_lift {r : Except ε α} {s t : σ} {a : α} :
    Returns (lift r) s a t ↔ r = .ok a ∧ t = s := by
  unfold Returns
  rw [outcome_lift, Prod.mk.injEq, eq_comm (a := s)]

theorem returns_tryCatch {m : Stateful σ ε α} {h : ε → Stateful σ ε α} {s u : σ} {a : α} :
    Returns (MonadExcept.tryCatch m h) s a u ↔
      Returns m s a u ∨ ∃ e t, Raises m s e t ∧ Returns (h e) t a u := by
  unfold Returns Raises
  rw [outcome_tryCatch]
  rcases hm : outcome m s with ⟨e | b, t⟩
  · constructor
    · intro h
      exact .inr ⟨e, t, rfl, h⟩
    · intro h
      rcases h with h | ⟨e', t', heq, h⟩
      · cases h
      · cases heq
        exact h
  · simp

section
variable {P Q : ε → Prop}

theorem RaisesOnly.bind {m : Stateful σ ε α} {f : α → Stateful σ ε β} (hm : RaisesOnly P m)
    (hf : ∀ a, RaisesOnly P (f a)) : RaisesOnly P (m >>= f) := by
  intro s e u h
  unfold Raises at h
  rw [outcome_bind] at h
  rcases hrun : outcome m s with ⟨e' | a, t⟩ <;> rw [hrun] at h
  · cases h
    exact hm s e u hrun
  · exact hf a t e u h

theorem RaisesOnly.pure (a : α) : RaisesOnly P (Pure.pure a : Stateful σ ε α) := by
  intro s e t h
  cases h

theorem RaisesOnly.get : RaisesOnly P (get : Stateful σ ε σ) := by
  intro s e t h
  cases h

theorem RaisesOnly.modify (f : σ → σ) : RaisesOnly P (modify f : Stateful σ ε Unit) := by
  intro s e t h
  cases h

theorem RaisesOnly.throw {e : ε} (he : P e) :
    RaisesOnly P (MonadExcept.throw e : Stateful σ ε α) := by
  intro s e' t h
  cases h
  exact he

theorem RaisesOnly.lift {r : Except ε α} (hr : ∀ e, r = .error e → P e) :
    RaisesOnly P (lift r : Stateful σ ε α) := by
  intro s e t h
  unfold Raises at h
  rw [outcome_lift] at h
  exact hr e (congrArg Prod.fst h)

theorem RaisesOnly.step {f : σ → Option ε × σ} (hf : ∀ s e, (f s).1 = some e → P e) :
    RaisesOnly P (step f) := by
  intro s e t h
  unfold Raises at h
  rw [outcome_step] at h
  cases hfault : (f s).1 with
  | none => rw [hfault] at h; cases h
  | some e' =>
    rw [hfault] at h
    cases h
    exact hf s e hfault

/-- What a handler is for need not be among what is raised in the end. -/
theorem RaisesOnly.tryCatch {m : Stateful σ ε α} {h : ε → Stateful σ ε α} (hm : RaisesOnly Q m)
    (hh : ∀ e, Q e → RaisesOnly P (h e)) : RaisesOnly P (MonadExcept.tryCatch m h) := by
  intro s e u hraises
  unfold Raises at hraises
  rw [outcome_tryCatch] at hraises
  rcases hrun : outcome m s with ⟨e' | a, t⟩ <;> rw [hrun] at hraises
  · exact hh e' (hm s e' t hrun) t e u hraises
  · cases hraises

end

end Stateful

end Lib
