/-! Labelled relations, what a run of one shows, and forward simulation: where every
step of one relation is answered by a run of another with the same labels, every run is. -/
namespace Lib

variable {S T O : Type}

/-- A run and the labels it shows; a step with no label is silent. -/
inductive Shows (move : S → Option O → S → Prop) : S → List O → S → Prop where
  | done (s : S) : Shows move s [] s
  | step {s t u : S} {o : Option O} {os : List O} :
      move s o t → Shows move t os u → Shows move s (o.toList ++ os) u

section
variable {move : S → Option O → S → Prop} {s t u : S} {o : Option O} {os os' : List O}

theorem Shows.single (h : move s o t) : Shows move s o.toList t :=
  (List.append_nil o.toList) ▸ .step h (.done t)

theorem Shows.append (h : Shows move s os t) (h' : Shows move t os' u) :
    Shows move s (os ++ os') u := by
  induction h with
  | done => exact h'
  | step hmove _ ih =>
    rw [List.append_assoc]
    exact .step hmove (ih h')

/-- What holds of a state and the labels before it, and is kept by every step, holds along
a run. -/
theorem Shows.history {I : List O → S → Prop} (h : Shows move s os t) {past : List O}
    (hs : I past s) (hstep : ∀ past s o t, I past s → move s o t → I (past ++ o.toList) t) :
    I (past ++ os) t := by
  induction h generalizing past with
  | done => simpa using hs
  | step hmove _ ih =>
    rw [← List.append_assoc]
    exact ih (hstep _ _ _ _ hs hmove)

/-- A label of a run is shown by one of its steps, after the labels before it. -/
theorem Shows.split {past later : List O} {label : O}
    (h : Shows move s (past ++ label :: later) u) :
    ∃ t t', Shows move s past t ∧ move t (some label) t' ∧ Shows move t' later u := by
  generalize hos : past ++ label :: later = os at h
  induction h generalizing past with
  | done => cases past <;> cases hos
  | @step s t u o os hmove hrest ih =>
    cases o with
    | none =>
      obtain ⟨v, v', hpast, hlabel, hlater⟩ := ih hos
      exact ⟨v, v', .step hmove hpast, hlabel, hlater⟩
    | some first =>
      cases past with
      | nil =>
        cases hos
        exact ⟨s, t, .done s, hmove, hrest⟩
      | cons head past =>
        cases hos
        obtain ⟨v, v', hpast, hlabel, hlater⟩ := ih rfl
        exact ⟨v, v', .step hmove hpast, hlabel, hlater⟩

end

/-- Every step from a related state is answered by a run that shows the same and ends in a
related state. -/
def Simulates (conc : S → Option O → S → Prop) (abs : T → Option O → T → Prop)
    (R : S → T → Prop) : Prop :=
  ∀ s t o s', R s t → conc s o s' → ∃ t', Shows abs t o.toList t' ∧ R s' t'

/-- A simulated run shows what some run of the other relation shows. -/
theorem Simulates.shows {conc : S → Option O → S → Prop} {abs : T → Option O → T → Prop}
    {R : S → T → Prop} (hsim : Simulates conc abs R) {s s' : S} {t : T} {os : List O}
    (hR : R s t) (h : Shows conc s os s') : ∃ t', Shows abs t os t' ∧ R s' t' := by
  induction h generalizing t with
  | done => exact ⟨t, .done t, hR⟩
  | step hmove _ ih =>
    obtain ⟨t', hfirst, hR'⟩ := hsim _ _ _ _ hR hmove
    obtain ⟨t'', hrest, hR''⟩ := ih hR'
    exact ⟨t'', hfirst.append hrest, hR''⟩

end Lib
