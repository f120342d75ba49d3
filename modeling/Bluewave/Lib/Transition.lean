/-! Guarded runs of a transition system given by a step function. A guard `ok`
restricts which actions may be taken in which state; with no guard every
interleaving of accepted actions is a run. Actions that lower a rank make runs of
bounded length, which end where none of them is possible. -/
namespace Lib

variable {S A : Type} {init : S → Prop} {step : S → A → Option S} {ok ok' : S → A → Prop}

/-- States reached by accepted actions that meet the guard where they are taken. -/
inductive Reachable (init : S → Prop) (step : S → A → Option S) (ok : S → A → Prop) : S → Prop
  | start {s : S} : init s → Reachable init step ok s
  | next {s s' : S} {a : A} :
      Reachable init step ok s → ok s a → step s a = some s' → Reachable init step ok s'

/-- No guard. -/
def Free (_ : S) (_ : A) : Prop := True

/-- What holds initially and survives every guarded step holds in every state
reached. A step may use that its source is reachable. -/
theorem Reachable.invariant {I : S → Prop} {s : S} (h : Reachable init step ok s)
    (hinit : ∀ s, init s → I s)
    (hstep : ∀ s a s', Reachable init step ok s → I s → ok s a → step s a = some s' → I s') :
    I s := by
  induction h with
  | start hs => exact hinit _ hs
  | next hr hok hs ih => exact hstep _ _ _ hr ih hok hs

theorem Reachable.mono {s : S} (h : Reachable init step ok s)
    (hok : ∀ s a, ok s a → ok' s a) : Reachable init step ok' s := by
  induction h with
  | start hs => exact .start hs
  | next _ ho hs ih => exact .next ih (hok _ _ ho) hs

theorem Reachable.free {s : S} (h : Reachable init step ok s) : Reachable init step Free s :=
  h.mono fun _ _ _ => trivial

/-- A schedule, run in order; `none` when one of its actions is not possible. -/
def runSchedule (step : S → A → Option S) (s : S) : List A → Option S
  | [] => some s
  | a :: as => (step s a).bind fun s' => runSchedule step s' as

/-- A schedule of actions that meet the guard wherever they are taken. -/
theorem Reachable.schedule_of {s s' : S} {as : List A} (h : Reachable init step ok s)
    (hok : ∀ a ∈ as, ∀ s, ok s a) (hrun : runSchedule step s as = some s') :
    Reachable init step ok s' := by
  induction as generalizing s with
  | nil => cases hrun; exact h
  | cons a as ih =>
    obtain ⟨t, ht, hrest⟩ := Option.bind_eq_some_iff.mp hrun
    have hnext := h.next (hok a List.mem_cons_self s) ht
    exact ih hnext (fun b hb => hok b (List.mem_cons_of_mem a hb)) hrest

theorem Reachable.schedule {s s' : S} {as : List A} (h : Reachable init step Free s)
    (hrun : runSchedule step s as = some s') : Reachable init step Free s' :=
  h.schedule_of (fun _ _ _ => trivial) hrun

/-! ## Ranked actions -/

section
variable {may : A → Prop} {I : S → Prop} {rank : S → Nat}

/-- The actions of `may` keep `I` and lower the rank. -/
def Ranked (step : S → A → Option S) (may : A → Prop) (I : S → Prop) (rank : S → Nat) : Prop :=
  ∀ s a s', I s → may a → step s a = some s' → I s' ∧ rank s' < rank s

/-- No action of `may` is possible. -/
def Halted (step : S → A → Option S) (may : A → Prop) (s : S) : Prop :=
  ∀ a, may a → step s a = none

/-- A schedule of ranked actions is no longer than the rank it uses up. -/
theorem Ranked.schedule {s s' : S} {as : List A} (h : Ranked step may I rank) (hs : I s)
    (hmay : ∀ a ∈ as, may a) (hrun : runSchedule step s as = some s') :
    I s' ∧ as.length + rank s' ≤ rank s := by
  induction as generalizing s with
  | nil =>
    cases hrun
    exact ⟨hs, by simp⟩
  | cons a as ih =>
    obtain ⟨t, ht, hrest⟩ := Option.bind_eq_some_iff.mp hrun
    obtain ⟨hI, hlt⟩ := h s a t hs (hmay a List.mem_cons_self) ht
    obtain ⟨hI', hle⟩ := ih hI (fun b hb => hmay b (List.mem_cons_of_mem a hb)) hrest
    refine ⟨hI', ?_⟩
    rw [List.length_cons]
    omega

/-- Ranked actions come to an end from everywhere. -/
theorem Ranked.exists_halted (h : Ranked step may I rank) {s : S} (hs : I s) :
    ∃ as s', (∀ a ∈ as, may a) ∧ runSchedule step s as = some s' ∧ Halted step may s' := by
  induction hn : rank s using Nat.strongRecOn generalizing s with
  | ind n ih =>
    by_cases hhalt : Halted step may s
    · exact ⟨[], s, by simp, rfl, hhalt⟩
    · obtain ⟨a, hnot⟩ := Classical.not_forall.mp hhalt
      obtain ⟨ha, hne⟩ := Classical.not_imp.mp hnot
      obtain ⟨t, ht⟩ := Option.ne_none_iff_exists'.mp hne
      obtain ⟨hI, hlt⟩ := h s a t hs ha ht
      obtain ⟨as, s', hmay, hrun, hend⟩ := ih (rank t) (hn ▸ hlt) hI rfl
      refine ⟨a :: as, s', ?_, ?_, hend⟩
      · intro b hb
        rcases List.mem_cons.mp hb with rfl | hb
        · exact ha
        · exact hmay b hb
      · rw [runSchedule, ht]
        exact hrun

end

end Lib
