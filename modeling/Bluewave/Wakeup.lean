import Bluewave.SingleFlight

/-! Whether a queued date always has a thread that will look at the queue. A
worker decides to leave inside the lock and stays alive behind it; an enqueuer
that comes in this window appends, finds the worker alive and starts none. -/
namespace Bluewave.Wakeup
open Lib Bluewave.Exceptions Bluewave.Tables Bluewave.Orchestrator Bluewave.SingleFlight

/-- Before a shutdown a non-empty queue has a thread that will still look at it. -/
def Attended (s : State) : Prop :=
  s.shutdown = false → s.queue ≠ [] → ∃ p ∈ s.threads, p.inspects = true

/-- No date is appended while the worker has left its loop and is not yet gone. -/
def Timely (s : State) (a : Action) : Prop :=
  s.shutdown = false → appended s a ≠ [] → s.current ≠ some .exited

section
variable {s s' : State} {i : Nat} {p q : Phase}

/-- A thread other than the one that moved is where it was. -/
theorem mem_set_of_ne {l : List Phase} (hp : l[i]? = some p) {r : Phase} (hr : r ∈ l)
    (hne : r ≠ p) : r ∈ l.set i q := by
  obtain ⟨j, hj⟩ := List.mem_iff_getElem?.mp hr
  have hij : i ≠ j := by
    rintro rfl
    exact hne (Option.some.inj (hj.symm.trans hp))
  exact List.mem_iff_getElem?.mpr ⟨j, by rw [List.getElem?_set_ne hij, hj]⟩

theorem mem_set_self {l : List Phase} (hp : l[i]? = some p) : q ∈ l.set i q :=
  List.mem_set (List.getElem?_eq_some_iff.mp hp).1 q

/-- A thread that moves on to a phase in its loop attends to the queue. -/
theorem attended_of_set (hp : s.threads[i]? = some p) (hq : q.inspects = true)
    (ht : s'.threads = s.threads.set i q) : Attended s' :=
  fun _ _ => ⟨q, ht ▸ mem_set_self hp, hq⟩

/-- With a live worker that has not left, or none, `ensureWorkerLocked` sees to it
that some thread attends. -/
theorem ensure_inspects (hnot : s.current ≠ some .exited) :
    ∃ p ∈ s.ensureWorkerLocked.threads, p.inspects = true := by
  unfold State.ensureWorkerLocked
  split
  · rename_i halive
    unfold State.workerAlive at halive
    rcases hc : s.current with _ | p
    · rw [hc] at halive
      cases halive
    · rw [hc] at halive hnot
      refine ⟨p, ?_, ?_⟩
      · obtain ⟨i, _, hi⟩ := Option.bind_eq_some_iff.mp hc
        exact List.mem_of_getElem? hi
      · cases p with
        | exited => exact (hnot rfl).elim
        | dead => cases halive
        | top | locking | popped | working | finishing => rfl
  · exact ⟨.top, by simp, rfl⟩

/-- An exited worker is alive, so an enqueuer starts no other. -/
theorem ensure_exited (hcur : s.current = some .exited) : s.ensureWorkerLocked = s := by
  have halive : s.workerAlive = true := by rw [State.workerAlive, hcur]; rfl
  exact if_pos halive

/-- With an exited worker no thread attends. -/
theorem not_inspects_of_exited (hone : OneWorker s) (hcur : s.current = some .exited) :
    ∀ p ∈ s.threads, p.inspects = false := by
  intro p hp
  obtain ⟨i, hi⟩ := List.mem_iff_getElem?.mp hp
  by_cases hd : p = .dead
  · rw [hd]
    rfl
  · have hc := (hone.current hi hd).2
    rw [hcur] at hc
    cases hc
    rfl

theorem Attended.enqueue (h : Attended s) {runs : List (Date × Bool)}
    (ht : s.shutdown = false → runs ≠ [] → s.current ≠ some .exited) :
    Attended (s.enqueue runs) := by
  unfold State.enqueue
  split
  · exact h
  · rename_i hruns
    intro hshut _
    have hsame : (s.appendAll runs).ensureWorkerLocked.shutdown = s.shutdown := by
      unfold State.ensureWorkerLocked
      split <;> rfl
    exact ensure_inspects (ht (hsame ▸ hshut) hruns)

/-- A timely step keeps the queue attended. -/
theorem Attended.step (h : Attended s) {a : Action} (ht : Timely s a)
    (hs : Orchestrator.step s a = some s') : Attended s' := by
  cases Step.of_step hs with
  | tryEnqueue | catchup => exact h.enqueue ht
  | continues hp | pops hp | calls hp | jobEnds hp | clears hp => exact attended_of_set hp rfl rfl
  | stops hp hshut => exact fun hfalse => by cases hshut.symm.trans hfalse
  | drained hp hq => exact fun _ hne => (hne hq).elim
  | dies hp =>
    intro hshut hq
    obtain ⟨r, hr, hin⟩ := h hshut hq
    exact ⟨r, mem_set_of_ne hp hr (by rintro rfl; cases hin), hin⟩
  | shutdown => exact fun hshut => by cases hshut

/-- A step that comes in the window leaves its dates unattended. -/
theorem not_attended_of_untimely (hone : OneWorker s) {a : Action} (ht : ¬ Timely s a)
    (hs : Orchestrator.step s a = some s') : ¬ Attended s' := by
  simp only [Timely, Classical.not_imp, ne_eq, Decidable.not_not] at ht
  obtain ⟨hshut, hruns, hcur⟩ := ht
  have hs' : s' = s.appendAll (appended s a) := by
    have henq : s' = s.enqueue (appended s a) := by
      cases Step.of_step hs with
      | tryEnqueue | catchup => rfl
      | continues | stops | drained | pops | calls | jobEnds | clears | dies | shutdown =>
        exact (hruns rfl).elim
    have hcur' : (s.appendAll (appended s a)).current = some .exited := hcur
    rw [henq, State.enqueue, if_neg hruns, ensure_exited hcur']
  rw [hs']
  intro h
  obtain ⟨p, hp, hin⟩ := h hshut (List.append_ne_nil_of_right_ne_nil _ hruns)
  rw [not_inspects_of_exited hone hcur p hp] at hin
  cases hin

end

/-- Runs that append no date in the window keep the queue attended in every state,
and a step that does ends in a state that is not. -/
theorem attended_timely (s : State) :
    (Reachable (· = initial) step Timely s → Attended s) ∧
      (Reached s → ∀ a s', step s a = some s' → ¬ Timely s a → ¬ Attended s') := by
  constructor
  · intro h
    refine h.invariant (fun _ hs => ?_) fun _ _ _ _ hatt ht hs => hatt.step ht hs
    subst hs
    exact fun _ hq => (hq rfl).elim
  · intro hr a s' hs ht
    exact not_attended_of_untimely hr.inv.oneWorker ht hs

/-- A date accepted while no worker is there. -/
theorem attended_first : ∃ s, Reachable (· = initial) step Timely s ∧
    s.queue = [(day 1, false)] ∧ Attended s := by
  have hs : step initial (.tryEnqueue (day 1) false) = some
      { initial with
        queue := [(day 1, false)], worker := some 0, threads := [.top]
        accepted := [(day 1, false)] } := rfl
  have htimely : Timely initial (.tryEnqueue (day 1) false) := fun _ _ h => by cases h
  have hreached : Reachable (· = initial) step Timely _ := .next (.start rfl) htimely hs
  exact ⟨_, hreached, rfl, (attended_timely _).1 hreached⟩

/-- The worker finds the queue empty and leaves, a second date comes, the thread
dies. -/
def lostWakeup : List Action :=
  [.tryEnqueue firstDay false, .checkShutdown 0, .takeNext 0, .callJob 0, .jobEnds 0 (.ok "ok"),
    .clear 0, .checkShutdown 0, .takeNext 0, .tryEnqueue secondDay false, .dies 0]

theorem not_attended_reached :
    ∃ s, Reached s ∧ s.shutdown = false ∧ s.queue = [(day 2, false)] ∧ s.threads = [.dead] ∧
      ¬ Attended s := by
  have hrun : runSchedule step initial lostWakeup = some
      { initial with
        queue := [(day 2, false)], worker := some 0, threads := [.dead]
        accepted := [(day 1, false), (day 2, false)], finished := [(day 1, false)]
        calls := [(some (day 1), false)] } := by rfl
  refine ⟨_, Reachable.schedule (.start rfl) hrun, rfl, rfl, rfl, fun h => ?_⟩
  obtain ⟨p, hp, hin⟩ := h rfl (by simp)
  rw [List.mem_singleton.mp hp] at hin
  cases hin

end Bluewave.Wakeup
