import Bluewave.Orchestrator

/-! The queue runs every accepted date once, in order, on one thread at a time.
The invariant: all threads but the current worker are dead, and the phase of the
worker says which run is in flight and how far it is. -/
namespace Bluewave.SingleFlight
open Lib Bluewave.Exceptions Bluewave.Tables Bluewave.Orchestrator

/-- Every interleaving of the lock sections and the thread steps. -/
def Reached (s : State) : Prop := Reachable (· = initial) step Free s

/-- The calls that these runs make. -/
def asCalls (runs : List (Date × Bool)) : List (Option Date × Bool) :=
  runs.map fun run => (some run.1, run.2)

/-- All threads but the worker are dead. -/
structure OneWorker (s : State) : Prop where
  only : ∀ i p, s.threads[i]? = some p → p ≠ .dead → s.worker = some i
  lt : ∀ i, s.worker = some i → i < s.threads.length

/-- How a worker's phase fits the run in flight, what is finished and the calls
made so far. -/
def Agrees (run : Option (Date × Bool)) (finished : List (Date × Bool))
    (calls : List (Option Date × Bool)) : Option Phase → Prop
  | some (.popped manual) => (∃ d, run = some (d, manual)) ∧ calls = asCalls finished
  | some (.working date manual) | some (.finishing date manual) =>
    (∃ d, date = some d ∧ run = some (d, manual)) ∧ calls = asCalls (finished ++ run.toList)
  | _ => run = none ∧ calls = asCalls finished

structure Inv (s : State) : Prop where
  oneWorker : OneWorker s
  nodup : (s.inFlight.toList ++ s.queue.map Prod.fst).Nodup
  flight : ∃ run : Option (Date × Bool), run.map Prod.fst = s.inFlight ∧
    s.accepted = s.finished ++ run.toList ++ s.queue ∧ Agrees run s.finished s.calls s.current

theorem inv_initial : Inv initial where
  oneWorker := ⟨by simp [initial], by simp [initial]⟩
  nodup := by simp [initial]
  flight := ⟨none, rfl, rfl, rfl, rfl⟩

section
variable {s s' : State} {i : Nat} {p q : Phase}

/-- A thread that can take a step is the worker. -/
theorem OneWorker.current (h : OneWorker s) (hp : s.threads[i]? = some p) (hd : p ≠ .dead) :
    s.worker = some i ∧ s.current = some p := by
  have hw := h.only i p hp hd
  exact ⟨hw, by rw [State.current, hw]; exact hp⟩

/-- A step of the worker keeps the others dead and moves its phase. -/
theorem OneWorker.set (h : OneWorker s) (hw : s.worker = some i) (hw' : s'.worker = s.worker)
    (ht : s'.threads = s.threads.set i q) : OneWorker s' ∧ s'.current = some q := by
  have hlt := h.lt i hw
  refine ⟨⟨fun j r hj hd => ?_, fun j hj => ?_⟩, ?_⟩
  · rw [hw']
    rw [ht, List.getElem?_set] at hj
    split at hj
    · rename_i hij
      exact hij ▸ hw
    · exact h.only j r hj hd
  · rw [ht, List.length_set]
    exact h.lt j (hw' ▸ hj)
  · rw [State.current, hw', hw, ht]
    simp [hlt]

/-- The calls made cover what is finished, and the run in flight once it is called. -/
theorem Agrees.calls {run : Option (Date × Bool)} {finished : List (Date × Bool)}
    {calls : List (Option Date × Bool)} {phase : Option Phase}
    (h : Agrees run finished calls phase) :
    calls = asCalls finished ∨ calls = asCalls (finished ++ run.toList) := by
  rcases phase with _ | p
  · exact Or.inl h.2
  · cases p with
    | working | finishing => exact Or.inr h.2
    | top | locking | popped | exited | dead => exact Or.inl h.2

/-! ## Enqueueing -/

/-- With no live worker nothing is in flight. -/
theorem Agrees.idle {run : Option (Date × Bool)}
    (h : Agrees run s.finished s.calls s.current) (hdead : s.workerAlive = false) :
    run = none ∧ s.calls = asCalls s.finished := by
  unfold State.workerAlive at hdead
  rcases hc : s.current with _ | p
  · rw [hc] at h
    exact h
  · rw [hc] at h hdead
    cases p with
    | dead => exact h
    | top | locking | popped | working | finishing | exited => simp [Phase.isAlive] at hdead

/-- `current` after `ensureWorkerLocked`: the live worker, or a new thread. -/
theorem current_ensure (s : State) : s.ensureWorkerLocked.current =
    if s.workerAlive then s.current else some .top := by
  unfold State.ensureWorkerLocked
  split
  · rfl
  · simp [State.current]

theorem OneWorker.ensure (h : OneWorker s) : OneWorker s.ensureWorkerLocked := by
  unfold State.ensureWorkerLocked
  split
  · exact h
  · rename_i hdead
    refine ⟨fun i p hp hd => ?_, by simp⟩
    simp only at hp
    rw [List.getElem?_append] at hp
    split at hp
    · -- a thread from before: were it alive, it would be a live worker
      obtain ⟨_, hcur⟩ := h.current hp hd
      rw [State.workerAlive, hcur] at hdead
      cases p with
      | dead => exact (hd rfl).elim
      | top | locking | popped | working | finishing | exited => exact (hdead rfl).elim
    · rename_i hge
      have hi : i - s.threads.length = 0 := by
        rw [List.getElem?_singleton] at hp
        split at hp
        · assumption
        · cases hp
      exact congrArg some (by omega)

/-- Appending runs of distinct dates that are neither queued nor in flight. -/
theorem Inv.append (h : Inv s) {runs : List (Date × Bool)} (hruns : (runs.map Prod.fst).Nodup)
    (hnew : ∀ run ∈ runs, s.known run.1 = false) : Inv (s.appendAll runs).ensureWorkerLocked := by
  have hfields : ∀ t : State, t.ensureWorkerLocked.inFlight = t.inFlight ∧
      t.ensureWorkerLocked.queue = t.queue ∧ t.ensureWorkerLocked.accepted = t.accepted ∧
      t.ensureWorkerLocked.finished = t.finished ∧ t.ensureWorkerLocked.calls = t.calls := by
    intro t
    unfold State.ensureWorkerLocked
    split <;> exact ⟨rfl, rfl, rfl, rfl, rfl⟩
  obtain ⟨hin, hq, hacc, hfin, hcalls⟩ := hfields (s.appendAll runs)
  have hone : OneWorker (s.appendAll runs) := ⟨h.oneWorker.only, h.oneWorker.lt⟩
  refine ⟨hone.ensure, ?_, ?_⟩
  · rw [hin, hq]
    simp only [State.appendAll, List.map_append, ← List.append_assoc]
    refine List.nodup_append.mpr ⟨h.nodup, hruns, ?_⟩
    intro d hd e he hde
    obtain ⟨run, hrun, rfl⟩ := List.mem_map.mp he
    obtain ⟨hnotin, hnotq⟩ := State.known_eq_false.mp (hnew run hrun)
    rcases List.mem_append.mp hd with hd | hd
    · exact hnotin (hde ▸ Option.mem_toList.mp hd)
    · exact hnotq (hde ▸ hd)
  · obtain ⟨run, hrun, hacc', hagree⟩ := h.flight
    refine ⟨run, by rw [hin]; exact hrun, ?_, ?_⟩
    · rw [hacc, hfin, hq]
      simp only [State.appendAll, hacc', List.append_assoc]
    · have hcur := current_ensure (s.appendAll runs)
      have hsame : (s.appendAll runs).current = s.current := rfl
      rw [hcur, hcalls, hfin]
      split at hcur
      · rename_i halive
        rw [if_pos halive, hsame]
        exact hagree
      · rename_i hdead
        rw [if_neg hdead]
        exact hagree.idle (by simpa [State.workerAlive, hsame] using hdead)

theorem Inv.enqueue (h : Inv s) (a : Action) : Inv (s.enqueue (appended s a)) := by
  obtain ⟨hnodup, hnew⟩ := appended_new s a
  unfold State.enqueue
  split
  · exact h
  · exact h.append hnodup hnew

/-! ## Thread steps -/

/-- A step that only moves the worker from one phase to a like one. -/
theorem Inv.move (h : Inv s) (hp : s.threads[i]? = some p) (hd : p ≠ .dead)
    (hpq : ∀ run, Agrees run s.finished s.calls (some p) →
      Agrees run s.finished s.calls (some q)) : Inv (s.setThread i q) := by
  obtain ⟨hw, hcur⟩ := h.oneWorker.current hp hd
  have hw' : (s.setThread i q).worker = s.worker := rfl
  obtain ⟨hone, hcur'⟩ := h.oneWorker.set hw hw' rfl
  obtain ⟨run, hrun, hacc, hagree⟩ := h.flight
  rw [hcur] at hagree
  exact ⟨hone, h.nodup, run, hrun, hacc, hcur' ▸ hpq run hagree⟩

/-- The head of the queue goes into flight, which was empty. -/
theorem Inv.takeNext (h : Inv s) (hp : s.threads[i]? = some .locking) {d : Date} {manual : Bool}
    {rest : List (Date × Bool)} (hq : s.queue = (d, manual) :: rest)
    (ht : s' = { s.setThread i (.popped manual) with queue := rest, inFlight := some d }) :
    Inv s' := by
  obtain ⟨hw, hcur⟩ := h.oneWorker.current hp (by decide)
  obtain ⟨run, hrun, hacc, hagree⟩ := h.flight
  rw [hcur] at hagree
  obtain ⟨rfl, hcalls⟩ := hagree
  have hnone : s.inFlight = none := hrun.symm
  have hw' : s'.worker = s.worker := by rw [ht]; rfl
  obtain ⟨hone, hcur'⟩ := h.oneWorker.set hw hw' (by rw [ht]; rfl)
  refine ⟨hone, ?_, some (d, manual), by rw [ht]; rfl, ?_, ?_⟩
  · have hnd := h.nodup
    rw [hnone, hq] at hnd
    rw [ht]
    exact hnd
  · rw [ht]
    simpa [State.setThread, hq] using hacc
  · rw [hcur', ht]
    exact ⟨⟨d, rfl⟩, hcalls⟩

/-- The job is called with the date its worker popped. -/
theorem Inv.callJob (h : Inv s) {manual : Bool} (hp : s.threads[i]? = some (.popped manual))
    (ht : s' = { s.setThread i (.working s.inFlight manual) with
      calls := s.calls ++ [(s.inFlight, manual)] }) : Inv s' := by
  obtain ⟨hw, hcur⟩ := h.oneWorker.current hp (by simp)
  obtain ⟨run, hrun, hacc, hagree⟩ := h.flight
  rw [hcur] at hagree
  obtain ⟨⟨d, rfl⟩, hcalls⟩ := hagree
  have hin : s.inFlight = some d := hrun.symm
  have hw' : s'.worker = s.worker := by rw [ht]; rfl
  obtain ⟨hone, hcur'⟩ := h.oneWorker.set hw hw' (by rw [ht]; rfl)
  refine ⟨hone, by rw [ht]; exact h.nodup, some (d, manual), by rw [ht]; exact hrun,
    by rw [ht]; exact hacc, ?_⟩
  rw [hcur', ht]
  refine ⟨⟨d, hin, rfl⟩, ?_⟩
  simp [State.setThread, hcalls, hin, asCalls]

/-- The run in flight becomes the last finished one. -/
theorem Inv.clear (h : Inv s) {date : Option Date} {manual : Bool}
    (hp : s.threads[i]? = some (.finishing date manual))
    (ht : s' = { s.setThread i .top with
      inFlight := none, finished := s.finished ++ date.toList.map fun d => (d, manual) }) :
    Inv s' := by
  obtain ⟨hw, hcur⟩ := h.oneWorker.current hp (by simp)
  obtain ⟨run, hrun, hacc, hagree⟩ := h.flight
  rw [hcur] at hagree
  obtain ⟨⟨d, rfl, rfl⟩, hcalls⟩ := hagree
  have hw' : s'.worker = s.worker := by rw [ht]; rfl
  obtain ⟨hone, hcur'⟩ := h.oneWorker.set hw hw' (by rw [ht]; rfl)
  refine ⟨hone, ?_, none, by rw [ht]; rfl, ?_, ?_⟩
  · rw [ht]
    exact (List.nodup_append.mp h.nodup).2.1
  · rw [ht]
    simpa [State.setThread] using hacc
  · rw [hcur', ht]
    exact ⟨rfl, hcalls⟩

theorem Inv.shutdown (h : Inv s) : Inv { s with shutdown := true } where
  oneWorker := ⟨h.oneWorker.only, h.oneWorker.lt⟩
  nodup := h.nodup
  flight := h.flight

theorem Inv.step (h : Inv s) {a : Action} (hs : Orchestrator.step s a = some s') : Inv s' := by
  cases Step.of_step hs with
  | tryEnqueue | catchup => exact h.enqueue _
  | continues hp | stops hp | drained hp => exact h.move hp (by decide) fun _ hagree => hagree
  | pops hp hq => exact h.takeNext hp hq rfl
  | calls hp => exact h.callJob hp rfl
  | jobEnds hp => exact h.move hp (by simp) fun _ hagree => hagree
  | clears hp => exact h.clear hp rfl
  | dies hp => exact h.move hp (by decide) fun _ hagree => hagree
  | shutdown => exact h.shutdown

theorem Reached.inv (h : Reached s) : Inv s :=
  h.invariant (fun _ hs => hs ▸ inv_initial) fun _ _ _ _ hinv _ hs => hinv.step hs

end

/-! ## Single flight -/

/-- In every state reached, queued and in-flight dates are distinct, at most one
thread executes a job and it is the run in flight, and the accepted runs are the
finished ones, the one in flight and the queued ones, called in that order and
known to the duplicate check until they are finished. -/
theorem single_flight (s : State) (h : Reached s) :
    (s.inFlight.toList ++ s.queue.map Prod.fst).Nodup ∧
      (∀ (i j : Nat) (date date' : Option Date) (manual manual' : Bool),
        s.threads[i]? = some (.working date manual) →
        s.threads[j]? = some (.working date' manual') → i = j) ∧
      ∃ run : Option (Date × Bool), run.map Prod.fst = s.inFlight ∧
        (∀ (i : Nat) (date : Option Date) (manual : Bool),
          s.threads[i]? = some (.working date manual) →
          ∃ d, date = some d ∧ run = some (d, manual)) ∧
        s.accepted = s.finished ++ run.toList ++ s.queue ∧
        asCalls s.finished <+: s.calls ∧ s.calls <+: asCalls (s.finished ++ run.toList) ∧
        ∀ r ∈ run.toList ++ s.queue, s.known r.1 = true := by
  have hinv := h.inv
  refine ⟨hinv.nodup, ?_, ?_⟩
  · intro i j date date' manual manual' hi hj
    have hwi := (hinv.oneWorker.current hi (by simp)).1
    have hwj := (hinv.oneWorker.current hj (by simp)).1
    exact Option.some.inj (hwi.symm.trans hwj)
  · obtain ⟨run, hrun, hacc, hagree⟩ := hinv.flight
    have hmore : asCalls s.finished <+: asCalls (s.finished ++ run.toList) :=
      (List.prefix_append _ _).map _
    refine ⟨run, hrun, ?_, hacc, ?_, ?_, ?_⟩
    · intro i date manual hi
      rw [(hinv.oneWorker.current hi (by simp)).2] at hagree
      exact hagree.1
    · rcases hagree.calls with hcalls | hcalls
      · exact hcalls ▸ List.prefix_refl _
      · exact hcalls ▸ hmore
    · rcases hagree.calls with hcalls | hcalls
      · exact hcalls ▸ hmore
      · exact hcalls ▸ List.prefix_refl _
    · intro r hr
      refine State.known_iff.mpr ?_
      rcases List.mem_append.mp hr with hr | hr
      · rw [← hrun, Option.mem_toList.mp hr]
        exact Or.inl rfl
      · exact Or.inr (List.mem_map_of_mem hr)

def day (n : Nat) (h : 1 ≤ n ∧ n ≤ 3652059 := by decide) : Date := ⟨n, h.1, h.2⟩

def firstDay : Date := day 1

def secondDay : Date := day 2

/-- One accepted run, popped by its worker. -/
theorem single_flight_popped :
    ∃ s, runSchedule step initial [.tryEnqueue (day 1) true, .checkShutdown 0, .takeNext 0] =
        some s ∧ s.inFlight = some (day 1) ∧
      (s.inFlight.toList ++ s.queue.map Prod.fst).Nodup := by
  have hrun : runSchedule step initial [.tryEnqueue (day 1) true, .checkShutdown 0, .takeNext 0] =
      some { initial with
        inFlight := some (day 1), worker := some 0, threads := [.popped true]
        accepted := [(day 1, true)] } := rfl
  exact ⟨_, hrun, rfl, (single_flight _ (Reachable.schedule (.start rfl) hrun)).1⟩

end Bluewave.SingleFlight
