import Bluewave.Wakeup

/-! The worker comes to an end. Left alone, with every job returning, its thread
takes a bounded number of steps, by a rank of five steps for each queued run and what
is left of the current one; where it stops everything accepted has been called. After
a shutdown it calls at most one more job, whatever is enqueued meanwhile. -/
namespace Bluewave.Drain
open Lib Bluewave.Exceptions Bluewave.Tables Bluewave.Orchestrator Bluewave.SingleFlight
open Bluewave.Wakeup

/-- The steps a worker thread takes, the end of its job included. -/
def OfThread : Action → Prop
  | .checkShutdown _ | .takeNext _ | .callJob _ | .jobEnds .. | .clear _ | .dies _ => True
  | .tryEnqueue .. | .catchup .. | .shutdown => False

/-- How many steps a phase is from the thread's end, with an empty queue. -/
def stepsLeft : Phase → Nat
  | .dead => 0
  | .exited => 1
  | .locking => 2
  | .top => 3
  | .finishing .. => 4
  | .working .. => 5
  | .popped _ => 6

def rank (s : State) : Nat := 5 * s.queue.length + (s.current.map stepsLeft).getD 0

/-- The same after a shutdown: a thread at the top leaves, one at the lock may still pop. -/
def stepsToStop : Phase → Nat
  | .dead => 0
  | .exited => 1
  | .top => 2
  | .finishing .. => 3
  | .working .. => 4
  | .popped _ => 5
  | .locking => 6

def stopRank (s : State) : Nat := (s.current.map stepsToStop).getD 0

/-- A job that the worker may still call without another look at the shutdown flag. -/
def mayCall (s : State) : Nat :=
  match s.current with
  | some .locking | some (.popped _) => 1
  | _ => 0

/-- Neither the queue nor the calls change. -/
def Quiet (s s' : State) : Prop := s'.queue = s.queue ∧ s'.calls = s.calls

/-- The phases a step of the worker goes from and to, with what it does to the queue and
the calls. -/
inductive Moves (s s' : State) : Phase → Phase → Prop
  | continues : s.shutdown = false → Quiet s s' → Moves s s' .top .locking
  | leaves {p : Phase} : p = .top ∨ p = .locking → Quiet s s' → Moves s s' p .exited
  | pops {manual : Bool} : s'.queue.length + 1 = s.queue.length → s'.calls = s.calls →
      Moves s s' .locking (.popped manual)
  | calls {date : Option Date} {manual : Bool} : s'.queue = s.queue →
      s'.calls.length = s.calls.length + 1 → Moves s s' (.popped manual) (.working date manual)
  | ends {date : Option Date} {manual : Bool} : Quiet s s' →
      Moves s s' (.working date manual) (.finishing date manual)
  | clears {date : Option Date} {manual : Bool} : Quiet s s' →
      Moves s s' (.finishing date manual) .top
  | dies : Quiet s s' → Moves s s' .exited .dead

section
variable {s s' : State} {a : Action}

/-- A step of a thread is one of the worker. -/
theorem moves_of_thread (h : OneWorker s) (ha : OfThread a) (hs : step s a = some s') :
    ∃ p q, s.current = some p ∧ s'.current = some q ∧ Moves s s' p q := by
  have hmove : ∀ {i : Nat} {p q : Phase}, s.threads[i]? = some p → p ≠ .dead →
      s'.worker = s.worker → s'.threads = s.threads.set i q → Moves s s' p q →
      ∃ p q, s.current = some p ∧ s'.current = some q ∧ Moves s s' p q := by
    intro i p q hp hd hw ht hmoves
    obtain ⟨hworker, hcur⟩ := h.current hp hd
    exact ⟨p, q, hcur, (h.set hworker hw ht).2, hmoves⟩
  cases Step.of_step hs with
  | tryEnqueue | catchup | shutdown => exact ha.elim
  | continues hp hshut => exact hmove hp (by simp) rfl rfl (.continues hshut ⟨rfl, rfl⟩)
  | stops hp hshut => exact hmove hp (by simp) rfl rfl (.leaves (.inl rfl) ⟨rfl, rfl⟩)
  | drained hp hq => exact hmove hp (by simp) rfl rfl (.leaves (.inr rfl) ⟨rfl, rfl⟩)
  | pops hp hq => exact hmove hp (by simp) rfl rfl (.pops (by rw [hq]; rfl) rfl)
  | calls hp => exact hmove hp (by simp) rfl rfl (.calls rfl (by simp))
  | jobEnds hp => exact hmove hp (by simp) rfl rfl (.ends ⟨rfl, rfl⟩)
  | clears hp => exact hmove hp (by simp) rfl rfl (.clears ⟨rfl, rfl⟩)
  | dies hp => exact hmove hp (by simp) rfl rfl (.dies ⟨rfl, rfl⟩)

theorem rank_falls (h : OneWorker s) (ha : OfThread a) (hs : step s a = some s') :
    rank s' < rank s := by
  obtain ⟨p, q, hcur, hcur', hmoves⟩ := moves_of_thread h ha hs
  unfold rank
  rw [hcur, hcur']
  cases hmoves with
  | continues _ hquiet | ends hquiet | clears hquiet | dies hquiet =>
    rw [hquiet.1]
    exact Nat.add_lt_add_left (Nat.lt_succ_self _) _
  | leaves hp hquiet =>
    rw [hquiet.1]
    rcases hp with rfl | rfl <;> exact Nat.add_lt_add_left (by decide) _
  | pops hlen =>
    show 5 * s'.queue.length + 6 < 5 * s.queue.length + 2
    omega
  | calls hqueue =>
    rw [hqueue]
    exact Nat.add_lt_add_left (Nat.lt_succ_self _) _

theorem stopRank_falls (h : OneWorker s) (hshut : s.shutdown = true) (ha : OfThread a)
    (hs : step s a = some s') : stopRank s' < stopRank s := by
  obtain ⟨p, q, hcur, hcur', hmoves⟩ := moves_of_thread h ha hs
  unfold stopRank
  rw [hcur, hcur']
  cases hmoves with
  | continues hnot => rw [hshut] at hnot; cases hnot
  | leaves hp => rcases hp with rfl | rfl <;> simp [stepsToStop]
  | pops | calls | ends | clears | dies => exact Nat.lt_succ_self _

theorem stopRank_le (s : State) : stopRank s ≤ 6 := by
  unfold stopRank
  rcases s.current with _ | p
  · exact Nat.zero_le _
  · cases p <;> simp [stepsToStop]

theorem rank_le (s : State) : rank s ≤ 5 * s.queue.length + 6 := by
  have hphase : (s.current.map stepsLeft).getD 0 ≤ 6 := by
    rcases s.current with _ | p
    · exact Nat.zero_le _
    · cases p <;> simp [stepsLeft]
  exact Nat.add_le_add_left hphase _

theorem shutdown_kept (hs : step s a = some s') (hshut : s.shutdown = true) :
    s'.shutdown = true := by
  have henq : ∀ runs, (s.enqueue runs).shutdown = s.shutdown := by
    intro runs
    unfold State.enqueue State.ensureWorkerLocked
    split
    · rfl
    · split <;> rfl
  cases Step.of_step hs with
  | tryEnqueue | catchup => exact (henq _).trans hshut
  | continues | stops | drained | pops | calls | jobEnds | clears | dies => exact hshut
  | shutdown => rfl

theorem shutdown_of_thread (ha : OfThread a) (hs : step s a = some s') :
    s'.shutdown = s.shutdown := by
  cases Step.of_step hs with
  | tryEnqueue | catchup | shutdown => exact ha.elim
  | continues | stops | drained | pops | calls | jobEnds | clears | dies => rfl

/-- A thread enqueues nothing. -/
theorem appended_of_thread (ha : OfThread a) : appended s a = [] := by
  cases a with
  | tryEnqueue | catchup => exact ha.elim
  | checkShutdown | takeNext | callJob | jobEnds | clear | dies | shutdown => rfl

/-- Where no thread can take a step all threads are gone. -/
theorem dead_of_halted (h : Halted step OfThread s) : ∀ p ∈ s.threads, p = .dead := by
  intro p hp
  obtain ⟨i, hi⟩ := List.mem_iff_getElem?.mp hp
  cases p with
  | dead => rfl
  | top => simpa [step, hi] using h (.checkShutdown i) trivial
  | locking =>
    have hnone := h (.takeNext i) trivial
    cases hq : s.queue <;> simp [step, hi, hq] at hnone
  | popped manual => simpa [step, hi] using h (.callJob i) trivial
  | working date manual => simpa [step, hi] using h (.jobEnds i (.ok "ok")) trivial
  | finishing date manual => simpa [step, hi] using h (.clear i) trivial
  | exited => simpa [step, hi] using h (.dies i) trivial

/-- What a worker that is left alone keeps. -/
structure Undisturbed (runs : List (Date × Bool)) (s : State) : Prop where
  inv : Inv s
  attended : Attended s
  shutdown : s.shutdown = false
  accepted : s.accepted = runs

theorem ranked_threads (runs : List (Date × Bool)) :
    Ranked step OfThread (Undisturbed runs) rank := by
  intro s a s' h ha hs
  have happended : appended s a = [] := appended_of_thread ha
  refine ⟨⟨h.inv.step hs, h.attended.step (fun _ hne => (hne happended).elim) hs,
    (shutdown_of_thread ha hs).trans h.shutdown, ?_⟩, rank_falls h.inv.oneWorker ha hs⟩
  rw [(Step.of_step hs).accepted, happended, List.append_nil]
  exact h.accepted

/-- A worker that has come to its end has called and finished everything. -/
theorem Undisturbed.drained {runs : List (Date × Bool)} (h : Undisturbed runs s)
    (hend : Halted step OfThread s) :
    s.queue = [] ∧ s.inFlight = none ∧ s.finished = runs ∧ s.calls = asCalls runs := by
  have hdead := dead_of_halted hend
  have hqueue : s.queue = [] := by
    by_contra hne
    obtain ⟨p, hp, hin⟩ := h.attended h.shutdown hne
    rw [hdead p hp] at hin
    cases hin
  have hidle : s.workerAlive = false := by
    unfold State.workerAlive
    rcases hc : s.current with _ | p
    · rfl
    · obtain ⟨i, _, hi⟩ := Option.bind_eq_some_iff.mp hc
      rw [hdead p (List.mem_of_getElem? hi)]
      rfl
  obtain ⟨run, hrun, hacc, hagree⟩ := h.inv.flight
  obtain ⟨rfl, hcalls⟩ := hagree.idle hidle
  rw [hqueue, Option.toList_none, List.append_nil, List.append_nil, h.accepted] at hacc
  exact ⟨hqueue, hrun.symm, hacc.symm, hacc ▸ hcalls⟩

end

/-- From every state that is reached by enqueues outside the window between a worker's
last look and its end, and before a shutdown: the threads alone take at most five steps
for each queued run and six more, and can always go on until they are all gone. Then the
queue is empty and every run accepted so far has been called, in that order. -/
theorem queue_drains (s : State) (h : Reachable (· = initial) step Timely s)
    (hshut : s.shutdown = false) (as : List Action) (s' : State) (hthread : ∀ a ∈ as, OfThread a)
    (hrun : runSchedule step s as = some s') :
    as.length ≤ 5 * s.queue.length + 6 ∧
    (Halted step OfThread s' → s'.queue = [] ∧ s'.inFlight = none ∧ s'.finished = s.accepted ∧
      s'.calls = asCalls s.accepted) ∧
    ∃ more s'', (∀ a ∈ more, OfThread a) ∧ runSchedule step s' more = some s'' ∧
      Halted step OfThread s'' := by
  have hattended : Attended s := h.invariant
    (by rintro _ rfl; exact fun _ hq => (hq rfl).elim) fun _ _ _ _ hatt ht hs => hatt.step ht hs
  have hreached : Reached s := h.free
  have hranked := ranked_threads s.accepted
  have hstart : Undisturbed s.accepted s := ⟨hreached.inv, hattended, hshut, rfl⟩
  obtain ⟨hend, hlen⟩ := hranked.schedule hstart hthread hrun
  refine ⟨?_, hend.drained, hranked.exists_halted hend⟩
  have hrank := rank_le s
  omega

/-- A date accepted while no worker is there. -/
def oneQueued : State := (initial.tryEnqueue firstDay true).2

theorem oneQueued_step : step initial (.tryEnqueue firstDay true) = some oneQueued := rfl

theorem queue_drains_one : ∃ as s', runSchedule step oneQueued as = some s' ∧ s'.queue = [] ∧
    s'.calls = [(some firstDay, true)] := by
  have htimely : Timely initial (.tryEnqueue firstDay true) := fun _ _ h => by cases h
  have hreached : Reachable (· = initial) step Timely oneQueued :=
    .next (.start rfl) htimely oneQueued_step
  obtain ⟨-, -, as, s', hthread, hrun, hend⟩ :=
    queue_drains oneQueued hreached rfl [] oneQueued (by simp) rfl
  obtain ⟨hqueue, -, -, hcalls⟩ := (queue_drains oneQueued hreached rfl as s' hthread hrun).2.1 hend
  exact ⟨as, s', hrun, hqueue, hcalls⟩

/-! ## After a shutdown -/

section
variable {s s' : State} {a : Action}

/-- With the flag set, a call uses up the one look at the queue that was still open. -/
theorem calls_step (h : OneWorker s) (hshut : s.shutdown = true) (hs : step s a = some s') :
    s.calls.length ≤ s'.calls.length ∧
      s'.calls.length + mayCall s' ≤ s.calls.length + mayCall s := by
  by_cases ha : OfThread a
  · obtain ⟨p, q, hcur, hcur', hmoves⟩ := moves_of_thread h ha hs
    unfold mayCall
    rw [hcur, hcur']
    cases hmoves with
    | continues hnot => rw [hshut] at hnot; cases hnot
    | leaves hp hquiet => rw [hquiet.2]; simp
    | pops _ hcalls => rw [hcalls]; simp
    | calls _ hcalls => rw [hcalls]; simp
    | ends hquiet | clears hquiet | dies hquiet => rw [hquiet.2]; simp
  · have henq : ∀ runs, (s.enqueue runs).calls = s.calls ∧
        ((s.enqueue runs).current = s.current ∨ (s.enqueue runs).current = some .top) := by
      intro runs
      unfold State.enqueue
      split
      · exact ⟨rfl, .inl rfl⟩
      · have hcur := current_ensure (s.appendAll runs)
        have hcalls : (s.appendAll runs).ensureWorkerLocked.calls = s.calls := by
          unfold State.ensureWorkerLocked
          split <;> rfl
        refine ⟨hcalls, ?_⟩
        rw [hcur]
        split
        · exact .inl rfl
        · exact .inr rfl
    cases Step.of_step hs with
    | tryEnqueue | catchup =>
      obtain ⟨hcalls, hcur⟩ := henq (appended s _)
      rw [hcalls]
      refine ⟨Nat.le_refl _, Nat.add_le_add_left ?_ _⟩
      unfold mayCall
      rcases hcur with hcur | hcur
      · rw [hcur]
      · rw [hcur]
        exact Nat.zero_le _
    | shutdown => exact ⟨Nat.le_refl _, Nat.le_refl _⟩
    | continues | stops | drained | pops | calls | jobEnds | clears | dies =>
      exact (ha trivial).elim

end

/-- After a shutdown, whatever is enqueued: at most one more job is called, and none of
the calls made is lost; the threads alone are gone after at most six steps. -/
theorem shutdown_stops (s : State) (h : Reached s) (hshut : s.shutdown = true) :
    (∀ as s', runSchedule step s as = some s' →
      s.calls.length ≤ s'.calls.length ∧ s'.calls.length ≤ s.calls.length + 1) ∧
    ∀ as s', (∀ a ∈ as, OfThread a) → runSchedule step s as = some s' → as.length ≤ 6 := by
  constructor
  · intro as s' hrun
    have hreach : Reachable (· = s) step Free s' := Reachable.schedule (.start rfl) hrun
    obtain ⟨_, _, hlow, hhigh⟩ := hreach.invariant
      (I := fun t => Inv t ∧ t.shutdown = true ∧ s.calls.length ≤ t.calls.length ∧
        t.calls.length + mayCall t ≤ s.calls.length + mayCall s)
      (by rintro _ rfl; exact ⟨h.inv, hshut, Nat.le_refl _, Nat.le_refl _⟩)
      fun t a t' _ ht _ hs => by
        obtain ⟨hinv, hflag, hlow, hhigh⟩ := ht
        obtain ⟨hmore, hless⟩ := calls_step hinv.oneWorker hflag hs
        exact ⟨hinv.step hs, shutdown_kept hs hflag, hlow.trans hmore, hless.trans hhigh⟩
    have hmay : mayCall s ≤ 1 := by
      unfold mayCall
      split <;> simp
    exact ⟨hlow, by omega⟩
  · intro as s' hthread hrun
    have hranked : Ranked step OfThread (fun t => Inv t ∧ t.shutdown = true) stopRank :=
      fun t a t' ht ha hs =>
        ⟨⟨ht.1.step hs, shutdown_kept hs ht.2⟩, stopRank_falls ht.1.oneWorker ht.2 ha hs⟩
    have hlen := (hranked.schedule ⟨h.inv, hshut⟩ hthread hrun).2
    have hrank := stopRank_le s
    omega

/-- A shutdown while the worker stands before the lock: it still pops and calls its job. -/
theorem shutdown_stops_locking : ∃ s s', Reached s ∧ s.shutdown = true ∧ s.calls = [] ∧
    runSchedule step s [.takeNext 0, .callJob 0] = some s' ∧ s'.calls.length = 1 ∧
    s'.calls.length ≤ s.calls.length + 1 := by
  have hrun : runSchedule step oneQueued [.checkShutdown 0, .shutdown] =
      some { oneQueued with threads := [.locking], shutdown := true } := rfl
  have hreached : Reached { oneQueued with threads := [.locking], shutdown := true } :=
    Reachable.schedule (.next (.start rfl) trivial oneQueued_step) hrun
  exact ⟨_, _, hreached, rfl, rfl, rfl, rfl,
    ((shutdown_stops _ hreached rfl).1 [.takeNext 0, .callJob 0] _ rfl).2⟩

end Bluewave.Drain
