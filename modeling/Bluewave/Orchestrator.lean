import Mathlib.Data.List.Sort
import Bluewave.Tables
import Bluewave.Lib.Result
import Bluewave.Lib.Transition

/-! The in-process queue and its worker thread, one lock section at a time. An
enqueuer looks at the worker through `is_alive()`, which stays true for a while
after the worker has seen an empty queue and left its loop, so a thread that has
returned and a thread that is gone are two phases. -/
namespace Bluewave.Orchestrator
open Lib Bluewave.Exceptions Bluewave.Tables

/-- Where a thread stands in `_consume`. -/
inductive Phase where
  /-- before `while not self._shutdown.is_set()` -/
  | top
  /-- before the lock section that pops -/
  | locking
  /-- behind it, `self._job_fn` not called yet -/
  | popped (manual : Bool)
  /-- in `self._job_fn`, called with the `self._in_flight` of that moment -/
  | working (date : Option Date) (manual : Bool)
  /-- before the lock section of the `finally` -/
  | finishing (date : Option Date) (manual : Bool)
  /-- the function has returned, the thread is still alive -/
  | exited
  | dead
  deriving DecidableEq

def Phase.isAlive : Phase → Bool
  | .dead => false
  | _ => true

/-- The thread has not left its loop: it will look at the queue again. -/
def Phase.inspects : Phase → Bool
  | .exited => false
  | .dead => false
  | _ => true

/-- The fields of `Orchestrator`, the threads it has started (`worker` is an index
into them) and, for the statements only, what was accepted, finished and called. -/
structure State where
  queue : List (Date × Bool)
  inFlight : Option Date
  worker : Option Nat
  threads : List Phase
  shutdown : Bool
  accepted : List (Date × Bool)
  finished : List (Date × Bool)
  calls : List (Option Date × Bool)
  deriving DecidableEq

def initial : State := ⟨[], none, none, [], false, [], [], []⟩

structure EnqueueResult where
  accepted : Bool
  reason : String
  queueDepth : Nat
  deriving DecidableEq

namespace State

def current (s : State) : Option Phase := s.worker.bind fun i => s.threads[i]?

def workerAlive (s : State) : Bool := (s.current.map Phase.isAlive).getD false

def ensureWorkerLocked (s : State) : State :=
  if s.workerAlive then s
  else { s with worker := some s.threads.length, threads := s.threads ++ [.top] }

/-- `self._queue.append(run)`. -/
def append (s : State) (run : Date × Bool) : State :=
  { s with queue := s.queue ++ [run], accepted := s.accepted ++ [run] }

/-- `in_flight_or_queued`. -/
def known (s : State) (reportDate : Date) : Bool :=
  some reportDate = s.inFlight ∨ s.queue.any fun run => run.1 = reportDate

def tryEnqueue (s : State) (reportDate : Date) (manual : Bool) : EnqueueResult × State :=
  if s.known reportDate then (⟨false, "already_queued", s.queue.length⟩, s)
  else (⟨true, "queued", (s.append (reportDate, manual)).queue.length⟩,
    (s.append (reportDate, manual)).ensureWorkerLocked)

/-- The loop of `catchup_missing` over its candidates: enqueued and skipped. -/
def catchupLoop (ingested queuedNow : List Date) (inFlight : Option Date) :
    List Date → State → (List Date × List Date) × State
  | [], s => (([], []), s)
  | d :: candidates, s =>
    if d ∈ ingested then catchupLoop ingested queuedNow inFlight candidates s
    else if d ∈ queuedNow ∨ some d = inFlight then
      let ((enqueued, skipped), s') := catchupLoop ingested queuedNow inFlight candidates s
      ((enqueued, d :: skipped), s')
    else
      let ((enqueued, skipped), s') :=
        catchupLoop ingested queuedNow inFlight candidates (s.append (d, false))
      ((d :: enqueued, skipped), s')

/-- The lock section of `catchup_missing`. -/
def catchupSection (s : State) (ingested candidates : List Date) :
    (List Date × List Date) × State :=
  let (result, s') := catchupLoop ingested (s.queue.map Prod.fst) s.inFlight candidates s
  (result, if result.1 = [] then s' else s'.ensureWorkerLocked)

def setThread (s : State) (i : Nat) (p : Phase) : State := { s with threads := s.threads.set i p }

end State

/-- `earliest` and `candidates` of `catchup_missing`. -/
def window (today : Date) (capDays : Int) : Except Exn (Date × List Date) := do
  let earliest ← today.minusDays capDays
  let days ← (List.range capDays.toNat).mapM fun (i : Nat) => today.minusDays (i + 1)
  pure (earliest, days.insertionSort (· ≤ ·))

/-- The atomic steps. `i` is a thread. -/
inductive Action where
  | tryEnqueue (reportDate : Date) (manual : Bool)
  | catchup (ingested : List Date) (today : Date) (capDays : Int)
  | checkShutdown (i : Nat)
  | takeNext (i : Nat)
  | callJob (i : Nat)
  | jobEnds (i : Nat) (outcome : Except Exn String)
  | clear (i : Nat)
  | dies (i : Nat)
  | shutdown

open State in
def step (s : State) : Action → Option State
  | .tryEnqueue reportDate manual => some (s.tryEnqueue reportDate manual).2
  | .catchup ingested today capDays =>
    match window today capDays with
    | .ok (_, candidates) => some (s.catchupSection ingested candidates).2
    | .error _ => none
  | .checkShutdown i =>
    match s.threads[i]? with
    | some .top => some (s.setThread i (if s.shutdown then .exited else .locking))
    | _ => none
  | .takeNext i =>
    match s.threads[i]?, s.queue with
    | some .locking, [] => some (s.setThread i .exited)
    | some .locking, (d, manual) :: rest =>
      some { s.setThread i (.popped manual) with queue := rest, inFlight := some d }
    | _, _ => none
  | .callJob i =>
    match s.threads[i]? with
    | some (.popped manual) =>
      some { s.setThread i (.working s.inFlight manual) with
        calls := s.calls ++ [(s.inFlight, manual)] }
    | _ => none
  | .jobEnds i _ =>
    -- an `Exception` of the job is logged and goes no further
    match s.threads[i]? with
    | some (.working date manual) => some (s.setThread i (.finishing date manual))
    | _ => none
  | .clear i =>
    match s.threads[i]? with
    | some (.finishing date manual) =>
      some { s.setThread i .top with
        inFlight := none, finished := s.finished ++ date.toList.map fun d => (d, manual) }
    | _ => none
  | .dies i =>
    match s.threads[i]? with
    | some .exited => some (s.setThread i .dead)
    | _ => none
  | .shutdown => some { s with shutdown := true }

/-! ## The window -/

theorem minusDays_ok {d e : Date} {n : Int} (h : d.minusDays n = .ok e) :
    (e.ordinal : Int) = d.ordinal - n := by
  unfold Date.minusDays at h
  split at h
  · cases h
    simp only
    omega
  · cases h

theorem minusDays_eq_ok {d e : Date} {n : Int} (h : (e.ordinal : Int) = d.ordinal - n) :
    d.minusDays n = .ok e := by
  have hone := e.one_le
  have hmax := e.le_max
  unfold Date.minusDays
  rw [dif_pos (by omega)]
  have hord : ((d.ordinal : Int) - n).toNat = e.ordinal := by omega
  cases e
  simp only at hord
  simp only [hord]

theorem window_ok {today earliest : Date} {capDays : Int} {candidates : List Date}
    (h : window today capDays = .ok (earliest, candidates)) :
    today.minusDays capDays = .ok earliest ∧ ∃ days,
      List.Forall₂ (fun i d => today.minusDays ((i : Nat) + 1) = .ok d) (List.range capDays.toNat) days ∧
      candidates = days.insertionSort (· ≤ ·) := by
  obtain ⟨first, hfirst, h⟩ := Result.bind_eq_ok.mp h
  obtain ⟨days, hdays, h⟩ := Result.bind_eq_ok.mp h
  cases h
  exact ⟨hfirst, days, Result.mapM_eq_ok.mp hdays, rfl⟩

theorem days_ordinal {today : Date} {offsets : List Nat} {days : List Date}
    (h : List.Forall₂ (fun i d => today.minusDays ((i : Nat) + 1) = .ok d) offsets days) :
    days.map (fun d => (d.ordinal : Int)) =
      offsets.map fun (i : Nat) => (today.ordinal : Int) - ((i : Int) + 1) := by
  induction h with
  | nil => rfl
  | cons hd _ ih => rw [List.map_cons, List.map_cons, ih, minusDays_ok hd]

/-- No candidate comes twice. -/
theorem window_nodup {today earliest : Date} {capDays : Int} {candidates : List Date}
    (h : window today capDays = .ok (earliest, candidates)) : candidates.Nodup := by
  obtain ⟨_, days, hall, rfl⟩ := window_ok h
  rw [(List.perm_insertionSort _ days).nodup_iff]
  refine List.Nodup.of_map (fun d : Date => (d.ordinal : Int)) ?_
  rw [days_ordinal hall]
  refine List.nodup_range.map fun (i j : Nat) hij => ?_
  have : (today.ordinal : Int) - ((i : Int) + 1) = today.ordinal - ((j : Int) + 1) := hij
  omega

/-- A candidate is not before `earliest`. -/
theorem window_earliest_le {today earliest : Date} {capDays : Int} {candidates : List Date}
    (h : window today capDays = .ok (earliest, candidates)) {d : Date} (hd : d ∈ candidates) :
    earliest ≤ d := by
  obtain ⟨hearliest, days, hall, rfl⟩ := window_ok h
  rw [(List.perm_insertionSort _ days).mem_iff] at hd
  have hback : ∃ i ∈ List.range capDays.toNat, today.minusDays ((i : Nat) + 1) = .ok d := by
    obtain ⟨n, hn, rfl⟩ := List.getElem_of_mem hd
    have hlen := hall.length_eq
    exact ⟨_, List.getElem_mem (hlen ▸ hn), (List.forall₂_iff_get.mp hall).2 n (hlen ▸ hn) hn⟩
  obtain ⟨i, hi, hminus⟩ := hback
  have he := minusDays_ok hearliest
  have hm := minusDays_ok hminus
  have := List.mem_range.mp hi
  show earliest.ordinal ≤ d.ordinal
  omega

/-! ## The lock sections -/

namespace State

/-- The candidates a lock section appends. -/
def missing (s : State) (ingested candidates : List Date) : List Date :=
  candidates.filter fun d => d ∉ ingested ∧ s.known d = false

/-- The candidates it skips. -/
def skipped (s : State) (ingested candidates : List Date) : List Date :=
  candidates.filter fun d => d ∉ ingested ∧ s.known d = true

def appendAll (s : State) (runs : List (Date × Bool)) : State :=
  { s with queue := s.queue ++ runs, accepted := s.accepted ++ runs }

theorem known_iff {s : State} {d : Date} :
    s.known d = true ↔ s.inFlight = some d ∨ d ∈ s.queue.map Prod.fst := by
  simp only [known, List.any_eq_true, decide_eq_true_eq, List.mem_map, eq_comm (b := s.inFlight)]

theorem known_eq_false {s : State} {d : Date} :
    s.known d = false ↔ s.inFlight ≠ some d ∧ d ∉ s.queue.map Prod.fst := by
  rw [← Bool.not_eq_true, known_iff, not_or]

/-- The loop looks the dates up in the state before it, whatever it appends. -/
theorem catchupLoop_eq (s t : State) (ingested candidates : List Date) :
    catchupLoop ingested (s.queue.map Prod.fst) s.inFlight candidates t =
      ((s.missing ingested candidates, s.skipped ingested candidates),
        t.appendAll ((s.missing ingested candidates).map fun d => (d, false))) := by
  induction candidates generalizing t with
  | nil => simp [catchupLoop, missing, skipped, appendAll]
  | cons d candidates ih =>
    have hknown : (d ∈ s.queue.map Prod.fst ∨ some d = s.inFlight) ↔ s.known d = true := by
      rw [known_iff, or_comm, eq_comm]
    by_cases hi : d ∈ ingested
    · simp only [catchupLoop, if_pos hi, ih]
      simp [missing, skipped, hi]
    · cases hk : s.known d with
      | true =>
        simp only [catchupLoop, if_neg hi, if_pos (hknown.mpr hk), ih]
        simp [missing, skipped, hi, hk]
      | false =>
        have hnot : ¬ (d ∈ s.queue.map Prod.fst ∨ some d = s.inFlight) :=
          hknown.not.mpr (by simp [hk])
        simp only [catchupLoop, if_neg hi, if_neg hnot, ih]
        simp [missing, skipped, hi, hk, appendAll, append]

/-- Append, and look after the worker when anything was appended. -/
def enqueue (s : State) (runs : List (Date × Bool)) : State :=
  if runs = [] then s else (s.appendAll runs).ensureWorkerLocked

theorem tryEnqueue_eq (s : State) (d : Date) (manual : Bool) :
    (s.tryEnqueue d manual).2 = s.enqueue (if s.known d then [] else [(d, manual)]) := by
  unfold tryEnqueue enqueue
  cases s.known d <;> rfl

theorem catchupSection_eq (s : State) (ingested candidates : List Date) :
    s.catchupSection ingested candidates =
      ((s.missing ingested candidates, s.skipped ingested candidates),
        s.enqueue ((s.missing ingested candidates).map fun d => (d, false))) := by
  rw [catchupSection, catchupLoop_eq]
  simp only [enqueue, List.map_eq_nil_iff]
  split
  · rename_i hnil
    simp [hnil, appendAll]
  · rfl

end State

/-- The runs an action appends to the queue. -/
def appended (s : State) : Action → List (Date × Bool)
  | .tryEnqueue reportDate manual => if s.known reportDate then [] else [(reportDate, manual)]
  | .catchup ingested today capDays =>
    match window today capDays with
    | .ok (_, candidates) => (s.missing ingested candidates).map fun d => (d, false)
    | .error _ => []
  | _ => []

/-- What is appended is new and distinct. -/
theorem appended_new (s : State) (a : Action) :
    ((appended s a).map Prod.fst).Nodup ∧ ∀ run ∈ appended s a, s.known run.1 = false := by
  cases a with
  | tryEnqueue d manual =>
    simp only [appended]
    split
    · simp
    · rename_i hk
      simpa using hk
  | catchup ingested today capDays =>
    simp only [appended]
    split
    · rename_i hwindow
      have hid : (Prod.fst ∘ fun d : Date => (d, false)) = id := rfl
      rw [List.map_map, hid, List.map_id]
      refine ⟨(window_nodup hwindow).filter _, fun run hrun => ?_⟩
      obtain ⟨d, hd, rfl⟩ := List.mem_map.mp hrun
      exact (of_decide_eq_true (List.mem_filter.mp hd).2).2
    · simp
  | _ => simp [appended]

/-! ## What a step does -/

/-- Each action with its guard and the state it leaves. -/
inductive Step (s : State) : Action → State → Prop where
  | tryEnqueue {reportDate : Date} {manual : Bool} :
      Step s (.tryEnqueue reportDate manual) (s.enqueue (appended s (.tryEnqueue reportDate manual)))
  | catchup {ingested : List Date} {today : Date} {capDays : Int} :
      Step s (.catchup ingested today capDays)
        (s.enqueue (appended s (.catchup ingested today capDays)))
  | continues {i : Nat} (hp : s.threads[i]? = some .top) (hshut : s.shutdown = false) :
      Step s (.checkShutdown i) (s.setThread i .locking)
  | stops {i : Nat} (hp : s.threads[i]? = some .top) (hshut : s.shutdown = true) :
      Step s (.checkShutdown i) (s.setThread i .exited)
  | drained {i : Nat} (hp : s.threads[i]? = some .locking) (hq : s.queue = []) :
      Step s (.takeNext i) (s.setThread i .exited)
  | pops {i : Nat} {d : Date} {manual : Bool} {rest : List (Date × Bool)}
      (hp : s.threads[i]? = some .locking) (hq : s.queue = (d, manual) :: rest) :
      Step s (.takeNext i) { s.setThread i (.popped manual) with queue := rest, inFlight := some d }
  | calls {i : Nat} {manual : Bool} (hp : s.threads[i]? = some (.popped manual)) :
      Step s (.callJob i) { s.setThread i (.working s.inFlight manual) with
        calls := s.calls ++ [(s.inFlight, manual)] }
  | jobEnds {i : Nat} {outcome : Except Exn String} {date : Option Date} {manual : Bool}
      (hp : s.threads[i]? = some (.working date manual)) :
      Step s (.jobEnds i outcome) (s.setThread i (.finishing date manual))
  | clears {i : Nat} {date : Option Date} {manual : Bool}
      (hp : s.threads[i]? = some (.finishing date manual)) :
      Step s (.clear i) { s.setThread i .top with
        inFlight := none, finished := s.finished ++ date.toList.map fun d => (d, manual) }
  | dies {i : Nat} (hp : s.threads[i]? = some .exited) : Step s (.dies i) (s.setThread i .dead)
  | shutdown : Step s .shutdown { s with shutdown := true }

theorem Step.of_step {s s' : State} {a : Action} (hs : step s a = some s') : Step s a s' := by
  cases a with
  | tryEnqueue d manual =>
    cases hs
    exact s.tryEnqueue_eq d manual ▸ .tryEnqueue
  | catchup ingested today capDays =>
    have henq : s' = s.enqueue (appended s (.catchup ingested today capDays)) := by
      simp only [step] at hs
      split at hs
      · rename_i hwindow
        cases hs
        simp only [appended, hwindow, State.catchupSection_eq]
      · cases hs
    exact henq ▸ .catchup
  | checkShutdown i =>
    simp only [step] at hs
    split at hs
    · rename_i hp
      cases hs
      split
      · rename_i hshut
        exact .stops hp hshut
      · rename_i hshut
        exact .continues hp (by simpa using hshut)
    · cases hs
  | takeNext i =>
    simp only [step] at hs
    split at hs
    · rename_i hp hq
      cases hs
      exact .drained hp ‹_›
    · rename_i hp hq
      cases hs
      exact .pops hp hq
    · cases hs
  | callJob i =>
    simp only [step] at hs
    split at hs
    · rename_i hp
      cases hs
      exact .calls hp
    · cases hs
  | jobEnds i outcome =>
    simp only [step] at hs
    split at hs
    · rename_i hp
      cases hs
      exact .jobEnds hp
    · cases hs
  | clear i =>
    simp only [step] at hs
    split at hs
    · rename_i hp
      cases hs
      exact .clears hp
    · cases hs
  | dies i =>
    simp only [step] at hs
    split at hs
    · rename_i hp
      cases hs
      exact .dies hp
    · cases hs
  | shutdown =>
    cases hs
    exact .shutdown

section
variable {s s' : State} {a : Action} {i : Nat} {date : Option Date} {manual : Bool}

/-- Enqueueing starts at most a thread and leaves the slot alone. -/
theorem threads_enqueue (s : State) (runs : List (Date × Bool)) :
    ∃ more, (s.enqueue runs).threads = s.threads ++ more ∧ ∀ p ∈ more, p = .top := by
  unfold State.enqueue State.ensureWorkerLocked
  split
  · exact ⟨[], by simp, by simp⟩
  · split
    · exact ⟨[], by simp [State.appendAll], by simp⟩
    · exact ⟨[.top], rfl, by simp⟩

theorem inFlight_enqueue (s : State) (runs : List (Date × Bool)) :
    (s.enqueue runs).inFlight = s.inFlight := by
  unfold State.enqueue State.ensureWorkerLocked
  split
  · rfl
  · split <;> rfl

theorem accepted_enqueue (s : State) (runs : List (Date × Bool)) :
    (s.enqueue runs).accepted = s.accepted ++ runs := by
  unfold State.enqueue State.ensureWorkerLocked
  split
  · rename_i hnil
    rw [hnil, List.append_nil]
  · split <;> rfl

/-- What a step accepts is what it appends. -/
theorem Step.accepted (h : Step s a s') : s'.accepted = s.accepted ++ appended s a := by
  cases h with
  | tryEnqueue | catchup => exact accepted_enqueue s _
  | continues | stops | drained | pops | calls | jobEnds | clears | dies | shutdown =>
    exact (List.append_nil _).symm

/-- Only the thread that takes the step moves. -/
theorem getElem?_setThread {p q : Phase} {j : Nat} (hp : s.threads[j]? = some p) :
    (s.setThread j q).threads[i]? = if i = j then some q else s.threads[i]? := by
  have hlt := (List.getElem?_eq_some_iff.mp hp).1
  by_cases hij : i = j
  · subst hij
    simp [State.setThread, hlt]
  · rw [if_neg hij]
    exact List.getElem?_set_ne (Ne.symm hij)

/-- A thread is in a job when it was and the job has not ended, or when it has just
called it with the date in flight. -/
theorem Step.working_iff (h : Step s a s') :
    s'.threads[i]? = some (.working date manual) ↔
      (s.threads[i]? = some (.working date manual) ∧ ∀ outcome, a ≠ .jobEnds i outcome) ∨
      (s.threads[i]? = some (.popped manual) ∧ a = .callJob i ∧ date = s.inFlight) := by
  have henq : ∀ runs, (s.enqueue runs).threads[i]? = some (.working date manual) ↔
      s.threads[i]? = some (.working date manual) := by
    intro runs
    obtain ⟨more, hmore, htop⟩ := threads_enqueue s runs
    rw [hmore, List.getElem?_append]
    split
    · rfl
    · rename_i hge
      rw [List.getElem?_eq_none (Nat.le_of_not_lt hge)]
      refine iff_of_false (fun hw => ?_) (by simp)
      cases htop _ (List.mem_of_getElem? hw)
  cases h with
  | tryEnqueue | catchup => simp [henq]
  | continues hp | stops hp | drained hp | pops hp | calls hp | jobEnds hp | clears hp | dies hp =>
    simp only [getElem?_setThread hp]
    split
    · rename_i hij
      subst hij
      simp [hp, eq_comm, and_comm]
    · rename_i hij
      simp [Ne.symm hij]
  | shutdown => simp

end

end Bluewave.Orchestrator
