import Bluewave.SingleFlight
import Bluewave.Lib.JobQueue

/-! What the orchestrator tells its users, whatever the order of its lock sections and the
steps of its threads: every run shows what a queue with one server shows, whose steps are
atomic and which knows nothing of threads. -/
namespace Bluewave.AtomicQueue
open Lib Bluewave.Exceptions Bluewave.Tables Bluewave.Orchestrator Bluewave.SingleFlight

/-- The answer of `state`. -/
structure QueueState where
  inFlight : Option Date
  queued : List Date
  queueDepth : Nat
  deriving DecidableEq

def state (s : State) : QueueState := ⟨s.inFlight, s.queue.map Prod.fst, s.queue.length⟩

def isRunning (s : State) : Bool := s.inFlight.isSome

def queuedDates (s : State) : Finset Date := (s.queue.map Prod.fst).toFinset

/-- The steps of the orchestrator and the three ways to look at it. -/
inductive Op where
  | act (a : Action)
  | state
  | isRunning
  | queuedDates

def perform (s : State) : Op → Option State
  | .act a => step s a
  | .state => some s
  | .isRunning => some s
  | .queuedDates => some s

/-- What a step gives its caller, or the job it calls. -/
def shown (s : State) : Op → Option (JobQueue.Seen Date Bool)
  | .act (.tryEnqueue reportDate manual) =>
    let result := (s.tryEnqueue reportDate manual).1
    some (.request reportDate manual result.accepted result.queueDepth)
  | .act (.catchup ingested today capDays) =>
    match window today capDays with
    | .ok (_, candidates) =>
      let (enqueued, skipped) := (s.catchupSection ingested candidates).1
      some (.batch (candidates.filter (· ∉ ingested)) enqueued skipped false)
    | .error _ => none
  | .act (.callJob i) =>
    match s.threads[i]? with
    | some (.popped manual) => some (.begun s.inFlight manual)
    | _ => none
  | .act _ => none
  | .state => some (.look (state s).inFlight (state s).queued (state s).queueDepth)
  | .isRunning => some (.busy (isRunning s))
  | .queuedDates => some (.queued (queuedDates s))

/-- Steps in order, with what they show; `none` when one of them is not possible. -/
def observe : State → List Op → Option (List (JobQueue.Seen Date Bool) × State)
  | s, [] => some ([], s)
  | s, op :: ops =>
    (perform s op).bind fun t =>
      (observe t ops).map fun (os, u) => ((shown s op).toList ++ os, u)

def Emits (s : State) (o : Option (JobQueue.Seen Date Bool)) (t : State) : Prop :=
  ∃ op, perform s op = some t ∧ o = shown s op

theorem observe_shows {s t : State} {ops : List Op} {os : List (JobQueue.Seen Date Bool)}
    (h : observe s ops = some (os, t)) : Shows Emits s os t := by
  induction ops generalizing s os with
  | nil =>
    cases h
    exact .done t
  | cons op ops ih =>
    obtain ⟨u, hop, hrest⟩ := Option.bind_eq_some_iff.mp h
    obtain ⟨⟨os', t'⟩, hobserve, hcons⟩ := Option.map_eq_some_iff.mp hrest
    cases hcons
    exact .step ⟨op, hop, rfl⟩ (ih hobserve)

/-! ## The queue behind a state -/

/-- The job in hand of a worker in this phase. -/
def slotAt : Option Date → Option Phase → Slot (Date × Bool)
  | some d, some (.popped manual) => .taken (d, manual)
  | some d, some (.working _ manual) => .begun (d, manual)
  | some d, some (.finishing _ manual) => .begun (d, manual)
  | _, _ => .free

structure Represents (s : State) (q : JobQueue Date Bool) : Prop where
  inv : Inv s
  slot : q.slot = slotAt s.inFlight s.current
  pending : q.pending = s.queue

theorem slotAt_idle {p : Phase} (hp : p = .top ∨ p = .locking ∨ p = .exited ∨ p = .dead)
    (inFlight : Option Date) : slotAt inFlight (some p) = .free := by
  rcases hp with rfl | rfl | rfl | rfl <;> cases inFlight <;> rfl

section
variable {s s' : State} {q : JobQueue Date Bool} {i : Nat} {p : Phase} {d : Date}

/-- The date in flight is that of the job in hand. -/
theorem slot_job (h : Inv s) : (slotAt s.inFlight s.current).job.map Prod.fst = s.inFlight := by
  obtain ⟨run, hrun, -, hagree⟩ := h.flight
  rw [← hrun]
  cases hcur : s.current with
  | none =>
    rw [hcur] at hagree
    rw [hagree.1]
    rfl
  | some p =>
    rw [hcur] at hagree
    cases p with
    | popped manual =>
      obtain ⟨⟨d, rfl⟩, -⟩ := hagree
      rfl
    | working date manual | finishing date manual =>
      obtain ⟨⟨d, -, rfl⟩, -⟩ := hagree
      rfl
    | top | locking | exited | dead =>
      rw [hagree.1]
      rfl

/-- From the pop to the end of its `finally` a worker has a date in flight. -/
theorem inFlight_busy (h : Inv s) (date : Option Date) {manual : Bool}
    (hp : s.current = some (.popped manual) ∨ s.current = some (.finishing date manual)) :
    ∃ d, s.inFlight = some d := by
  obtain ⟨run, hrun, -, hagree⟩ := h.flight
  rw [← hrun]
  rcases hp with hp | hp
  · rw [hp] at hagree
    obtain ⟨⟨d, rfl⟩, -⟩ := hagree
    exact ⟨d, rfl⟩
  · rw [hp] at hagree
    obtain ⟨⟨d, -, rfl⟩, -⟩ := hagree
    exact ⟨d, rfl⟩

/-- The queue that a state in the invariant represents. -/
def queueOf (s : State) (h : Inv s) : JobQueue Date Bool where
  slot := slotAt s.inFlight s.current
  pending := s.queue
  distinct := by
    have hkeys : (slotAt s.inFlight s.current).job.toList.map Prod.fst = s.inFlight.toList := by
      rw [← Option.toList_map, slot_job h]
    rw [List.map_append, hkeys]
    exact h.nodup

theorem represents_queueOf (h : Inv s) : Represents s (queueOf s h) := ⟨h, rfl, rfl⟩

theorem Represents.job (h : Represents s q) : q.slot.job.map Prod.fst = s.inFlight := by
  rw [h.slot, slot_job h.inv]

/-- The dates held are the known ones. -/
theorem Represents.mem_held (h : Represents s q) :
    d ∈ JobQueue.held q.slot.job q.pending ↔ s.known d = true := by
  rw [State.known_iff, JobQueue.held, List.map_append, List.mem_append, ← Option.toList_map,
    h.job, Option.mem_toList, h.pending]

/-- Where no worker is alive nothing is in hand, and a new thread has nothing in hand. -/
theorem slot_enqueue (h : Inv s) (runs : List (Date × Bool)) :
    slotAt (s.enqueue runs).inFlight (s.enqueue runs).current = slotAt s.inFlight s.current := by
  rw [inFlight_enqueue]
  unfold State.enqueue
  split
  · rfl
  · rw [current_ensure]
    have hsame : (s.appendAll runs).current = s.current := rfl
    have halive : (s.appendAll runs).workerAlive = s.workerAlive := rfl
    rw [hsame, halive]
    split
    · rfl
    · rename_i hdead
      obtain ⟨run, hrun, -, hagree⟩ := h.flight
      obtain ⟨rfl, -⟩ := hagree.idle (by simpa using hdead)
      rw [← hrun]
      rfl

theorem queue_enqueue (s : State) (runs : List (Date × Bool)) :
    (s.enqueue runs).queue = s.queue ++ runs := by
  unfold State.enqueue State.ensureWorkerLocked
  split
  · rename_i hnil
    rw [hnil, List.append_nil]
  · split <;> rfl

/-! ## The simulation -/

/-- What an enqueuing step answers is what the represented queue answers, and it lets the
appended runs in. -/
theorem Represents.enqueue (h : Represents s q) {a : Action}
    (hinv : Inv (s.enqueue (appended s a))) {o : JobQueue.Seen Date Bool}
    (hanswer : JobQueue.Answers q.slot.job q.pending o) (hbegins : o.begins = [])
    (haccepted : o.accepted = appended s a) :
    ∃ q', JobQueue.Move q (some o) q' ∧ Represents (s.enqueue (appended s a)) q' := by
  refine ⟨queueOf _ hinv, .answer hanswer hbegins ?_ ?_, represents_queueOf hinv⟩
  · exact (slot_enqueue h.inv _).trans h.slot.symm
  · rw [haccepted, h.pending]
    exact queue_enqueue s _

theorem Represents.tryEnqueue (h : Represents s q) (d : Date) (manual : Bool) :
    ∃ q', JobQueue.Move q (shown s (.act (.tryEnqueue d manual))) q' ∧
      Represents (s.enqueue (appended s (.tryEnqueue d manual))) q' := by
  have hshown : shown s (.act (.tryEnqueue d manual)) = some (.request d manual (!s.known d)
      (s.queue.length + if s.known d then 0 else 1)) := by
    simp only [shown, State.tryEnqueue]
    cases s.known d with
    | true => rfl
    | false => simp [State.append]
  rw [hshown]
  refine h.enqueue (h.inv.enqueue _) ⟨?_, ?_⟩ rfl ?_
  · simp [h.mem_held]
  · rw [h.pending]
    cases s.known d <;> rfl
  · simp only [appended]
    cases s.known d <;> rfl

theorem Represents.catchup (h : Represents s q) {ingested candidates : List Date}
    {today earliest : Date} {capDays : Int}
    (hwindow : window today capDays = .ok (earliest, candidates)) :
    ∃ q', JobQueue.Move q (shown s (.act (.catchup ingested today capDays))) q' ∧
      Represents (s.enqueue (appended s (.catchup ingested today capDays))) q' := by
  have hshown : shown s (.act (.catchup ingested today capDays)) =
      some (.batch (candidates.filter (· ∉ ingested)) (s.missing ingested candidates)
        (s.skipped ingested candidates) false) := by
    simp only [shown, hwindow, State.catchupSection_eq]
  rw [hshown]
  refine h.enqueue (h.inv.enqueue _) ⟨?_, ?_⟩ rfl ?_
  · rw [State.missing, List.filter_filter]
    refine List.filter_congr fun d _ => ?_
    simp [h.mem_held, Bool.and_comm]
  · rw [State.skipped, List.filter_filter]
    refine List.filter_congr fun d _ => ?_
    simp [h.mem_held, Bool.and_comm]
  · simp only [appended, hwindow]
    rfl

/-- Looking. -/
theorem look_move {o : JobQueue.Seen Date Bool}
    (hanswer : JobQueue.Answers q.slot.job q.pending o) (hbegins : o.begins = [])
    (haccepted : o.accepted = []) : JobQueue.Move q (some o) q := by
  refine .answer hanswer hbegins rfl ?_
  rw [haccepted, List.append_nil]

/-- A step of the worker from `p` to `r`. -/
theorem Represents.worker (h : Represents s q) {a : Action} (hs : step s a = some s') {r : Phase}
    (hp : s.threads[i]? = some p) (hd : p ≠ .dead) (hw : s'.worker = s.worker)
    (ht : s'.threads = s.threads.set i r) : Inv s' ∧ s.current = some p ∧
      q.slot = slotAt s.inFlight (some p) ∧ s'.current = some r := by
  obtain ⟨hworker, hcur⟩ := h.inv.oneWorker.current hp hd
  refine ⟨h.inv.step hs, hcur, ?_, (h.inv.oneWorker.set hworker hw ht).2⟩
  rw [← hcur]
  exact h.slot

/-- Every step of the orchestrator is one of the queue, or none. -/
theorem simulates : Simulates Emits JobQueue.Move Represents := by
  intro s q o s' h hemits
  obtain ⟨op, hs, rfl⟩ := hemits
  cases op with
  | state =>
    cases hs
    refine ⟨q, .single (look_move ⟨h.job.symm, ?_, ?_⟩ rfl rfl), h⟩
    · rw [h.pending]
      rfl
    · rw [h.pending]
      rfl
  | isRunning =>
    cases hs
    refine ⟨q, .single (look_move ?_ rfl rfl), h⟩
    show s.inFlight.isSome = q.slot.job.isSome
    rw [← h.job, Option.isSome_map]
  | queuedDates =>
    cases hs
    refine ⟨q, .single (look_move ?_ rfl rfl), h⟩
    show _ = (q.pending.map Prod.fst).toFinset
    rw [h.pending]
    rfl
  | act a =>
    have hstep : step s a = some s' := hs
    cases Step.of_step hstep with
    | @tryEnqueue d manual =>
      obtain ⟨q', hmove, hq'⟩ := h.tryEnqueue d manual
      exact ⟨q', .single hmove, hq'⟩
    | @catchup ingested today capDays =>
      simp only [step] at hstep
      split at hstep
      · rename_i hwindow
        obtain ⟨q', hmove, hq'⟩ := h.catchup hwindow
        exact ⟨q', .single hmove, hq'⟩
      · cases hstep
    | continues hp | stops hp | drained hp | dies hp =>
      obtain ⟨hinv, -, hslot, hcur⟩ := h.worker hstep hp (by simp) rfl rfl
      rw [slotAt_idle (by simp)] at hslot
      refine ⟨q, .done q, hinv, ?_, h.pending⟩
      rw [hslot, hcur, slotAt_idle (by simp)]
    | @pops i d manual rest hp hq =>
      obtain ⟨hinv, -, hslot, hcur⟩ := h.worker hstep hp (by simp) rfl rfl
      rw [slotAt_idle (by simp)] at hslot
      refine ⟨queueOf _ hinv, .single (.take hslot (h.pending.trans hq) ?_), represents_queueOf hinv⟩
      show slotAt (some d) _ = _
      rw [hcur]
      rfl
    | @calls i manual hp =>
      obtain ⟨hinv, hpopped, hslot, hcur⟩ := h.worker hstep hp (by simp) rfl rfl
      obtain ⟨d, hd⟩ := inFlight_busy h.inv none (.inl hpopped)
      have hshown : shown s (.act (.callJob i)) = some (.begun (some d) manual) := by
        simp only [shown, hp, hd]
      rw [hd] at hslot
      rw [hshown]
      refine ⟨queueOf _ hinv, .single (.begin hslot ?_ h.pending.symm), represents_queueOf hinv⟩
      show slotAt s.inFlight _ = _
      rw [hcur, hd]
      rfl
    | @jobEnds i outcome date manual hp =>
      obtain ⟨hinv, -, hslot, hcur⟩ := h.worker hstep hp (by simp) rfl rfl
      refine ⟨q, .done q, hinv, ?_, h.pending⟩
      rw [hslot, hcur]
      show slotAt s.inFlight _ = slotAt s.inFlight _
      cases s.inFlight <;> rfl
    | @clears i date manual hp =>
      obtain ⟨hinv, hfinishing, hslot, hcur⟩ := h.worker hstep hp (by simp) rfl rfl
      obtain ⟨d, hd⟩ := inFlight_busy h.inv date (.inr hfinishing)
      rw [hd] at hslot
      exact ⟨queueOf _ hinv, .single (.finish hslot rfl h.pending.symm), represents_queueOf hinv⟩
    | shutdown => exact ⟨q, .done q, h.inv.step hstep, h.slot, h.pending⟩

end

theorem represents_initial : Represents initial JobQueue.empty := ⟨inv_initial, rfl, rfl⟩

/-- In every interleaving the answers of `try_enqueue`, `catchup_missing`, `state`,
`is_running` and `queued_dates` and the calls of the job are those of the one queue, in the
same order. So jobs are called in the order in which their runs were accepted, each once; no
date waits twice; and what was answered and called before tells each answer, up to whether
the worker has popped the next run already or still has the last one in flight. -/
theorem interleavings_fit (ops : List Op) (os : List (JobQueue.Seen Date Bool)) (s : State)
    (h : observe initial ops = some (os, s)) :
    (∃ q, Shows JobQueue.Move .empty os q ∧ Represents s q) ∧
      JobQueue.begins os <+: JobQueue.accepted os ∧
      ((JobQueue.waiting os).map Prod.fst).Nodup ∧
      ∀ past o later, os = past ++ o :: later → JobQueue.Fits past o := by
  obtain ⟨q, hshows, hq⟩ := simulates.shows represents_initial (observe_shows h)
  exact ⟨⟨q, hshows, hq⟩, JobQueue.shows_fits hshows⟩

/-- A run is accepted and popped; its date is in flight and is refused; its job is called. -/
def poppedOps : List Op :=
  [.act (.tryEnqueue firstDay true), .act (.checkShutdown 0), .act (.takeNext 0), .state,
    .act (.tryEnqueue firstDay false), .act (.callJob 0), .isRunning]

def poppedShown : List (JobQueue.Seen Date Bool) :=
  [.request firstDay true true 1, .look (some firstDay) [] 0, .request firstDay false false 0,
    .begun (some firstDay) true, .busy true]

theorem interleavings_fit_popped :
    ∃ s, observe initial poppedOps = some (poppedShown, s) ∧
      JobQueue.begins poppedShown <+: JobQueue.accepted poppedShown ∧
      ∀ past o later, poppedShown = past ++ o :: later → JobQueue.Fits past o := by
  have hrun : observe initial poppedOps = some (poppedShown, { initial with
      inFlight := some firstDay, worker := some 0, threads := [.working (some firstDay) true]
      accepted := [(firstDay, true)], calls := [(some firstDay, true)] }) := rfl
  obtain ⟨-, hbegins, -, hfits⟩ := interleavings_fit poppedOps poppedShown _ hrun
  exact ⟨_, hrun, hbegins, hfits⟩

end Bluewave.AtomicQueue
