import Mathlib.Data.Finset.Dedup
import Mathlib.Data.List.Nodup
import Bluewave.Lib.Simulation

/-! A first-in first-out queue with one server, as one thing its users speak to: no two jobs
that wait or are served have one key. What was answered before tells, up to whether the
server has its next job in hand or still its last, what every answer is. -/
namespace Lib

/-- The job in hand, and whether it has been begun. -/
inductive Slot (J : Type) where
  | free
  | taken (job : J)
  | begun (job : J)

def Slot.job {J : Type} : Slot J → Option J
  | .free => none
  | .taken job => some job
  | .begun job => some job

/-- The job in hand that has not begun. -/
def Slot.next {J : Type} : Slot J → Option J
  | .taken job => some job
  | _ => none

structure JobQueue (K P : Type) where
  slot : Slot (K × P)
  pending : List (K × P)
  distinct : ((slot.job.toList ++ pending).map Prod.fst).Nodup

namespace JobQueue

/-- What the users and the server's jobs see: requests for one key and for several, three
ways to look, and the beginning of a job. -/
inductive Seen (K P : Type) where
  | request (key : K) (payload : P) (accepted : Bool) (depth : Nat)
  | batch (asked taken refused : List K) (payload : P)
  | look (served : Option K) (pending : List K) (depth : Nat)
  | busy (served : Bool)
  | queued (keys : Finset K)
  | begun (key : Option K) (payload : P)
  deriving DecidableEq

variable {K P : Type}

def empty : JobQueue K P := ⟨.free, [], List.nodup_nil⟩

/-- The keys of what is served or waits. -/
def held (served : Option (K × P)) (pending : List (K × P)) : List K :=
  (served.toList ++ pending).map Prod.fst

section
variable [DecidableEq K]

/-- What the users are told when `served` is in hand and `pending` waits. -/
def Answers (served : Option (K × P)) (pending : List (K × P)) : Seen K P → Prop
  | .request key _ accepted depth =>
    accepted = decide (key ∉ held served pending) ∧
      depth = pending.length + if accepted then 1 else 0
  | .batch asked taken refused _ =>
    taken = asked.filter (· ∉ held served pending) ∧
      refused = asked.filter (· ∈ held served pending)
  | .look key keys depth =>
    key = served.map Prod.fst ∧ keys = pending.map Prod.fst ∧ depth = pending.length
  | .busy b => b = served.isSome
  | .queued keys => keys = (pending.map Prod.fst).toFinset
  | .begun key payload => ∃ k, key = some k ∧ served = some (k, payload)

/-- The jobs an answer lets in. -/
def Seen.accepted : Seen K P → List (K × P)
  | .request key payload true _ => [(key, payload)]
  | .batch _ taken _ payload => taken.map fun key => (key, payload)
  | _ => []

/-- The job it begins. -/
def Seen.begins : Seen K P → List (K × P)
  | .begun (some key) payload => [(key, payload)]
  | _ => []

/-- The steps. Taking the next job and being done with it are silent. -/
inductive Move (q : JobQueue K P) : Option (Seen K P) → JobQueue K P → Prop where
  | answer {o : Seen K P} {q' : JobQueue K P} (hanswer : Answers q.slot.job q.pending o)
      (hbegins : o.begins = []) (hslot : q'.slot = q.slot)
      (hpending : q'.pending = q.pending ++ o.accepted) : Move q (some o) q'
  | take {job : K × P} {q' : JobQueue K P} (hfree : q.slot = .free)
      (hhead : q.pending = job :: q'.pending) (hslot : q'.slot = .taken job) : Move q none q'
  | begin {key : K} {payload : P} {q' : JobQueue K P} (htaken : q.slot = .taken (key, payload))
      (hslot : q'.slot = .begun (key, payload)) (hpending : q'.pending = q.pending) :
      Move q (some (.begun (some key) payload)) q'
  | finish {job : K × P} {q' : JobQueue K P} (hbegun : q.slot = .begun job)
      (hslot : q'.slot = .free) (hpending : q'.pending = q.pending) : Move q none q'

end

/-! ## The history -/

def accepted (os : List (Seen K P)) : List (K × P) := os.flatMap Seen.accepted

def begins (os : List (Seen K P)) : List (K × P) := os.flatMap Seen.begins

/-- Accepted and not begun. -/
def waiting (os : List (Seen K P)) : List (K × P) := (accepted os).drop (begins os).length

/-- What may be in hand and what waits after the answers `past`. -/
inductive View (past : List (Seen K P)) : Option (K × P) → List (K × P) → Prop where
  | idle : View past none (waiting past)
  | taken {job : K × P} {pending : List (K × P)} (h : waiting past = job :: pending) :
      View past (some job) pending
  | begun {job : K × P} (h : (begins past).getLast? = some job) :
      View past (some job) (waiting past)

/-- An answer that agrees with the answers before it; a job that begins is the first of
those that wait. -/
def Fits [DecidableEq K] (past : List (Seen K P)) (o : Seen K P) : Prop :=
  (∃ served pending, View past served pending ∧ Answers served pending o) ∧
    o.begins <+: waiting past

/-- The books of a queue: what was accepted has begun or still waits, in this order, and a
job in hand that has begun is the last that did. -/
structure Books (past : List (Seen K P)) (q : JobQueue K P) : Prop where
  ledger : accepted past = begins past ++ (q.slot.next.toList ++ q.pending)
  last : ∀ job, q.slot = .begun job → (begins past).getLast? = some job

section
variable {past os : List (Seen K P)} {q q' : JobQueue K P} {o : Option (Seen K P)}

theorem Books.waiting (h : Books past q) : waiting past = q.slot.next.toList ++ q.pending := by
  rw [JobQueue.waiting, h.ledger, List.drop_left]

/-- What is in hand and what waits is one of the views of the history. -/
theorem Books.view (h : Books past q) : View past q.slot.job q.pending := by
  have hwaiting := h.waiting
  cases hslot : q.slot with
  | free =>
    rw [hslot] at hwaiting
    have hall : JobQueue.waiting past = q.pending := hwaiting
    rw [← hall]
    exact .idle
  | taken job =>
    rw [hslot] at hwaiting
    exact .taken hwaiting
  | begun job =>
    rw [hslot] at hwaiting
    have hall : JobQueue.waiting past = q.pending := hwaiting
    rw [← hall]
    exact .begun (h.last job hslot)

/-- No key waits twice. -/
theorem Books.nodup (h : Books past q) : ((JobQueue.waiting past).map Prod.fst).Nodup := by
  have hdistinct := q.distinct
  rw [h.waiting]
  cases hslot : q.slot with
  | free =>
    rw [hslot] at hdistinct
    exact hdistinct
  | taken job =>
    rw [hslot] at hdistinct
    exact hdistinct
  | begun job =>
    rw [hslot] at hdistinct
    exact (List.nodup_cons.mp hdistinct).2

theorem accepted_concat (past : List (Seen K P)) (o : Seen K P) :
    accepted (past ++ [o]) = accepted past ++ o.accepted := by
  rw [accepted, List.flatMap_append, List.flatMap_singleton]
  rfl

theorem begins_concat (past : List (Seen K P)) (o : Seen K P) :
    begins (past ++ [o]) = begins past ++ o.begins := by
  rw [begins, List.flatMap_append, List.flatMap_singleton]
  rfl

variable [DecidableEq K]

/-- A step keeps the books. -/
theorem Books.move (h : Books past q) (hmove : Move q o q') : Books (past ++ o.toList) q' := by
  cases hmove with
  | answer hanswer hnone hslot hpending =>
    rw [Option.toList_some]
    refine ⟨?_, fun job hjob => ?_⟩
    · rw [accepted_concat, begins_concat, hnone, hslot, hpending, h.ledger]
      simp
    · rw [begins_concat, hnone, List.append_nil]
      exact h.last job (hslot ▸ hjob)
  | take hfree hhead hslot =>
    rw [Option.toList_none, List.append_nil]
    refine ⟨?_, fun job hjob => ?_⟩
    · rw [h.ledger, hfree, hslot, hhead]
      rfl
    · rw [hslot] at hjob
      cases hjob
  | begin htaken hslot hpending =>
    rw [Option.toList_some]
    refine ⟨?_, fun job hjob => ?_⟩
    · rw [accepted_concat, begins_concat, h.ledger, htaken, hslot, hpending]
      simp [Slot.next, Seen.accepted, Seen.begins]
    · rw [hslot] at hjob
      cases hjob
      rw [begins_concat]
      exact List.getLast?_concat
  | finish hbegun hslot hpending =>
    rw [Option.toList_none, List.append_nil]
    refine ⟨?_, fun job hjob => ?_⟩
    · rw [h.ledger, hbegun, hslot, hpending]
      rfl
    · rw [hslot] at hjob
      cases hjob

theorem Books.fits {label : Seen K P} (h : Books past q) (hmove : Move q (some label) q') :
    Fits past label := by
  cases hmove with
  | answer hanswer hnone =>
    refine ⟨⟨_, _, h.view, hanswer⟩, ?_⟩
    rw [hnone]
    exact List.nil_prefix
  | begin htaken =>
    have hview := h.view
    have hwaiting := h.waiting
    rw [htaken] at hview hwaiting
    refine ⟨⟨_, _, hview, _, rfl, rfl⟩, ?_⟩
    rw [hwaiting]
    exact ⟨_, rfl⟩

/-- Along a run from the empty queue the books are kept. -/
theorem shows_books (h : Shows Move empty os q) : Books os q :=
  have hstart : Books ([] : List (Seen K P)) empty := ⟨rfl, fun _ hjob => nomatch hjob⟩
  h.history hstart fun _ _ _ _ => Books.move

/-- Jobs begin in the order in which they were accepted, none twice; no key waits twice; and
every answer fits those before it. -/
theorem shows_fits (h : Shows Move empty os q) :
    begins os <+: accepted os ∧ ((waiting os).map Prod.fst).Nodup ∧
      ∀ past o later, os = past ++ o :: later → Fits past o := by
  have hbooks := shows_books h
  refine ⟨⟨_, hbooks.ledger.symm⟩, hbooks.nodup, fun past o later hos => ?_⟩
  obtain ⟨t, t', hpast, hmove, -⟩ := Shows.split (hos ▸ h)
  exact (shows_books hpast).fits hmove

end

end JobQueue
end Lib
