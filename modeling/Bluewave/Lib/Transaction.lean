/-! Connections to a transactional store with autocommit off. A connection is
the statements it committed and the statements of its open transaction; the
contents are replays of these over the content it was opened on, so what is
durable is by construction what some COMMIT covered. A rejected statement undoes
itself and leaves the transaction open, a failing COMMIT ends it unwritten.
`Session` runs a program over a connection: an exception keeps the statements
executed before it. -/
namespace Lib

/-- A store and its statements. An accepted statement gives the server's answer
and the new content. -/
class Store (σ : Type) (α ε ρ : outParam Type) where
  apply : σ → α → Except ε (ρ × σ)

/-- A connection: the content it was opened on, the committed transactions
(oldest first) and the open one. -/
structure Conn (σ α : Type) where
  base : σ
  journal : List (List α)
  pending : List α

namespace Conn
variable {σ α : Type}

/-- A fresh connection. -/
def opened (s : σ) : Conn σ α := ⟨s, [], []⟩

def push (c : Conn σ α) (as : List α) : Conn σ α := { c with pending := c.pending ++ as }

def commit (c : Conn σ α) : Conn σ α :=
  { c with journal := c.journal ++ [c.pending], pending := [] }

def rollback (c : Conn σ α) : Conn σ α := { c with pending := [] }

@[simp] theorem push_nil (c : Conn σ α) : c.push [] = c := by simp [push]

@[simp] theorem push_push (c : Conn σ α) (as bs : List α) :
    (c.push as).push bs = c.push (as ++ bs) := by simp [push]

/-- Rolling back what was pushed on a clean connection leaves it clean. -/
theorem rollback_push {c : Conn σ α} (as : List α) (h : c.pending = []) :
    (c.push as).rollback = c := by
  cases c; cases h; rfl

end Conn

section
variable {σ α ε ρ : Type} [Store σ α ε ρ]

/-- The content a statement leaves. -/
def effect (s : σ) (a : α) : σ :=
  match Store.apply s a with
  | .ok (_, s') => s'
  | .error _ => s

def replay (s : σ) (as : List α) : σ := as.foldl effect s

theorem effect_of_apply {s s' : σ} {a : α} {r : ρ} (h : Store.apply s a = .ok (r, s')) :
    effect s a = s' := by
  simp [effect, h]

@[simp] theorem replay_nil (s : σ) : replay s ([] : List α) = s := rfl

@[simp] theorem replay_cons (s : σ) (a : α) (as : List α) :
    replay s (a :: as) = replay (effect s a) as := rfl

theorem replay_append (s : σ) (as bs : List α) :
    replay s (as ++ bs) = replay (replay s as) bs := by simp [replay]

/-- The content other connections see: the committed transactions replayed. -/
def Conn.durable (c : Conn σ α) : σ := replay c.base c.journal.flatten

/-- The content this connection sees. -/
def Conn.working (c : Conn σ α) : σ := replay c.durable c.pending

@[simp] theorem Conn.durable_opened (s : σ) : (Conn.opened s : Conn σ α).durable = s := rfl

@[simp] theorem Conn.working_opened (s : σ) : (Conn.opened s : Conn σ α).working = s := rfl

@[simp] theorem Conn.durable_push (c : Conn σ α) (as : List α) :
    (c.push as).durable = c.durable := rfl

@[simp] theorem Conn.working_push (c : Conn σ α) (as : List α) :
    (c.push as).working = replay c.working as := replay_append _ _ _

@[simp] theorem Conn.durable_commit (c : Conn σ α) : c.commit.durable = c.working := by
  simp [Conn.durable, Conn.working, Conn.commit, replay_append]

@[simp] theorem Conn.durable_rollback (c : Conn σ α) : c.rollback.durable = c.durable := rfl

end

/-- A program over a connection, which returns or raises. -/
structure Session (σ α ε β : Type) where
  run : Conn σ α → Except ε β × Conn σ α

namespace Session
variable {σ α ε β γ : Type}

instance : Monad (Session σ α ε) where
  pure b := ⟨fun c => (.ok b, c)⟩
  bind m f := ⟨fun c =>
    match m.run c with
    | (.ok b, c') => (f b).run c'
    | (.error e, c') => (.error e, c')⟩

/-- An outcome settled outside the store. -/
def lift (x : Except ε β) : Session σ α ε β := ⟨fun c => (x, c)⟩

/-- `try: x; except Exception: pass`. -/
def swallow (_ : Except ε Unit) : Session σ α ε Unit := pure ()

/-- `try: m; except e: h e`. -/
def tryExcept (m : Session σ α ε β) (h : ε → Session σ α ε β) : Session σ α ε β := ⟨fun c =>
  match m.run c with
  | (.ok b, c') => (.ok b, c')
  | (.error e, c') => (h e).run c'⟩

/-- `try: m; finally: f`, for an `f` that does not raise. -/
def tryFinally (m : Session σ α ε β) (f : Session σ α ε Unit) : Session σ α ε β := ⟨fun c =>
  ((m.run c).1, (f.run (m.run c).2).2)⟩

/-- End the transaction: written, or rolled back when COMMIT fails. -/
def commit (fault : Option ε) : Session σ α ε Unit := ⟨fun c =>
  match fault with
  | none => (.ok (), c.commit)
  | some e => (.error e, c.rollback)⟩

@[simp] theorem run_pure (b : β) (c : Conn σ α) :
    (pure b : Session σ α ε β).run c = (.ok b, c) := rfl

@[simp] theorem run_lift (x : Except ε β) (c : Conn σ α) :
    (lift x : Session σ α ε β).run c = (x, c) := rfl

@[simp] theorem run_swallow (x : Except ε Unit) (c : Conn σ α) :
    (swallow x : Session σ α ε Unit).run c = (.ok (), c) := rfl

theorem bind_ok {m : Session σ α ε β} {f : β → Session σ α ε γ} {c c' : Conn σ α} {b : β}
    (h : m.run c = (.ok b, c')) : (m >>= f).run c = (f b).run c' := by
  simp [bind, h]

theorem bind_error {m : Session σ α ε β} {f : β → Session σ α ε γ} {c c' : Conn σ α} {e : ε}
    (h : m.run c = (.error e, c')) : (m >>= f).run c = (.error e, c') := by
  simp [bind, h]

theorem tryExcept_ok {m : Session σ α ε β} {h : ε → Session σ α ε β} {c c' : Conn σ α} {b : β}
    (hm : m.run c = (.ok b, c')) : (tryExcept m h).run c = (.ok b, c') := by
  simp [tryExcept, hm]

theorem tryExcept_error {m : Session σ α ε β} {h : ε → Session σ α ε β} {c c' : Conn σ α} {e : ε}
    (hm : m.run c = (.error e, c')) : (tryExcept m h).run c = (h e).run c' := by
  simp [tryExcept, hm]

section
variable {ρ : Type} [Store σ α ε ρ]

/-- One statement. `fault` is a failure the content does not explain (a lost
connection, a lock timeout), raised before the statement has an effect. -/
def execute (fault : Option ε) (a : α) : Session σ α ε ρ := ⟨fun c =>
  match fault with
  | some e => (.error e, c)
  | none =>
    match Store.apply c.working a with
    | .ok (r, _) => (.ok r, c.push [a])
    | .error e => (.error e, c)⟩

/-- A SELECT. -/
def query (fault : Option ε) (f : σ → β) : Session σ α ε β := ⟨fun c =>
  match fault with
  | some e => (.error e, c)
  | none => (.ok (f c.working), c)⟩

/-- Statements in order, the `k`-th subject to the `k`-th fault. -/
def executeAll (faults : Nat → Option ε) : Nat → List α → Session σ α ε Unit
  | _, [] => pure ()
  | k, a :: as => do
    let _ ← execute (faults k) a
    executeAll faults (k + 1) as

end

/-- Raise the fault, if there is one. -/
def raised : Option ε → Except ε Unit
  | none => .ok ()
  | some e => .error e

/-- The fault that stops a list of statements. -/
def firstFault (faults : Nat → Option ε) : Nat → List α → Option ε
  | _, [] => none
  | k, _ :: as => (faults k).or (firstFault faults (k + 1) as)

/-- The statements before that fault. -/
def landed (faults : Nat → Option ε) : Nat → List α → List α
  | _, [] => []
  | k, a :: as => if (faults k).isSome then [] else a :: landed faults (k + 1) as

theorem landed_of_firstFault_none {faults : Nat → Option ε} {k : Nat} {as : List α}
    (h : firstFault faults k as = none) : landed faults k as = as := by
  induction as generalizing k with
  | nil => rfl
  | cons a as ih =>
    obtain ⟨hk, hrest⟩ := Option.or_eq_none_iff.mp h
    simp [landed, hk, ih hrest]

theorem firstFault_map {α' : Type} (faults : Nat → Option ε) (f : α → α') (k : Nat) (as : List α) :
    firstFault faults k (as.map f) = firstFault faults k as := by
  induction as generalizing k with
  | nil => rfl
  | cons a as ih => simp [firstFault, ih]

theorem landed_map {α' : Type} (faults : Nat → Option ε) (f : α → α') (k : Nat) (as : List α) :
    landed faults k (as.map f) = (landed faults k as).map f := by
  induction as generalizing k with
  | nil => rfl
  | cons a as ih =>
    simp only [landed, List.map_cons]
    split
    · rfl
    · rw [ih, List.map_cons]

theorem landed_initial (faults : Nat → Option ε) (k : Nat) (as : List α) :
    landed faults k as <+: as := by
  induction as generalizing k with
  | nil => exact List.prefix_refl _
  | cons a as ih =>
    simp only [landed]
    split
    · exact List.nil_prefix
    · exact List.cons_prefix_cons.mpr ⟨rfl, ih (k + 1)⟩

section
variable {ρ : Type} [Store σ α ε ρ]

theorem execute_ok {a : α} {c : Conn σ α} {r : ρ} {s : σ}
    (h : Store.apply c.working a = .ok (r, s)) :
    (execute none a).run c = (.ok r, c.push [a]) := by
  simp [execute, h]

theorem execute_rejected {a : α} {c : Conn σ α} {e : ε}
    (h : Store.apply c.working a = .error e) :
    (execute none a).run c = (.error e, c) := by
  simp [execute, h]

theorem query_ok (f : σ → β) (c : Conn σ α) :
    (query none f).run c = (.ok (f c.working), c) := rfl

theorem execute_fault (e : ε) (a : α) (c : Conn σ α) :
    (execute (some e) a).run c = (.error e, c) := rfl

/-- Statements the store never rejects stop only at a fault, and those before it
stand in the open transaction. -/
theorem executeAll_run {faults : Nat → Option ε} {k : Nat} {as : List α} (c : Conn σ α)
    (haccept : ∀ a ∈ as, ∀ s : σ, ∃ r s', Store.apply s a = .ok (r, s')) :
    (executeAll faults k as).run c =
      (raised (firstFault faults k as), c.push (landed faults k as)) := by
  induction as generalizing k c with
  | nil => simp [executeAll, firstFault, landed, raised]
  | cons a as ih =>
    unfold executeAll
    cases hk : faults k with
    | some e =>
      rw [bind_error (execute_fault e a c)]
      simp [firstFault, landed, hk, raised]
    | none =>
      obtain ⟨r, s', hs⟩ := haccept a (by simp) c.working
      rw [bind_ok (execute_ok hs), ih _ fun b hb => haccept b (by simp [hb])]
      simp [firstFault, landed, hk]

end

/-! ## All or nothing

A program raises with `s` still durable, or returns what its postcondition says. Each
rule is for the weakest condition on the connection it starts from. -/

section
variable {ρ : Type} [Store σ α ε ρ] {s : σ} {c : Conn σ α} {Q : β → Conn σ α → Prop}

/-- The outcome of a program that leaves `s` durable when it raises. -/
def AllOrNothing (s : σ) (Q : β → Conn σ α → Prop) (r : Except ε β × Conn σ α) : Prop :=
  match r with
  | (.error _, c) => c.durable = s
  | (.ok b, c) => Q b c

@[simp] theorem allOrNothing_ok {b : β} :
    AllOrNothing s Q ((.ok b, c) : Except ε β × Conn σ α) ↔ Q b c := Iff.rfl

@[simp] theorem allOrNothing_error {e : ε} :
    AllOrNothing s Q ((.error e, c) : Except ε β × Conn σ α) ↔ c.durable = s := Iff.rfl

section
variable {γ : Type} {fault : Option ε}

theorem AllOrNothing.bind_lift {x : Except ε γ} {f : γ → Session σ α ε β} (hs : c.durable = s)
    (hf : ∀ b, x = .ok b → AllOrNothing s Q ((f b).run c)) :
    AllOrNothing s Q ((lift x >>= f).run c) := by
  cases x with
  | error e => rw [bind_error (run_lift ..)]; exact hs
  | ok b => rw [bind_ok (run_lift ..)]; exact hf b rfl

theorem AllOrNothing.bind_execute {a : α} {f : ρ → Session σ α ε β} (hs : c.durable = s)
    (hf : ∀ r s', Store.apply c.working a = .ok (r, s') →
      AllOrNothing s Q ((f r).run (c.push [a]))) :
    AllOrNothing s Q ((execute fault a >>= f).run c) := by
  cases fault with
  | some e => rw [bind_error (execute_fault ..)]; exact hs
  | none =>
    match h : Store.apply c.working a with
    | .error e => rw [bind_error (execute_rejected h)]; exact hs
    | .ok (r, s') => rw [bind_ok (execute_ok h)]; exact hf r s' h

theorem AllOrNothing.bind_commit {f : Unit → Session σ α ε β} (hs : c.durable = s)
    (hf : AllOrNothing s Q ((f ()).run c.commit)) :
    AllOrNothing s Q ((commit fault >>= f).run c) := by
  cases fault with
  | some e => exact hs
  | none => exact hf

theorem AllOrNothing.commit {R : Unit → Conn σ α → Prop} (hs : c.durable = s)
    (hR : R () c.commit) : AllOrNothing s R ((commit fault : Session σ α ε Unit).run c) := by
  cases fault with
  | some e => exact hs
  | none => exact hR

end

end

end Session

end Lib
