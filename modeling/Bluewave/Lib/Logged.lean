import Mathlib.Data.List.Forall2

/-! Programs that return or raise, over a log to which they only append. An exception
keeps what was logged before it. -/
namespace Lib

/-- A program with log entries in `τ` and exceptions in `ε`. -/
abbrev Logged (τ ε : Type) := ExceptT ε (StateM (List τ))

namespace Logged
variable {τ ε α β : Type}

/-- What a program comes to, and the log after it. -/
def outcome (m : Logged τ ε α) (log : List τ) : Except ε α × List τ := m.run.run log

/-- Add an entry. -/
def record (t : τ) : Logged τ ε Unit := modify (· ++ [t])

/-- Raise the exception, if there is one. -/
def raised : Option ε → Logged τ ε Unit
  | none => pure ()
  | some e => throw e

/-- What a program adds to the log has the property. -/
def Appends (P : List τ → Prop) (m : Logged τ ε α) : Prop :=
  ∀ log, ∃ new, (outcome m log).2 = log ++ new ∧ P new

/-- A property of added entries that holds of none, and of two parts together. -/
structure Closed (P : List τ → Prop) : Prop where
  nil : P []
  append : ∀ {as bs}, P as → P bs → P (as ++ bs)

section
variable {P Q : List τ → Prop}

theorem Appends.pure (h : P []) (a : α) : Appends P (Pure.pure a : Logged τ ε α) :=
  fun log => ⟨[], (List.append_nil log).symm, h⟩

theorem Appends.throw (h : P []) (e : ε) : Appends P (MonadExcept.throw e : Logged τ ε α) :=
  fun log => ⟨[], (List.append_nil log).symm, h⟩

theorem Appends.raised (h : P []) (fault : Option ε) : Appends P (raised fault : Logged τ ε Unit) := by
  cases fault with
  | none => exact .pure h ()
  | some e => exact .throw h e

theorem Appends.record {t : τ} (h : P [t]) : Appends P (record t : Logged τ ε Unit) :=
  fun _ => ⟨[t], rfl, h⟩

theorem outcome_bind (m : Logged τ ε α) (f : α → Logged τ ε β) (log : List τ) :
    outcome (m >>= f) log =
      match outcome m log with
      | (.ok a, log') => outcome (f a) log'
      | (.error e, log') => (.error e, log') := by
  simp only [outcome, ExceptT.run_bind, StateT.run_bind]
  rcases m.run.run log with ⟨e | a, log'⟩ <;> rfl

/-- What returns in two steps returns in the first. -/
theorem ok_of_bind {m : Logged τ ε α} {f : α → Logged τ ε β} {log : List τ} {b : β}
    (h : (outcome (m >>= f) log).1 = .ok b) :
    ∃ a log', outcome m log = (.ok a, log') ∧ (outcome (f a) log').1 = .ok b := by
  rw [outcome_bind] at h
  rcases hm : outcome m log with ⟨e | a, log'⟩ <;> rw [hm] at h
  · cases h
  · exact ⟨a, log', rfl, h⟩

theorem outcome_tryCatch (m : Logged τ ε α) (h : ε → Logged τ ε α) (log : List τ) :
    outcome (MonadExcept.tryCatch m h) log =
      match outcome m log with
      | (.ok a, log') => (.ok a, log')
      | (.error e, log') => outcome (h e) log' := by
  simp only [outcome, ExceptT.run_tryCatch, StateT.run_bind]
  rcases m.run.run log with ⟨e | a, log'⟩ <;> rfl

theorem outcome_record_bind (t : τ) (f : Unit → Logged τ ε β) (log : List τ) :
    outcome (Logged.record t >>= f) log = outcome (f ()) (log ++ [t]) := rfl

/-- What comes after `m` may add less than `m` has to. -/
theorem Appends.bind_of {m : Logged τ ε α} {f : α → Logged τ ε β} (hm : Appends P m)
    (hf : ∀ a, Appends Q (f a)) (happend : ∀ {as bs}, P as → Q bs → P (as ++ bs)) :
    Appends P (m >>= f) := by
  intro log
  obtain ⟨new, hnew, hp⟩ := hm log
  rw [outcome_bind]
  rcases hrun : outcome m log with ⟨e | a, log'⟩ <;> rw [hrun] at hnew
  · exact ⟨new, hnew, hp⟩
  · obtain ⟨rest, hrest, hq⟩ := hf a log'
    have hlog : log' = log ++ new := hnew
    exact ⟨new ++ rest, by rw [hrest, hlog, List.append_assoc], happend hp hq⟩

/-- So may an exception handler. -/
theorem Appends.tryCatch_of {m : Logged τ ε α} {h : ε → Logged τ ε α} (hm : Appends P m)
    (hh : ∀ e, Appends Q (h e)) (happend : ∀ {as bs}, P as → Q bs → P (as ++ bs)) :
    Appends P (MonadExcept.tryCatch m h) := by
  intro log
  obtain ⟨new, hnew, hp⟩ := hm log
  rw [outcome_tryCatch]
  rcases hrun : outcome m log with ⟨e | a, log'⟩ <;> rw [hrun] at hnew
  · obtain ⟨rest, hrest, hq⟩ := hh e log'
    have hlog : log' = log ++ new := hnew
    exact ⟨new ++ rest, by rw [hrest, hlog, List.append_assoc], happend hp hq⟩
  · exact ⟨new, hnew, hp⟩

theorem Appends.bind {m : Logged τ ε α} {f : α → Logged τ ε β} (hP : Closed P)
    (hm : Appends P m) (hf : ∀ a, Appends P (f a)) : Appends P (m >>= f) := hm.bind_of hf hP.append

theorem Appends.tryCatch {m : Logged τ ε α} {h : ε → Logged τ ε α} (hP : Closed P)
    (hm : Appends P m) (hh : ∀ e, Appends P (h e)) : Appends P (MonadExcept.tryCatch m h) :=
  hm.tryCatch_of hh hP.append

end

/-! ## Two programs -/

/-- From logs that correspond entry by entry, both return the same or raise the same, and what
they have logged corresponds. -/
def Alike (R : τ → τ → Prop) (m m' : Logged τ ε α) : Prop :=
  ∀ log log', List.Forall₂ R log log' →
    (outcome m log).1 = (outcome m' log').1 ∧ List.Forall₂ R (outcome m log).2 (outcome m' log').2

section
variable {R : τ → τ → Prop}

theorem Alike.pure (a : α) : Alike R (Pure.pure a : Logged τ ε α) (Pure.pure a) :=
  fun _ _ hlog => ⟨rfl, hlog⟩

theorem Alike.throw (e : ε) :
    Alike R (MonadExcept.throw e : Logged τ ε α) (MonadExcept.throw e) :=
  fun _ _ hlog => ⟨rfl, hlog⟩

theorem Alike.raised (fault : Option ε) :
    Alike R (raised fault : Logged τ ε Unit) (Logged.raised fault) := by
  cases fault with
  | none => exact .pure ()
  | some e => exact .throw e

theorem Alike.record {t t' : τ} (h : R t t') :
    Alike R (record t : Logged τ ε Unit) (Logged.record t') :=
  fun _ _ hlog => ⟨rfl, List.rel_append hlog (.cons h .nil)⟩

theorem Alike.bind {m m' : Logged τ ε α} {f f' : α → Logged τ ε β} (hm : Alike R m m')
    (hf : ∀ a, Alike R (f a) (f' a)) : Alike R (m >>= f) (m' >>= f') := by
  intro log log' hlog
  obtain ⟨hresult, hnew⟩ := hm log log' hlog
  rw [outcome_bind, outcome_bind]
  rcases hrun : outcome m log with ⟨result, new⟩
  rcases hrun' : outcome m' log' with ⟨result', new'⟩
  rw [hrun, hrun'] at hresult hnew
  obtain rfl : result = result' := hresult
  cases result with
  | ok a => exact hf a new new' hnew
  | error e => exact ⟨rfl, hnew⟩

theorem Alike.tryCatch {m m' : Logged τ ε α} {h h' : ε → Logged τ ε α} (hm : Alike R m m')
    (hh : ∀ e, Alike R (h e) (h' e)) :
    Alike R (MonadExcept.tryCatch m h) (MonadExcept.tryCatch m' h') := by
  intro log log' hlog
  obtain ⟨hresult, hnew⟩ := hm log log' hlog
  rw [outcome_tryCatch, outcome_tryCatch]
  rcases hrun : outcome m log with ⟨result, new⟩
  rcases hrun' : outcome m' log' with ⟨result', new'⟩
  rw [hrun, hrun'] at hresult hnew
  obtain rfl : result = result' := hresult
  cases result with
  | ok a => exact ⟨rfl, hnew⟩
  | error e => exact hh e new new' hnew

end

end Logged

end Lib
