import Bluewave.Lib.Transition
import Bluewave.DailyFire
import Bluewave.PostConfig

/-! The daily job over any history of a process: starts, saves of the config, further
registrations and shutdowns, in any order and each with failures of its own. A registration
removes the old job before it reads the file, so a read that fails leaves none, and a save
that is answered does not tell. -/
namespace Bluewave.DailyJob
open Lib Bluewave.Exceptions Bluewave.ConfigStore Bluewave.Scheduler
open Bluewave.PostConfig

section
variable {Key IV Token Tz Trigger : Type}

inductive Action (IV : Type) (L : Libraries Tz Trigger) where
  | start (fault : Option Exn)
  | post (w : World IV) (p : ConfigPayload L)
  | reconfigure (fault : Option Exn)
  | shutdown

variable (L : Libraries Tz Trigger) (F : Cipher Key IV String Token) (ks : Keyring Key)

/-- `start` is called only while the scheduler is not started. -/
def step (s : App Token Tz Trigger) : Action IV L → Option (App Token Tz Trigger)
  | .start fault =>
    match s.scheduler with
    | some none => some { s with scheduler := some (Scheduler.start L F ks fault s.table).2 }
    | _ => none
  | .post w p => some (postConfig L F ks w p s).2
  | .reconfigure fault =>
    some { s with scheduler := s.scheduler.map fun sched =>
      (Scheduler.reconfigure L F ks fault s.table sched).2 }
  | .shutdown => some { s with scheduler := s.scheduler.map Scheduler.shutdown }

/-- The operation returns. A request does when it is answered, saved or turned down. -/
def Completes (s : App Token Tz Trigger) : Action IV L → Prop
  | .start fault => (Scheduler.start L F ks fault s.table).1 = .ok ()
  | .post w p => ∃ reply, (postConfig L F ks w p s).1 = .ok reply
  | .reconfigure fault => ∀ sched, s.scheduler = some sched →
    (Scheduler.reconfigure L F ks fault s.table sched).1 = .ok ()
  | .shutdown => True

variable {L}

/-- The failure of the read behind a registration. -/
def Action.reload : Action IV L → Option Exn
  | .start fault => fault
  | .post w _ => w.reload
  | .reconfigure fault => fault
  | .shutdown => none

/-- There is a config to register: the stored one, or the one that is saved now. -/
def Registers (s : App Token Tz Trigger) : Action IV L → Prop
  | .start _ => s.table.rows ≠ []
  | .post w p => (∃ jobs, s.scheduler = some (some jobs)) ∧
    ∃ cfg http mysql login, Commits F ks w p s.table cfg http mysql login
  | .reconfigure _ => (∃ jobs, s.scheduler = some (some jobs)) ∧ s.table.rows ≠ []
  | .shutdown => False

/-- SQLite answers the read behind the registration of a config. -/
def Answered (s : App Token Tz Trigger) (a : Action IV L) : Prop :=
  Registers F ks s a → a.reload = none

/-- A config that a request once passed validation with. -/
def Validated (L : Libraries Tz Trigger) (cfg : Config) : Prop :=
  ∃ (p : ConfigPayload L) (bluewebPassword mysqlPassword : String),
    cfg = p.toConfig bluewebPassword mysqlPassword

/-- The file holds a validated config, or none. -/
def Stored (L : Libraries Tz Trigger) (F : Cipher Key IV String Token)
    (s : App Token Tz Trigger) (held : Option Config) : Prop :=
  Holds F s.table held ∧ ∀ cfg, held = some cfg → Validated L cfg

/-- The process before its start, over a validated config or none. -/
def Init (L : Libraries Tz Trigger) (F : Cipher Key IV String Token)
    (s : App Token Tz Trigger) : Prop := s.scheduler = some none ∧ ∃ held, Stored L F s held

def sched (s : App Token Tz Trigger) : Sched Tz Trigger := s.scheduler.join

/-- There is one daily job exactly when the scheduler is started and the file holds a
config, and it fires at that config's time in its zone. -/
def Matched (L : Libraries Tz Trigger) (F : Cipher Key IV String Token)
    (s : App Token Tz Trigger) : Prop := ∃ held, Holds F s.table held ∧ Matches L held (sched s)

/-- The keys of the process read the file. -/
def Readable (F : Cipher Key IV String Token) (ks : Keyring Key) (s : App Token Tz Trigger) : Prop :=
  ∃ held, load F ks none s.table = .ok held

variable {F ks} {s s' : App Token Tz Trigger} {a : Action IV L} {held : Option Config}

theorem Stored.registrable (h : Stored L F s held) : ∀ cfg, held = some cfg → Registrable L cfg := by
  intro cfg hcfg
  obtain ⟨p, bluewebPassword, mysqlPassword, rfl⟩ := h.2 cfg hcfg
  exact p.registrable bluewebPassword mysqlPassword

theorem Commits.validated {w : World IV} {p : ConfigPayload L} {t : ConfigTable Token} {cfg : Config}
    {http mysql login : String} (h : Commits F ks w p t cfg http mysql login) : Validated L cfg := by
  obtain ⟨⟨existing, -, hasks⟩, -⟩ := h
  exact ⟨p, _, _, newConfig_ok (newConfig_eq_ok.mpr hasks)⟩

theorem holds_rows {t : ConfigTable Token} (h : Holds F t held) : t.rows = [] ↔ held = none := by
  cases held with
  | none => exact iff_of_true h rfl
  | some cfg =>
    obtain ⟨k, iv, iv', hrows⟩ := h
    simp [hrows]

/-- An answered request has read the file. -/
theorem readable_of_answered {w : World IV} {p : ConfigPayload L} {reply : Reply}
    (h : (postConfig L F ks w p s).1 = .ok reply) : Readable F ks s := by
  cases hload : load F ks w.load s.table with
  | error e =>
    rw [postConfig, hload] at h
    cases h
  | ok existing =>
    cases hfault : w.load with
    | none => exact ⟨existing, by rw [← hload, hfault]⟩
    | some e =>
      rw [hfault] at hload
      cases hload

/-- What a step comes to. Without a config to register it shuts the scheduler down, if it
does not leave everything as it was; otherwise it ends in a registration. -/
inductive Outcome (L : Libraries Tz Trigger) (F : Cipher Key IV String Token) (ks : Keyring Key)
    (s s' : App Token Tz Trigger) (a : Action IV L) (held : Option Config) : Prop
  | stopped : ¬ Registers F ks s a → sched s' = none → Outcome L F ks s s' a held
  | untouched : ¬ Registers F ks s a → s' = s → (Completes L F ks s a → Readable F ks s) →
      Outcome L F ks s s' a held
  | registered (r : Except Exn Unit × Sched Tz Trigger) :
      (Registers F ks s a ↔ held ≠ none) → Registration L F ks a.reload s'.table held r →
      sched s' = r.2 → (Completes L F ks s a → r.1 = .ok () ∨ Readable F ks s') →
      (r.1 = .ok () → Completes L F ks s a) → Outcome L F ks s s' a held

theorem step_outcome (hs : Stored L F s held) (hstep : step L F ks s a = some s') :
    ∃ held', Stored L F s' held' ∧ Outcome L F ks s s' a held' := by
  obtain ⟨table, scheduler⟩ := s
  have hrows : table.rows ≠ [] ↔ held ≠ none := not_congr (holds_rows hs.1)
  cases a with
  | start fault =>
    match scheduler, hstep with
    | some none, rfl =>
      exact ⟨held, hs, .registered _ hrows (start_outcome hs.1 hs.registrable) rfl .inl id⟩
  | post w p =>
    cases hstep
    rcases postConfig_cases L F ks w p ⟨table, scheduler⟩ with
      ⟨cfg, http, mysql, login, table', hcommits, -, hstores, hrun⟩ | ⟨hnone, huntouched, -⟩
    · have hstored : Stored L F (postConfig L F ks w p ⟨table, scheduler⟩).2 (some cfg) := by
        rw [hrun]
        refine ⟨⟨ks.head, hstores⟩, fun cfg' h => ?_⟩
        cases h
        exact Commits.validated hcommits
      refine ⟨some cfg, hstored, ?_⟩
      match scheduler with
      | none => exact .stopped (fun ⟨⟨_, h⟩, _⟩ => by cases h) (by rw [hrun]; rfl)
      | some none => exact .stopped (fun ⟨⟨_, h⟩, _⟩ => by cases h) (by rw [hrun]; rfl)
      | some (some jobs) =>
        have hread : Readable F ks (postConfig L F ks w p ⟨table, some (some jobs)⟩).2 :=
          ⟨some cfg, (postConfig_of_commits hcommits).1⟩
        refine .registered _ ?_ (reconfigure_outcome hstored.1 hstored.registrable jobs)
          (by rw [hrun]; rfl) (fun _ => .inr hread) fun _ => ⟨_, by rw [hrun]⟩
        exact iff_of_true ⟨⟨jobs, rfl⟩, cfg, http, mysql, login, hcommits⟩ nofun
    · refine ⟨held, by rwa [huntouched], .untouched ?_ huntouched ?_⟩
      · exact fun ⟨_, cfg, http, mysql, login, h⟩ => hnone cfg http mysql login h
      · exact fun ⟨_, h⟩ => readable_of_answered h
  | reconfigure fault =>
    cases hstep
    match scheduler with
    | none => exact ⟨held, hs, .stopped (fun ⟨⟨_, h⟩, _⟩ => by cases h) rfl⟩
    | some none => exact ⟨held, hs, .stopped (fun ⟨⟨_, h⟩, _⟩ => by cases h) rfl⟩
    | some (some jobs) =>
      refine ⟨held, hs, .registered _ ?_ (reconfigure_outcome hs.1 hs.registrable jobs) rfl ?_ ?_⟩
      · exact ⟨fun h => hrows.mp h.2, fun h => ⟨⟨jobs, rfl⟩, hrows.mpr h⟩⟩
      · exact fun h => .inl (h _ rfl)
      · intro h sched hsched
        cases hsched
        exact h
  | shutdown =>
    cases hstep
    exact ⟨held, hs, .stopped id (by cases scheduler <;> rfl)⟩

theorem readable_step (h : Readable F ks s) (hstep : step L F ks s a = some s') :
    Readable F ks s' := by
  cases a with
  | start fault =>
    simp only [step] at hstep
    split at hstep <;> cases hstep
    exact h
  | post w p =>
    cases hstep
    rcases postConfig_cases L F ks w p s with
      ⟨cfg, http, mysql, login, table, hcommits, -⟩ | ⟨-, huntouched, -⟩
    · exact ⟨some cfg, (postConfig_of_commits hcommits).1⟩
    · rwa [huntouched]
  | reconfigure fault => cases hstep; exact h
  | shutdown => cases hstep; exact h

/-- Whatever failed before, a daily job is the one of the config in the file. -/
def Fits (L : Libraries Tz Trigger) (F : Cipher Key IV String Token) (s : App Token Tz Trigger) :
    Prop := ∃ held, Stored L F s held ∧ (Matches L held (sched s) ∨ daily (sched s) = [])

theorem fits_step (h : Fits L F s) (hstep : step L F ks s a = some s') : Fits L F s' := by
  obtain ⟨held, hs, hfits⟩ := h
  obtain ⟨held', hs', hout⟩ := step_outcome hs hstep
  cases hout with
  | stopped _ hnone => exact ⟨held', hs', .inl (hnone ▸ matches_none held')⟩
  | untouched _ hsame => exact ⟨held, hsame ▸ hs, hsame ▸ hfits⟩
  | registered r _ hr hsched => exact ⟨held', hs', hsched ▸ hr.matches_or_none⟩

theorem fits_of_init (h : Init L F s) : Fits L F s := by
  obtain ⟨hidle, held, hs⟩ := h
  exact ⟨held, hs, .inr (by rw [sched, hidle]; rfl)⟩

theorem fits_of_reachable (h : Reachable (Init L F) (step L F ks) Free s) : Fits L F s :=
  h.invariant (fun _ => fits_of_init) fun _ _ _ _ hfits _ hstep => fits_step hfits hstep

/-- The job is the right one, or the keys do not read the file. -/
def Settled (L : Libraries Tz Trigger) (F : Cipher Key IV String Token) (ks : Keyring Key)
    (s : App Token Tz Trigger) : Prop := Matched L F s ∨ ¬ Readable F ks s

/-- A read that is answered raises only for want of the key. -/
theorem settled_step (h : Settled L F ks s) (hfits : Fits L F s) (hok : Answered F ks s a)
    (hstep : step L F ks s a = some s') : Settled L F ks s' := by
  obtain ⟨held, hs, -⟩ := hfits
  obtain ⟨held', hs', hout⟩ := step_outcome hs hstep
  cases hout with
  | stopped _ hnone => exact .inl ⟨held', hs'.1, hnone ▸ matches_none held'⟩
  | untouched _ hsame => exact hsame ▸ h
  | registered r hregisters hr hsched =>
    cases hr with
    | done _ hmatch => exact .inl ⟨held', hs'.1, hsched ▸ hmatch⟩
    | unread hload hnone =>
      cases held' with
      | none => exact .inl ⟨none, hs'.1, hsched ▸ hnone⟩
      | some cfg =>
        rw [hok (hregisters.mpr nofun)] at hload
        exact .inr fun ⟨held, hread⟩ => by rw [hload] at hread; cases hread

theorem settled_of_reachable (h : Reachable (Init L F) (step L F ks) (Answered F ks) s) :
    Settled L F ks s := by
  refine h.invariant (fun s ⟨hidle, held, hs⟩ => ?_) fun _ _ _ hreach hsettled hok hstep =>
    settled_step hsettled (fits_of_reachable hreach.free) hok hstep
  exact .inl ⟨held, hs.1, by rw [sched, hidle]; exact matches_none held⟩

/-- An operation that returns has read the file, or has registered what is in it. -/
theorem matched_of_completes (h : Settled L F ks s') (hfits : Fits L F s)
    (hcompletes : Completes L F ks s a) (hstep : step L F ks s a = some s') : Matched L F s' := by
  rcases h with hmatched | hunread
  · exact hmatched
  · obtain ⟨held, hs, -⟩ := hfits
    obtain ⟨held', hs', hout⟩ := step_outcome hs hstep
    cases hout with
    | stopped _ hnone => exact ⟨held', hs'.1, hnone ▸ matches_none held'⟩
    | untouched _ hsame hread => exact (hunread (hsame ▸ hread hcompletes)).elim
    | registered r _ hr hsched hreturns =>
      rcases hreturns hcompletes with hok | hread
      · exact ⟨held', hs'.1, hsched ▸ hr.matches_of_ok hok⟩
      · exact (hunread hread).elim

/-- With the keys of the file and an answer to the read, starts and registrations return. -/
theorem completes_of_readable (hread : Readable F ks s) (hfits : Fits L F s)
    (hreload : a.reload = none) (hstep : step L F ks s a = some s') :
    Completes L F ks s a ∨ ∃ w p, a = .post w p := by
  obtain ⟨held, hs, -⟩ := hfits
  obtain ⟨loaded, hload⟩ := hread
  cases a with
  | start fault =>
    obtain rfl : fault = none := hreload
    exact .inl ((start_outcome hs.1 hs.registrable).ok_of_read hload)
  | post w p => exact .inr ⟨w, p, rfl⟩
  | reconfigure fault =>
    obtain rfl : fault = none := hreload
    refine .inl fun sched _ => ?_
    cases sched with
    | none => rfl
    | some jobs => exact (reconfigure_outcome hs.1 hs.registrable jobs).ok_of_read hload
  | shutdown => exact .inl trivial

/-- A registration whose read raises leaves a started scheduler without a daily job. -/
theorem not_matched_of_unanswered (hfits : Fits L F s) (h : ¬ Answered F ks s a)
    (hstep : step L F ks s a = some s') : ¬ Matched L F s' := by
  obtain ⟨hregisters, hreload⟩ := Classical.not_imp.mp h
  obtain ⟨held, hs, -⟩ := hfits
  obtain ⟨held', hs', hout⟩ := step_outcome hs hstep
  cases hout with
  | stopped hnot => exact (hnot hregisters).elim
  | untouched hnot => exact (hnot hregisters).elim
  | registered r hiff hr hsched =>
    obtain ⟨e, hfault⟩ := Option.ne_none_iff_exists'.mp hreload
    cases hr with
    | done hload =>
      rw [hfault] at hload
      cases hload
    | unread _ hnone =>
      rintro ⟨found, hfound, hmatch⟩
      have hstored : found ≠ none := fun hf =>
        hiff.mp hregisters ((holds_rows hs'.1).mp ((holds_rows hfound).mpr hf))
      obtain ⟨cfg, rfl⟩ := Option.ne_none_iff_exists'.mp hstored
      rw [hsched] at hmatch
      obtain ⟨job, hjob, -⟩ := hmatch
      rw [hnone] at hjob
      cases hjob

theorem readable_of_reachable
    (h : Reachable (fun s => Init L F s ∧ Readable F ks s) (step L F ks) (Answered F ks) s) :
    Readable F ks s ∧ Reachable (Init L F) (step L F ks) (Answered F ks) s := by
  induction h with
  | start hinit => exact ⟨hinit.2, .start hinit.1⟩
  | next _ hok hstep ih => exact ⟨readable_step ih.1 hstep, ih.2.next hok hstep⟩

/-- After every completed operation there is one daily job exactly when the scheduler is
started and the file holds a config, and it fires at that config's time in its zone. -/
def AlwaysMatched (L : Libraries Tz Trigger) (F : Cipher Key IV String Token) (ks : Keyring Key)
    (ok : App Token Tz Trigger → Action IV L → Prop) : Prop :=
  ∀ s a s', Reachable (Init L F) (step L F ks) ok s → ok s a → step L F ks s a = some s' →
    Completes L F ks s a → Matched L F s'

/-- The daily job is that of the file behind every completed operation, as long as SQLite
answers the reads behind the registrations of a config. A read that does not is felt: the
scheduler is started, the file holds a config, and there is no daily job. With the keys of
the file the operations other than a request return too, when their read is answered. Even
a read that fails leaves no job of another config, and no payload that passed validation
makes a registration raise. -/
theorem dailyJob_matches (L : Libraries Tz Trigger) (F : Cipher Key IV String Token)
    (ks : Keyring Key) :
    AlwaysMatched L F ks (Answered F ks) ∧
    (∀ s a s', Reachable (Init L F) (step L F ks) Free s → step L F ks s a = some s' →
      ¬ Answered F ks s a → ¬ Matched L F s') ∧
    (∀ s a s',
      Reachable (fun s => Init L F s ∧ Readable F ks s) (step L F ks) (Answered F ks) s →
      Answered F ks s a → step L F ks s a = some s' → Matched L F s' ∧
        (a.reload = none → Completes L F ks s a ∨ ∃ w p, a = .post w p)) ∧
    (∀ s, Reachable (Init L F) (step L F ks) Free s →
      ∃ held, Holds F s.table held ∧ (Matches L held (sched s) ∨ daily (sched s) = [])) ∧
    ∀ (p : ConfigPayload L) bluewebPassword mysqlPassword jobs, ∃ jobs',
      registerDaily L (p.toConfig bluewebPassword mysqlPassword) (some jobs) = .ok (some jobs') := by
  refine ⟨fun s a s' h hok hstep hcompletes => ?_, fun s a s' h hstep hnot => ?_,
    fun s a s' h hok hstep => ?_, fun s h => ?_, fun p _ _ jobs => ?_⟩
  · exact matched_of_completes (settled_of_reachable (h.next hok hstep))
      (fits_of_reachable h.free) hcompletes hstep
  · exact not_matched_of_unanswered (fits_of_reachable h) hnot hstep
  · obtain ⟨hread, hreach⟩ := readable_of_reachable h
    have hsettled := settled_of_reachable (hreach.next hok hstep)
    exact ⟨hsettled.resolve_right (not_not.mpr (readable_step hread hstep)),
      fun hreload => completes_of_readable hread (fits_of_reachable hreach.free) hreload hstep⟩
  · obtain ⟨held, hs, hfits⟩ := fits_of_reachable h
    exact ⟨held, hs.1, hfits⟩
  · obtain ⟨jobs', hok, -⟩ := registerDaily_ok (p.registrable _ _) jobs
    exact ⟨jobs', hok⟩

end

/-! ## A save whose read meets a lock -/

section
open DailyFire (newYorkLibraries newYorkLibraries_zone lateSchedule)

/-- The request of a late schedule. -/
def latePayload : ConfigPayload newYorkLibraries where
  siteLabel := lateSchedule.siteLabel
  bluewebUrl := lateSchedule.bluewebUrl
  bluewebUser := lateSchedule.bluewebUser
  bluewebPassword := lateSchedule.bluewebPassword
  operatorTimezone := lateSchedule.operatorTimezone
  mysqlHost := lateSchedule.mysqlHost
  mysqlPort := lateSchedule.mysqlPort
  mysqlDatabase := lateSchedule.mysqlDatabase
  mysqlUser := lateSchedule.mysqlUser
  mysqlPassword := lateSchedule.mysqlPassword
  scheduleLocal := lateSchedule.scheduleLocal
  catchUpCapDays := lateSchedule.catchUpCapDays
  siteLabel_length := by decide
  mysqlPort_range := by decide
  catchUpCapDays_range := by decide
  schedule_format := by decide
  tz_known := by simp only [tzKnown, lateSchedule, newYorkLibraries_zone]

/-- The probes pass and the save works, and the read of the registration meets a lock. -/
def lockedReload : World Unit where
  load := none
  probes := ⟨fun _ => .ok ⟨true, ""⟩, fun _ => .ok ⟨true, ""⟩, fun _ _ _ => .ok ⟨true, ""⟩⟩
  save := ⟨none, none, .ok (), .ok (), none, none⟩
  connect _ := .error (.other "OperationalError" "can't connect to MySQL server")
  reload := some (.other "OperationalError" "database is locked")

def boxes : Cipher String Unit String (String × Unit × String) := .boxed

/-- The process before its start, over an empty file. -/
def beforeStart : App (String × Unit × String) Zone (Int × Int × Zone) := ⟨.empty, some none⟩

/-- Started over an empty file, the process saves the config, says so, and has no daily job. -/
theorem not_alwaysMatched_lockedReload :
    ¬ AlwaysMatched newYorkLibraries boxes ⟨"key", []⟩ Free := by
  intro h
  let step := step newYorkLibraries boxes ⟨"key", []⟩
  let started : App (String × Unit × String) Zone (Int × Int × Zone) := ⟨.empty, some (some [])⟩
  let saved : App (String × Unit × String) Zone (Int × Int × Zone) :=
    ⟨single (rowUnder boxes "key" () () lateSchedule) rfl, some (some [])⟩
  have hinit : Init newYorkLibraries boxes beforeStart := ⟨rfl, none, rfl, fun _ h => by cases h⟩
  have hstart : step beforeStart (.start none) = some started := rfl
  have hsave : step started (.post lockedReload latePayload) = some saved := rfl
  obtain ⟨held, hheld, hmatch⟩ := h started (.post lockedReload latePayload) saved
    ((Reachable.start hinit).next trivial hstart) trivial hsave ⟨_, rfl⟩
  cases held with
  | none => cases hheld
  | some cfg =>
    obtain ⟨job, hjob, -⟩ := hmatch
    cases hjob

end

end Bluewave.DailyJob
