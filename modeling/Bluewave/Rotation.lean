import Bluewave.Lib.Transition
import Bluewave.ConfigStore

/-! `rotate_config` beside the running web service, one SQLite transaction at a time.
`reencrypt_all` reads the config in one transaction and writes it back in another; what
the web service saves between the two is overwritten with what was there before. -/
namespace Bluewave.Rotation
open Lib Bluewave.Exceptions Bluewave.ConfigStore

/-- Where the process `rotate_config` stands. -/
inductive Phase (Key : Type) where
  | idle
  /-- behind the `load` of `main` -/
  | checked (ks : Keyring Key)
  /-- behind the `load` of `reencrypt_all` -/
  | read (ks : Keyring Key) (cfg : Config)

/-- The file, the config the web service saved last, and the rotation. -/
structure State (Key Token : Type) where
  table : ConfigTable Token
  saved : Option Config
  rotation : Phase Key

/-- One transaction, of either process. -/
inductive Action (Key IV : Type) where
  | webSave (ks : Keyring Key) (f : SaveFaults IV) (cfg : Config)
  | check (ks : Keyring Key) (fault : Option Exn)
  | read (fault : Option Exn)
  | write (f : SaveFaults IV)

section
variable {Key IV Token : Type} (F : Cipher Key IV String Token)

def step (s : State Key Token) : Action Key IV → Option (State Key Token)
  | .webSave ks f cfg =>
    match save F ks f cfg s.table with
    | (.error _, table) => some { s with table }
    | (.ok (), table) => some { s with table, saved := some cfg }
  | .check ks fault =>
    match s.rotation with
    | .idle =>
      match load F ks fault s.table with
      | .ok (some _) => some { s with rotation := .checked ks }
      | _ => some s
    | _ => none
  | .read fault =>
    match s.rotation with
    | .checked ks =>
      match load F ks fault s.table with
      | .ok (some cfg) => some { s with rotation := .read ks cfg }
      | _ => some { s with rotation := .idle }
    | _ => none
  | .write f =>
    match s.rotation with
    | .read ks cfg =>
      some { s with table := (save F ks f cfg s.table).2, rotation := .idle }
    | _ => none

/-- What the web service saved is what the file holds, before any rotation starts. -/
def Init (s : State Key Token) : Prop := s.rotation = .idle ∧ Holds F s.table s.saved

/-- `load()` returns the config the web service saved last, under the keys it takes. -/
structure Kept (s : State Key Token) : Prop where
  loaded : ∀ ks cfg, load F ks none s.table = .ok cfg → cfg = s.saved
  readable : ∀ cfg, s.saved = some cfg → ∃ ks, load F ks none s.table = .ok (some cfg)

variable {F}

/-- When the rotation writes, the config it has read is still the one saved last. -/
def Undisturbed (s : State Key Token) (a : Action Key IV) : Prop :=
  match a, s.rotation with
  | .write _, .read _ cfg => s.saved = some cfg
  | _, _ => True

variable {s s' : State Key Token} {a : Action Key IV}

theorem Kept.of_holds (h : Holds F s.table s.saved) : Kept F s where
  loaded _ _ hload := load_holds h hload
  readable _ hsaved := exists_load (hsaved ▸ h)

/-- A save on a file that holds something leaves the old content or the new. -/
theorem holds_save (ks : Keyring Key) (f : SaveFaults IV) (cfg : Config) {t : ConfigTable Token}
    {held : Option Config} (h : Holds F t held) :
    (∃ e, save F ks f cfg t = (.error e, t)) ∧ Holds F (save F ks f cfg t).2 held ∨
      (save F ks f cfg t).1 = .ok () ∧ Holds F (save F ks f cfg t).2 (some cfg) := by
  rcases @save_cases _ _ _ F ks t f cfg with ⟨e, hs⟩ | ⟨iv, iv', hs⟩
  · exact .inl ⟨⟨e, hs⟩, by rw [hs]; exact h⟩
  · exact .inr ⟨by rw [hs], by rw [hs]; exact ⟨ks.head, stores_single ks.head iv iv' cfg⟩⟩

/-- An undisturbed step keeps the file at what was saved last. -/
theorem holds_step (h : Holds F s.table s.saved) (hok : Undisturbed s a)
    (hstep : step F s a = some s') : Holds F s'.table s'.saved := by
  cases a with
  | webSave ks f cfg =>
    rcases holds_save ks f cfg h with ⟨⟨e, hs⟩, hkeep⟩ | ⟨hs, hnew⟩
    · simp only [step, hs] at hstep
      cases hstep
      exact h
    · rcases hsave : save F ks f cfg s.table with ⟨r, table⟩
      rw [hsave] at hs hnew
      cases hs
      simp only [step, hsave] at hstep
      cases hstep
      exact hnew
  | check ks fault =>
    simp only [step] at hstep
    split at hstep
    · split at hstep <;> cases hstep <;> exact h
    · cases hstep
  | read fault =>
    simp only [step] at hstep
    split at hstep
    · split at hstep <;> cases hstep <;> exact h
    · cases hstep
  | write f =>
    simp only [step] at hstep
    split at hstep
    · rename_i ks cfg hphase
      have hsaved : s.saved = some cfg := by simpa only [Undisturbed, hphase] using hok
      cases hstep
      rcases holds_save ks f cfg h with ⟨_, hkeep⟩ | ⟨_, hnew⟩
      · exact hkeep
      · exact hsaved ▸ hnew
    · cases hstep

theorem holds_of_reachable (h : Reachable (Init F) (step F) Undisturbed s) :
    Holds F s.table s.saved :=
  h.invariant (fun _ hinit => hinit.2) fun _ _ _ _ hs hok hstep => holds_step hs hok hstep

/-- As long as no save of the web service falls between the two transactions of a
rotation the config is kept; a rotation that writes after one has lost it. -/
theorem rotation_keeps (F : Cipher Key IV String Token) {s : State Key Token}
    (h : Reachable (Init F) (step F) Undisturbed s) :
    Kept F s ∧
      ∀ ks cfg (f : SaveFaults IV), s.rotation = .read ks cfg →
        (save F ks f cfg s.table).1 = .ok () →
        ∃ s', step F s (.write f) = some s' ∧ (Kept F s' ↔ Undisturbed s (Action.write f)) := by
  have hheld := holds_of_reachable h
  refine ⟨.of_holds hheld, fun ks cfg f hphase hok => ?_⟩
  refine ⟨{ s with table := (save F ks f cfg s.table).2, rotation := .idle },
    by simp only [step, hphase], ?_⟩
  simp only [Undisturbed, hphase]
  rcases holds_save ks f cfg hheld with ⟨⟨e, hs⟩, _⟩ | ⟨_, hnew⟩
  · rw [hs] at hok
    cases hok
  · constructor
    · intro hkept
      obtain ⟨ks', hload⟩ := exists_load hnew
      exact (hkept.loaded ks' _ hload).symm
    · intro hsaved
      exact .of_holds (hsaved ▸ hnew)

end

/-! ## Two short runs -/

/-- A config with this schedule. -/
def scheduled (scheduleLocal : String) : Config where
  siteLabel := "site"
  bluewebUrl := "http://blueweb/"
  bluewebUser := "operator"
  bluewebPassword := "secret"
  operatorTimezone := "UTC"
  mysqlHost := "db"
  mysqlPort := 3306
  mysqlDatabase := "bluewave"
  mysqlUser := "worker"
  mysqlPassword := "secret"
  scheduleLocal
  catchUpCapDays := 14

/-- Fernet's stand-in: a token shows its key and its text. -/
def fernet : Cipher String Unit String (String × Unit × String) := Cipher.boxed

def calm : SaveFaults Unit := ⟨none, none, .ok (), .ok (), none, none⟩

/-- An empty file. -/
def fresh : State String (String × Unit × String) := ⟨.empty, none, .idle⟩

theorem init_fresh : Init fernet fresh := ⟨rfl, rfl⟩

/-- The operator has saved 03:00 and prepended a new key; the rotation has read it. -/
def readPhase : List (Action String Unit) :=
  [.webSave ⟨"old", []⟩ calm (scheduled "03:00"), .check ⟨"new", ["old"]⟩ none, .read none]

/-- The file holds 03:00 under the new key, the operator saved `saved` last. -/
def rotated (saved : Config) : State String (String × Unit × String) :=
  ⟨single (rowUnder fernet "new" () () (scheduled "03:00")) rfl, some saved, .idle⟩

/-- With no save in between the rotation keeps the config. -/
theorem rotation_keeps_alone : Kept fernet (rotated (scheduled "03:00")) := by
  have hread : Reachable (Init fernet) (step fernet) Undisturbed
      ⟨single (rowUnder fernet "old" () () (scheduled "03:00")) rfl, some (scheduled "03:00"),
        .read ⟨"new", ["old"]⟩ (scheduled "03:00")⟩ :=
    (((Reachable.start init_fresh).next (a := readPhase[0]) trivial rfl).next
      (a := readPhase[1]) trivial rfl).next (a := readPhase[2]) trivial rfl
  exact (rotation_keeps fernet (hread.next (a := .write calm) rfl rfl)).1

/-- The operator saves 05:00 between the two transactions of the rotation, and it is
gone. -/
theorem rotation_loses : ¬ ∀ s : State String (String × Unit × String),
    Reachable (Init fernet) (step fernet) (Free (A := Action String Unit)) s → Kept fernet s := by
  intro h
  have hrun : runSchedule (step fernet) fresh (readPhase ++
      [.webSave ⟨"new", ["old"]⟩ calm (scheduled "05:00"), .write calm]) =
        some (rotated (scheduled "05:00")) := rfl
  have hload : load fernet ⟨"new", []⟩ none (rotated (scheduled "05:00")).table =
      .ok (some (scheduled "03:00")) := rfl
  have heq := (h _ (Reachable.schedule (.start init_fresh) hrun)).loaded _ _ hload
  revert heq
  decide

end Bluewave.Rotation
