import Bluewave.ConfigStore

/-! The config file over any history of saves and key rotations, each with its own keys
and its own failures, one after another. The ledger keeps what the file should hold:
the config last saved, and the head key of the last operation that returned. -/
namespace Bluewave.ConfigHistory
open Lib Bluewave.Exceptions Bluewave.ConfigStore

section
variable {Key IV Token : Type} {F : Cipher Key IV String Token}

inductive Operation (Key IV : Type) where
  | save (ks : Keyring Key) (f : SaveFaults IV) (cfg : Config)
  | reencryptAll (ks : Keyring Key) (fault : Option Exn) (f : SaveFaults IV)

def Operation.keyring : Operation Key IV → Keyring Key
  | .save ks _ _ => ks
  | .reencryptAll ks _ _ => ks

def Operation.run (F : Cipher Key IV String Token) (op : Operation Key IV)
    (t : ConfigTable Token) : Except Exn Unit × ConfigTable Token :=
  match op with
  | .save ks f cfg => ConfigStore.save F ks f cfg t
  | .reencryptAll ks fault f => ConfigStore.reencryptAll F ks fault f t

/-- The file, the config of the last `save` that returned and the head key of the last
operation that returned. -/
structure Ledger (Key Token : Type) where
  table : ConfigTable Token
  saved : Option Config
  head : Option Key

def Ledger.empty : Ledger Key Token := ⟨.empty, none, none⟩

def Ledger.record (F : Cipher Key IV String Token) (l : Ledger Key Token)
    (op : Operation Key IV) : Ledger Key Token :=
  match op.run F l.table with
  | (.error _, table) => { l with table }
  | (.ok (), table) =>
    { table
      saved := match op with
        | .save _ _ cfg => some cfg
        | .reencryptAll .. => l.saved
      head := some op.keyring.head }

def runAll (F : Cipher Key IV String Token) (history : List (Operation Key IV)) :
    Ledger Key Token := history.foldl (Ledger.record F) .empty

/-- The file holds what the ledger says. -/
def Ledger.Sound (F : Cipher Key IV String Token) (l : Ledger Key Token) : Prop :=
  match l.saved with
  | none => l.table.rows = []
  | some cfg => ∃ k, l.head = some k ∧ Stores F l.table k cfg

theorem Ledger.Sound.empty_of_none {l : Ledger Key Token} (h : l.Sound F) (hsaved : l.saved = none) :
    l.table.rows = [] := by
  rwa [Ledger.Sound, hsaved] at h

theorem Ledger.Sound.stores {l : Ledger Key Token} (h : l.Sound F) {cfg : Config}
    (hsaved : l.saved = some cfg) : ∃ k, l.head = some k ∧ Stores F l.table k cfg := by
  rwa [Ledger.Sound, hsaved] at h

theorem save_error {ks : Keyring Key} {f : SaveFaults IV} {cfg : Config} {t : ConfigTable Token}
    {e : Exn} (h : (save F ks f cfg t).1 = .error e) : (save F ks f cfg t).2 = t := by
  rcases @save_cases _ _ _ F ks t f cfg with ⟨e', hs⟩ | ⟨iv, iv', hs⟩
  · rw [hs]
  · rw [hs] at h
    cases h

theorem save_ok {ks : Keyring Key} {f : SaveFaults IV} {cfg : Config} {t : ConfigTable Token}
    (h : (save F ks f cfg t).1 = .ok ()) : Stores F (save F ks f cfg t).2 ks.head cfg := by
  rcases @save_cases _ _ _ F ks t f cfg with ⟨e', hs⟩ | ⟨iv, iv', hs⟩
  · rw [hs] at h
    cases h
  · rw [hs]
    exact stores_single ks.head iv iv' cfg

theorem reencryptAll_error {ks : Keyring Key} {fault : Option Exn} {f : SaveFaults IV}
    {t : ConfigTable Token} {e : Exn} (h : (reencryptAll F ks fault f t).1 = .error e) :
    (reencryptAll F ks fault f t).2 = t := by
  match hload : load F ks fault t with
  | .error e' => simp only [reencryptAll, hload]
  | .ok none => simp only [reencryptAll, hload]
  | .ok (some cfg) =>
    rw [reencryptAll_loaded hload] at h ⊢
    exact save_error h

/-- An operation that raises leaves the file as it was. -/
theorem Operation.run_error {op : Operation Key IV} {t : ConfigTable Token} {e : Exn}
    (h : (op.run F t).1 = .error e) : (op.run F t).2 = t := by
  cases op with
  | save ks f cfg => exact save_error h
  | reencryptAll ks fault f => exact reencryptAll_error h

/-- A rotation that returns has put the stored config under the head key. -/
theorem reencryptAll_ok {ks : Keyring Key} {fault : Option Exn} {f : SaveFaults IV}
    {t : ConfigTable Token} {k : Key} {cfg : Config} (hst : Stores F t k cfg)
    (h : (reencryptAll F ks fault f t).1 = .ok ()) :
    Stores F (reencryptAll F ks fault f t).2 ks.head cfg := by
  match hload : load F ks fault t with
  | .error e' => simp only [reencryptAll, hload] at h; cases h
  | .ok none => exact (load_ne_none hst hload).elim
  | .ok (some loaded) =>
    rw [reencryptAll_loaded hload] at h ⊢
    exact load_some hst hload ▸ save_ok h

/-- With nothing stored a rotation has nothing to do. -/
theorem reencryptAll_empty {ks : Keyring Key} {fault : Option Exn} {f : SaveFaults IV}
    {t : ConfigTable Token} (ht : t.rows = []) : (reencryptAll F ks fault f t).2 = t := by
  unfold reencryptAll
  rcases @load_of_empty _ _ _ F ks t fault ht with hload | ⟨e, hload⟩ <;>
    simp only [hload]

theorem Ledger.Sound.record {l : Ledger Key Token} (h : l.Sound F) (op : Operation Key IV) :
    (l.record F op).Sound F := by
  unfold Ledger.record
  match hrun : op.run F l.table with
  | (.error e, table) =>
    have hsame : table = l.table := by
      have hkept := Operation.run_error (congrArg Prod.fst hrun)
      rwa [hrun] at hkept
    rw [hsame]
    exact h
  | (.ok (), table) =>
    cases op with
    | save ks f cfg =>
      have htable : table = (save F ks f cfg l.table).2 := (congrArg Prod.snd hrun).symm
      exact ⟨ks.head, rfl, htable ▸ save_ok (congrArg Prod.fst hrun)⟩
    | reencryptAll ks fault f =>
      have htable : table = (reencryptAll F ks fault f l.table).2 := (congrArg Prod.snd hrun).symm
      have hok : (reencryptAll F ks fault f l.table).1 = .ok () := congrArg Prod.fst hrun
      simp only [Ledger.Sound]
      cases hsaved : l.saved with
      | none =>
        have hempty := h.empty_of_none hsaved
        rw [htable, reencryptAll_empty hempty]
        exact hempty
      | some cfg =>
        obtain ⟨k, -, hst⟩ := h.stores hsaved
        exact ⟨ks.head, rfl, htable ▸ reencryptAll_ok hst hok⟩

theorem runAll_sound (history : List (Operation Key IV)) : (runAll F history).Sound F := by
  have hfold : ∀ (l : Ledger Key Token), l.Sound F → (history.foldl (Ledger.record F) l).Sound F := by
    induction history with
    | nil => exact fun l h => h
    | cons op history ih => exact fun l h => ih _ (h.record op)
  exact hfold .empty rfl

/-- After any history the file holds the config last saved, under the head key of the
last operation that returned, and an operation that raises does not touch it. -/
theorem config_survives (F : Cipher Key IV String Token) (history : List (Operation Key IV)) :
    (runAll F history).table.rows.length ≤ 1 ∧
    (∀ op e, (Operation.run F op (runAll F history).table).1 = .error e →
      (Operation.run F op (runAll F history).table).2 = (runAll F history).table) ∧
    (∀ row ∈ (runAll F history).table.rows, ∃ head, (runAll F history).head = some head ∧
      (∃ iv password, row.bluewebPasswordEnc = F.encrypt head iv password) ∧
      ∃ iv password, row.mysqlPasswordEnc = F.encrypt head iv password) ∧
    (∀ ks : Keyring Key, (runAll F history).saved = none →
      load F ks none (runAll F history).table = .ok none) ∧
    (∀ (ks : Keyring Key) cfg, (runAll F history).saved = some cfg →
      ∃ head, (runAll F history).head = some head ∧
        (head ∈ ks.keys → load F ks none (runAll F history).table = .ok (some cfg)) ∧
        (head ∉ ks.keys → ∃ e, load F ks none (runAll F history).table = .error e)) ∧
    (∀ ks fault f cfg, (runAll F history).saved = some cfg →
      (Operation.run F (.reencryptAll ks fault f) (runAll F history).table).1 = .ok () →
      load F ⟨ks.head, []⟩ none
        (Operation.run F (.reencryptAll ks fault f) (runAll F history).table).2 =
          .ok (some cfg)) := by
  have hsound := runAll_sound (F := F) history
  generalize runAll F history = l at hsound ⊢
  refine ⟨l.table.length_le_one, fun op e => Operation.run_error, ?_, ?_, ?_, ?_⟩
  · intro row hrow
    cases hsaved : l.saved with
    | none =>
      rw [hsound.empty_of_none hsaved] at hrow
      cases hrow
    | some cfg =>
      obtain ⟨k, hk, iv, iv', hrows⟩ := hsound.stores hsaved
      rw [hrows, List.mem_singleton] at hrow
      rw [hrow]
      exact ⟨k, hk, ⟨iv, _, rfl⟩, iv', _, rfl⟩
  · intro ks hsaved
    exact load_empty (hsound.empty_of_none hsaved)
  · intro ks cfg hsaved
    obtain ⟨k, hk, hst⟩ := hsound.stores hsaved
    exact ⟨k, hk, load_stored hst, fun hnot => ⟨_, load_undecryptable hst hnot⟩⟩
  · intro ks fault f cfg hsaved hok
    obtain ⟨k, -, hst⟩ := hsound.stores hsaved
    exact load_stored (reencryptAll_ok hst hok) (Keyring.head_mem ⟨ks.head, []⟩)

end

end Bluewave.ConfigHistory
