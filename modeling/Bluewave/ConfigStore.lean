import Mathlib.Algebra.Group.Int.Defs
import Bluewave.Lib.Cipher
import Bluewave.Lib.Transaction
import Bluewave.Config
import Bluewave.Exceptions

/-! `ConfigStore`: the one row of the SQLite file, its two passwords encrypted. Every
call opens a connection of its own, and closing it rolls an open transaction back. The
old row is deleted before the new one is put together, so what may fail in between
stands between DELETE and COMMIT. `F` is Fernet. -/
namespace Bluewave.ConfigStore
open Lib Bluewave.Exceptions

/-- A row of the table `config`. -/
structure ConfigRow (Token : Type) where
  id : Int
  siteLabel : String
  bluewebUrl : String
  bluewebUser : String
  bluewebPasswordEnc : Token
  operatorTimezone : String
  mysqlHost : String
  mysqlPort : Int
  mysqlDatabase : String
  mysqlUser : String
  mysqlPasswordEnc : Token
  scheduleLocal : String
  catchUpCapDays : Int
  deriving DecidableEq

/-- The table, with `PRIMARY KEY` and `CHECK (id = 1)`. -/
structure ConfigTable (Token : Type) where
  rows : List (ConfigRow Token)
  primaryKey : (rows.map ConfigRow.id).Nodup
  check : ∀ r ∈ rows, r.id = 1

/-- The statements of `save` that write. -/
inductive SqlStmt (Token : Type) where
  | deleteAll
  | insert (row : ConfigRow Token)

section
variable {Token : Type}

@[ext] theorem ConfigTable.ext {t u : ConfigTable Token} (h : t.rows = u.rows) : t = u := by
  cases t; cases u; cases h; rfl

def ConfigTable.empty : ConfigTable Token := ⟨[], by simp, by simp⟩

def integrityError (text : String) : Exn := .other "IntegrityError" text

def ConfigTable.apply (t : ConfigTable Token) :
    SqlStmt Token → Except Exn (Unit × ConfigTable Token)
  | .deleteAll => .ok ((), .empty)
  | .insert row =>
    if hc : row.id = 1 then
      if hk : row.id ∈ t.rows.map ConfigRow.id then
        .error (integrityError "UNIQUE constraint failed: config.id")
      else
        .ok ((), {
          rows := t.rows ++ [row]
          primaryKey := by
            rw [List.map_append, List.nodup_append]
            refine ⟨t.primaryKey, by simp, ?_⟩
            intro x hx y hy he
            have hy' : y = row.id := by simpa using hy
            exact hk (hy' ▸ he ▸ hx)
          check := by
            intro r hr
            rcases List.mem_append.mp hr with h | h
            · exact t.check r h
            · rw [List.mem_singleton.mp h]
              exact hc })
    else .error (integrityError "CHECK constraint failed: id = 1")

instance : Store (ConfigTable Token) (SqlStmt Token) Exn Unit := ⟨ConfigTable.apply⟩

/-- The constraints leave room for one row. -/
theorem ConfigTable.length_le_one (t : ConfigTable Token) : t.rows.length ≤ 1 := by
  match h : t.rows with
  | [] => simp
  | [_] => simp
  | a :: b :: rest =>
    have ha := t.check a (by simp [h])
    have hb := t.check b (by simp [h])
    have hnodup := t.primaryKey
    simp [h, ha, hb] at hnodup

end

/-! ## Operations -/

/-- What happens around one `save`: failures of the steps, and the random part of the
two tokens. A value SQLite cannot encode fails the INSERT. -/
structure SaveFaults (IV : Type) where
  opening : Option Exn
  delete : Option Exn
  blueweb : Except Exn IV
  mysql : Except Exn IV
  insert : Option Exn
  commit : Option Exn

/-- A Python int as a parameter. -/
def bindInt (n : Int) : Except Exn Int :=
  if -2 ^ 63 ≤ n ∧ n < 2 ^ 63 then .ok n
  else .error (overflowError "Python int too large to convert to SQLite INTEGER")

section
variable {Key IV Token : Type} (F : Cipher Key IV String Token)

abbrev Sqlite (Token β : Type) := Session (ConfigTable Token) (SqlStmt Token) Exn β

/-- The row of a config whose tokens `k` makes. -/
def rowUnder (k : Key) (iv iv' : IV) (cfg : Config) : ConfigRow Token where
  id := 1
  siteLabel := cfg.siteLabel
  bluewebUrl := cfg.bluewebUrl
  bluewebUser := cfg.bluewebUser
  bluewebPasswordEnc := F.encrypt k iv cfg.bluewebPassword
  operatorTimezone := cfg.operatorTimezone
  mysqlHost := cfg.mysqlHost
  mysqlPort := cfg.mysqlPort
  mysqlDatabase := cfg.mysqlDatabase
  mysqlUser := cfg.mysqlUser
  mysqlPasswordEnc := F.encrypt k iv' cfg.mysqlPassword
  scheduleLocal := cfg.scheduleLocal
  catchUpCapDays := cfg.catchUpCapDays

/-- The body of `save`: `BEGIN`, the two statements with the tokens made between them,
`COMMIT`. -/
def saveBody (ks : Keyring Key) (f : SaveFaults IV) (cfg : Config) : Sqlite Token Unit := do
  Session.lift (Session.raised f.opening)
  let _ ← Session.execute f.delete .deleteAll
  let iv ← Session.lift f.blueweb
  let iv' ← Session.lift f.mysql
  let _ ← Session.lift (bindInt cfg.mysqlPort)
  let _ ← Session.lift (bindInt cfg.catchUpCapDays)
  let _ ← Session.execute f.insert (.insert (rowUnder F ks.head iv iv' cfg))
  Session.commit f.commit

/-- `with self._conn() as conn`: what the call answers and what the file holds after. -/
def withConn {β : Type} (body : Sqlite Token β) (t : ConfigTable Token) :
    Except Exn β × ConfigTable Token :=
  ((body.run (.opened t)).1, (body.run (.opened t)).2.durable)

def save (ks : Keyring Key) (f : SaveFaults IV) (cfg : Config) (t : ConfigTable Token) :
    Except Exn Unit × ConfigTable Token :=
  withConn (saveBody F ks f cfg) t

def decryptText (ks : Keyring Key) (token : Token) : Except Exn String :=
  match F.decryptAny ks token with
  | some text => .ok text
  | none => .error (.other "InvalidToken" "")

/-- `load`, with the failure of its SELECT. -/
def load (ks : Keyring Key) (fault : Option Exn) (t : ConfigTable Token) :
    Except Exn (Option Config) :=
  match (withConn (Session.query fault fun t => t.rows.find? fun r => r.id = 1) t).1 with
  | .error e => .error e
  | .ok none => .ok none
  | .ok (some row) => do
    let bluewebPassword ← decryptText F ks row.bluewebPasswordEnc
    let mysqlPassword ← decryptText F ks row.mysqlPasswordEnc
    pure (some {
      siteLabel := row.siteLabel, bluewebUrl := row.bluewebUrl, bluewebUser := row.bluewebUser
      bluewebPassword, operatorTimezone := row.operatorTimezone, mysqlHost := row.mysqlHost
      mysqlPort := row.mysqlPort, mysqlDatabase := row.mysqlDatabase, mysqlUser := row.mysqlUser
      mysqlPassword, scheduleLocal := row.scheduleLocal, catchUpCapDays := row.catchUpCapDays })

/-- `reencrypt_all`: a load on one connection, a save on another. -/
def reencryptAll (ks : Keyring Key) (fault : Option Exn) (f : SaveFaults IV)
    (t : ConfigTable Token) : Except Exn Unit × ConfigTable Token :=
  match load F ks fault t with
  | .error e => (.error e, t)
  | .ok none => (.ok (), t)
  | .ok (some cfg) => save F ks f cfg t

end

/-! ## What the calls do -/

section
variable {Key IV Token : Type} {F : Cipher Key IV String Token} {ks : Keyring Key}
  {t : ConfigTable Token}

/-- The table that holds one row. -/
def single (row : ConfigRow Token) (h : row.id = 1) : ConfigTable Token :=
  ⟨[row], by simp, fun r hr => by rw [List.mem_singleton.mp hr, h]⟩

theorem apply_insert_empty {row : ConfigRow Token} (h : row.id = 1) :
    Store.apply (ConfigTable.empty : ConfigTable Token) (SqlStmt.insert row) =
      .ok ((), single row h) := by
  simp [Store.apply, ConfigTable.apply, ConfigTable.empty, single, h]

/-- A save that raises leaves the file as it was, a save that returns leaves the new row. -/
theorem saveBody_outcome (f : SaveFaults IV) (cfg : Config) :
    Session.AllOrNothing t
      (fun _ c => ∃ iv iv', c.durable = single (rowUnder F ks.head iv iv' cfg) rfl)
      ((saveBody F ks f cfg).run (.opened t)) := by
  refine .bind_lift rfl fun _ _ => ?_
  -- from the DELETE on the row is gone, and only the COMMIT makes that durable
  refine .bind_execute rfl fun _ _ _ => ?_
  refine .bind_lift rfl fun iv _ => ?_
  refine .bind_lift rfl fun iv' _ => ?_
  refine .bind_lift rfl fun _ _ => ?_
  refine .bind_lift rfl fun _ _ => ?_
  refine .bind_execute rfl fun _ _ _ => .commit rfl ⟨iv, iv', ?_⟩
  simp only [Conn.durable_commit, Conn.working_push, Conn.working_opened, replay_cons, replay_nil]
  exact effect_of_apply (apply_insert_empty rfl)

theorem save_cases (f : SaveFaults IV) (cfg : Config) :
    (∃ e, save F ks f cfg t = (.error e, t)) ∨
      ∃ iv iv', save F ks f cfg t = (.ok (), single (rowUnder F ks.head iv iv' cfg) rfl) := by
  have h := @saveBody_outcome _ _ _ F ks t f cfg
  unfold save withConn
  rcases hrun : (saveBody F ks f cfg).run (.opened t) with ⟨e | u, c⟩ <;> rw [hrun] at h
  · exact .inl ⟨e, congrArg _ (Session.allOrNothing_error.mp h)⟩
  · obtain ⟨iv, iv', hdurable⟩ := Session.allOrNothing_ok.mp h
    exact .inr ⟨iv, iv', congrArg _ hdurable⟩

/-- Nothing fails around the save. -/
def SaveFaults.Clear (f : SaveFaults IV) : Prop :=
  ∃ iv iv', f = ⟨none, none, .ok iv, .ok iv', none, none⟩

theorem bindInt_ok {n : Int} (h : 0 ≤ n ∧ n < 2 ^ 63) : bindInt n = .ok n :=
  if_pos ⟨by omega, h.2⟩

/-- A config whose integers fit is saved when nothing fails, and only then. -/
theorem save_ok_iff {f : SaveFaults IV} {cfg : Config}
    (hport : 0 ≤ cfg.mysqlPort ∧ cfg.mysqlPort < 2 ^ 63)
    (hcap : 0 ≤ cfg.catchUpCapDays ∧ cfg.catchUpCapDays < 2 ^ 63) :
    (save F ks f cfg t).1 = .ok () ↔ f.Clear := by
  simp only [save, withConn, saveBody, bindInt_ok hport, bindInt_ok hcap]
  constructor
  · intro h
    -- the first step that fails is what the call raises
    match f with
    | ⟨some _, _, _, _, _, _⟩ => cases h
    | ⟨none, some _, _, _, _, _⟩ => cases h
    | ⟨none, none, .error _, _, _, _⟩ => cases h
    | ⟨none, none, .ok _, .error _, _, _⟩ => cases h
    | ⟨none, none, .ok _, .ok _, some _, _⟩ => cases h
    | ⟨none, none, .ok _, .ok _, none, some _⟩ => cases h
    | ⟨none, none, .ok iv, .ok iv', none, none⟩ => exact ⟨iv, iv', rfl⟩
  · rintro ⟨iv, iv', rfl⟩
    rfl

/-- The file holds one row, of this config, with both tokens under this key. -/
def Stores (F : Cipher Key IV String Token) (t : ConfigTable Token) (k : Key) (cfg : Config) : Prop :=
  ∃ iv iv', t.rows = [rowUnder F k iv iv' cfg]

theorem stores_single (k : Key) (iv iv' : IV) (cfg : Config) :
    Stores F (single (rowUnder F k iv iv' cfg) rfl) k cfg := ⟨iv, iv', rfl⟩

/-- The file holds this config under some key, or no row. -/
def Holds (F : Cipher Key IV String Token) (t : ConfigTable Token) : Option Config → Prop
  | none => t.rows = []
  | some cfg => ∃ k, Stores F t k cfg

theorem load_empty (h : t.rows = []) : load F ks none t = .ok none := by
  simp [load, withConn, Session.query_ok, h]

section
variable {k : Key} {cfg : Config}

theorem load_stored (h : Stores F t k cfg) (hk : k ∈ ks.keys) :
    load F ks none t = .ok (some cfg) := by
  obtain ⟨iv, iv', hrows⟩ := h
  simp only [load, withConn, Session.query_ok, Conn.working_opened, hrows, rowUnder,
    List.find?_cons_of_pos, decide_true, decryptText, Cipher.decryptAny_of_mem hk]
  rfl

theorem load_undecryptable (h : Stores F t k cfg) (hk : k ∉ ks.keys) :
    load F ks none t = .error (.other "InvalidToken" "") := by
  obtain ⟨iv, iv', hrows⟩ := h
  simp only [load, withConn, Session.query_ok, Conn.working_opened, hrows, rowUnder,
    List.find?_cons_of_pos, decide_true, decryptText, Cipher.decryptAny_of_not_mem hk]
  rfl

/-- What a load returns, with any failure of its own, is what is stored. -/
theorem load_some {fault : Option Exn} {loaded : Config} (h : Stores F t k cfg)
    (hload : load F ks fault t = .ok (some loaded)) : loaded = cfg := by
  cases fault with
  | some e => cases hload
  | none =>
    by_cases hk : k ∈ ks.keys
    · rw [load_stored h hk] at hload
      exact (Option.some.inj (Except.ok.inj hload)).symm
    · rw [load_undecryptable h hk] at hload
      cases hload

theorem load_ne_none {fault : Option Exn} (h : Stores F t k cfg) :
    load F ks fault t ≠ .ok none := by
  cases fault with
  | some e => exact fun hload => by cases hload
  | none =>
    by_cases hk : k ∈ ks.keys
    · rw [load_stored h hk]; simp
    · rw [load_undecryptable h hk]; simp

end

theorem load_of_empty {fault : Option Exn} (h : t.rows = []) :
    load F ks fault t = .ok none ∨ ∃ e, load F ks fault t = .error e := by
  cases fault with
  | some e => exact .inr ⟨e, rfl⟩
  | none => exact .inl (load_empty h)

/-- A load that returns at all returns what the file holds. -/
theorem load_holds {fault : Option Exn} {held loaded : Option Config} (h : Holds F t held)
    (hload : load F ks fault t = .ok loaded) : loaded = held := by
  cases held with
  | none =>
    rcases @load_of_empty _ _ _ F ks t fault h with hl | ⟨e, hl⟩ <;>
      rw [hl] at hload <;> cases hload
    rfl
  | some cfg =>
    obtain ⟨k, hst⟩ := h
    cases loaded with
    | none => exact (load_ne_none hst hload).elim
    | some loaded => rw [load_some hst hload]

/-- The keys of the last writer read the file. -/
theorem exists_load {held : Config} (h : Holds F t (some held)) :
    ∃ ks, load F ks none t = .ok (some held) := by
  obtain ⟨k, hst⟩ := h
  exact ⟨⟨k, []⟩, load_stored hst (Keyring.head_mem _)⟩

/-- A rotation that has read a config saves it again. -/
theorem reencryptAll_loaded {fault : Option Exn} {f : SaveFaults IV} {cfg : Config}
    (h : load F ks fault t = .ok (some cfg)) : reencryptAll F ks fault f t = save F ks f cfg t := by
  simp only [reencryptAll, h]

end

end Bluewave.ConfigStore
