import Mathlib.Data.List.TakeWhile
import Bluewave.Auth
import Bluewave.Exceptions
import Bluewave.Lib.Cipher
import Bluewave.Lib.Result

/-! The two readers of `CONFIG_ENC_KEYS`. The config store takes the entries that are not blank,
the CSRF signer takes what stands before the first comma. -/
namespace Bluewave.HeadKey
open Lib Bluewave.Exceptions Bluewave.Auth

/-! ## The config store -/

/-- The lowest `n` hex digits of a code point. -/
def hexDigits : Nat → Nat → List Char
  | 0, _ => []
  | n + 1, code => hexDigits n (code / 16) ++ [Nat.digitChar (code % 16)]

/-- `UnicodeEncodeError`, on the first run of characters that are not ASCII. -/
def unicodeEncodeError (s : String) : Exn :=
  let start := (s.toList.takeWhile fun c => c.toNat < 128).length
  let run := (s.toList.drop start).takeWhile fun c => 128 ≤ c.toNat
  let code := (run.headD ' ').toNat
  let char := if code ≤ 0xff then 'x' :: hexDigits 2 code
    else if code ≤ 0xffff then 'u' :: hexDigits 4 code else 'U' :: hexDigits 8 code
  .other "UnicodeEncodeError" ("'ascii' codec can't encode " ++
    (if run.length = 1 then "character '\\" ++ String.ofList char ++ "' in position " ++ toString start
      else "characters in position " ++ toString start ++ "-" ++ toString (start + run.length - 1)) ++
    ": ordinal not in range(128)")

/-- `s.encode("ascii")`, as the text it is the bytes of. -/
def encodeAscii (s : String) : Except Exn String :=
  if isAscii s then .ok s else .error (unicodeEncodeError s)

/-- The entries between the commas. -/
def entries (raw : String) : List String := (raw.toList.splitOn ',').map String.ofList

def parseKeysEnv : Option String → Except Exn (List String)
  | none => .error (valueError "CONFIG_ENC_KEYS is empty; run python -m bluewave.keygen")
  | some raw =>
    if strip raw = "" then
      .error (valueError "CONFIG_ENC_KEYS is empty; run python -m bluewave.keygen")
    else do
      let keys ← ((entries raw).filter fun k => strip k ≠ "").mapM fun k => encodeAscii (strip k)
      if keys = [] then .error (valueError "CONFIG_ENC_KEYS contained no non-empty entries")
      else pure keys

/-- `build_multifernet`, with what `Fernet` makes of a key. -/
def buildMultifernet {Key : Type} (fernet : String → Except Exn Key) (keys : List String) :
    Except Exn (Keyring Key) := do
  match ← keys.mapM fernet with
  | [] => .error (valueError "MultiFernet requires at least one Fernet instance")
  | head :: tail => pure ⟨head, tail⟩

/-! ## The CSRF signer -/

/-- `itsdangerous` of one moment: what it signs it accepts again. -/
structure Serializer (L : Libraries) where
  /-- `URLSafeTimedSerializer(secret, salt="bluewave.csrf.v1").dumps({"ts": int(time.time())})` -/
  dumps : String → String
  dumps_ne_empty : ∀ secret, dumps secret ≠ ""
  loads_dumps : ∀ secret, L.loads secret (dumps secret) = .ok ()

section
variable {L : Libraries}

def issueCsrfToken (S : Serializer L) (env : Env) : Except Failure String := do
  let secret ← csrfSecret env
  pure (S.dumps secret)

/-- The signing secret is the head of the keys: tokens can be issued and verified, and the key
that encrypts new writes is the one they are signed with. -/
structure SignsWithHead (S : Serializer L) (env : Env) (keys : List String) : Prop where
  secret : ∃ head tail, keys = head :: tail ∧ csrfSecret env = .ok head
  verifies : ∃ token, issueCsrfToken S env = .ok token ∧ verifyCsrfToken L env (some token) = .ok ()
  encrypts : ∀ (Key : Type) (fernet : String → Except Exn Key) (ks : Keyring Key),
    buildMultifernet fernet keys = .ok ks →
      ∃ secret, csrfSecret env = .ok secret ∧ fernet secret = .ok ks.head

end

/-! ## Blanks -/

/-- The first entry is what stands before the first comma. -/
theorem entries_eq (raw : String) :
    ∃ rest, entries raw = String.ofList (raw.toList.takeWhile (· ≠ ',')) :: rest := by
  unfold entries
  by_cases hcomma : ',' ∈ raw.toList
  · obtain ⟨before, behind, heq, hbefore⟩ := List.eq_append_cons_of_mem hcomma
    have htake : raw.toList.takeWhile (· ≠ ',') = before := by
      have hne : ∀ c ∈ before, (decide (c ≠ ',')) = true := fun c hc =>
        decide_eq_true fun h => hbefore (h ▸ hc)
      rw [heq, List.takeWhile_append_of_pos hne, List.takeWhile_cons_of_neg (by simp),
        List.append_nil]
    rw [htake, heq, List.splitOn_append_cons_self_of_not_mem hbefore, List.map_cons]
    exact ⟨_, rfl⟩
  · have htake : raw.toList.takeWhile (· ≠ ',') = raw.toList :=
      List.takeWhile_eq_self_iff.mpr fun c hc => decide_eq_true fun h => hcomma (h ▸ hc)
    rw [List.splitOn_eq_singleton hcomma, htake]
    exact ⟨[], rfl⟩

/-- What stands before the first comma of a text is blank exactly when the first character that
is not a blank is a comma. -/
theorem first_blank {cs : List Char} (h : ∃ c ∈ cs, isSpace c = false) :
    (∀ c ∈ cs.takeWhile (· ≠ ','), isSpace c = true) ↔
      (cs.dropWhile isSpace).head? = some ',' := by
  induction cs with
  | nil =>
    obtain ⟨c, hc, -⟩ := h
    cases hc
  | cons c cs ih =>
    by_cases hcomma : c = ','
    · subst hcomma
      have hnot : ¬ isSpace ',' = true := by decide
      rw [List.takeWhile_cons_of_neg (by simp), List.dropWhile_cons_of_neg hnot]
      exact iff_of_true (fun _ hc => nomatch hc) rfl
    · rw [List.takeWhile_cons_of_pos (by simpa using hcomma), List.forall_mem_cons]
      cases hspace : isSpace c with
      | true =>
        rw [List.dropWhile_cons_of_pos hspace, ← ih ?_]
        · simp only [true_and]
        · obtain ⟨d, hd, hdspace⟩ := h
          rcases List.mem_cons.mp hd with rfl | hd
          · rw [hspace] at hdspace
            cases hdspace
          · exact ⟨d, hd, hdspace⟩
      | false =>
        rw [List.dropWhile_cons_of_neg (by simp [hspace])]
        refine iff_of_false (by simp) fun heq => hcomma (Option.some.inj heq)

/-! ## Heads -/

theorem encodeAscii_ok {s out : String} (h : encodeAscii s = .ok out) : out = s :=
  (Result.ite_eq_ok.mp h).2

theorem mapM_encodeAscii {ks keys : List String}
    (h : ks.mapM (fun k => encodeAscii (strip k)) = .ok keys) : keys = ks.map strip := by
  have hall := Result.mapM_eq_ok.mp h
  clear h
  induction hall with
  | nil => rfl
  | cons hk _ ih => rw [encodeAscii_ok hk, List.map_cons, ih]

section
variable {raw : String} {keys : List String}

theorem parseKeysEnv_ok (h : parseKeysEnv (some raw) = .ok keys) : strip raw ≠ "" ∧
    keys = ((entries raw).filter fun k => strip k ≠ "").map strip ∧ keys ≠ [] := by
  simp only [parseKeysEnv] at h
  split at h
  · cases h
  · rename_i hraw
    obtain ⟨out, hkeys, h⟩ := Result.bind_eq_ok.mp h
    split at h
    · cases h
    · rename_i hne
      cases h
      exact ⟨hraw, mapM_encodeAscii hkeys, hne⟩

/-- The signer has a secret exactly when the first entry is not blank, and then it is that
entry. -/
theorem csrfSecret_eq {env : Env} (henv : env.configEncKeys = some raw) :
    csrfSecret env = if strip (String.ofList (raw.toList.takeWhile (· ≠ ','))) = "" then
      .error internalServerError
      else .ok (strip (String.ofList (raw.toList.takeWhile (· ≠ ',')))) := by
  simp only [csrfSecret, henv, Option.getD_some]

theorem first_entry_blank_iff (hraw : strip raw ≠ "") :
    strip (String.ofList (raw.toList.takeWhile (· ≠ ','))) = "" ↔
      (raw.toList.dropWhile isSpace).head? = some ',' := by
  rw [strip_eq_empty, String.toList_ofList, first_blank]
  by_contra hnot
  refine hraw (strip_eq_empty.mpr fun c hc => ?_)
  by_contra hspace
  exact hnot ⟨c, hc, by simpa using hspace⟩

/-- The head of the keys is the first entry, unless that is blank. -/
theorem head_keys (hkeys : keys = ((entries raw).filter fun k => strip k ≠ "").map strip)
    (hfirst : strip (String.ofList (raw.toList.takeWhile (· ≠ ','))) ≠ "") :
    ∃ tail, keys = strip (String.ofList (raw.toList.takeWhile (· ≠ ','))) :: tail := by
  obtain ⟨rest, hentries⟩ := entries_eq raw
  rw [hkeys, hentries, List.filter_cons_of_pos (by simpa using hfirst), List.map_cons]
  exact ⟨_, rfl⟩

end

/-- For a value the store takes its keys from, the signer uses their head exactly when the first
character that is not a blank is not a comma. -/
theorem signsWithHead_iff {L : Libraries} (S : Serializer L) (env : Env) (raw : String)
    (keys : List String) (henv : env.configEncKeys = some raw)
    (h : parseKeysEnv (some raw) = .ok keys) :
    SignsWithHead S env keys ↔ (raw.toList.dropWhile isSpace).head? ≠ some ',' := by
  obtain ⟨hraw, hkeys, -⟩ := parseKeysEnv_ok h
  have hsecret := csrfSecret_eq henv
  rw [ne_eq, ← (first_entry_blank_iff hraw).not]
  constructor
  · intro hsigns hblank
    obtain ⟨head, tail, -, hok⟩ := hsigns.secret
    rw [hsecret, if_pos hblank] at hok
    cases hok
  · intro hfirst
    obtain ⟨tail, htail⟩ := head_keys hkeys hfirst
    rw [if_neg hfirst] at hsecret
    generalize strip (String.ofList (raw.toList.takeWhile (· ≠ ','))) = first at hsecret htail
    refine ⟨⟨first, tail, htail, hsecret⟩, ⟨S.dumps first, ?_, ?_⟩,
      fun Key fernet ks hks => ⟨first, hsecret, ?_⟩⟩
    · simp only [issueCsrfToken, hsecret, bind, Except.bind, pure, Except.pure]
    · simp only [verifyCsrfToken, if_neg (S.dumps_ne_empty _), hsecret, bind, Except.bind,
        S.loads_dumps]
    · rw [htail] at hks
      simp only [buildMultifernet, List.mapM_cons, bind, Except.bind] at hks
      cases hhead : fernet first with
      | error e =>
        rw [hhead] at hks
        cases hks
      | ok head =>
        cases hrest : tail.mapM fernet with
        | error e =>
          simp only [hhead, hrest] at hks
          cases hks
        | ok rest =>
          simp only [hhead, hrest] at hks
          cases hks
          rfl

/-- A token is its secret between two quotes. -/
def quoting : Libraries where
  httpBasic _ := .error invalidCredentials
  checkpw _ _ := .ok false
  loads secret token := if token = "'" ++ secret ++ "'" then .ok () else .error .badSignature
  formField _ _ := .ok none

def quotingSerializer : Serializer quoting where
  dumps secret := "'" ++ secret ++ "'"
  dumps_ne_empty secret := by
    rw [ne_eq, ← String.toList_inj]
    simp
  loads_dumps secret := by simp [quoting]

def environ (keys : String) : Env := ⟨none, some "admin", some "", some keys⟩

/-- A key in front of its predecessor, as after the first step of a rotation. -/
theorem signsWithHead_iff_rotating :
    (SignsWithHead quotingSerializer (environ "bmV3, b2xk") ["bmV3", "b2xk"] ↔
      ("bmV3, b2xk".toList.dropWhile isSpace).head? ≠ some ',') ∧
      csrfSecret (environ "bmV3, b2xk") = .ok "bmV3" :=
  ⟨signsWithHead_iff quotingSerializer (environ "bmV3, b2xk") "bmV3, b2xk" _ rfl (by decide),
    by decide⟩

/-- With a comma in front of the key the store opens and the signer raises. -/
theorem not_signsWithHead_leadingComma :
    parseKeysEnv (some ",b2xk") = .ok ["b2xk"] ∧
      csrfSecret (environ ",b2xk") = .error internalServerError ∧
      ¬ SignsWithHead quotingSerializer (environ ",b2xk") ["b2xk"] := by
  have hsecret : csrfSecret (environ ",b2xk") = .error internalServerError := by decide
  refine ⟨by decide, hsecret, fun h => ?_⟩
  obtain ⟨head, tail, -, hok⟩ := h.secret
  rw [hsecret] at hok
  cases hok

end Bluewave.HeadKey
