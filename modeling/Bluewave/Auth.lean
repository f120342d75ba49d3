import Mathlib.Data.List.Infix
import Mathlib.Data.List.TakeWhile

/-! Basic credentials and the CSRF token, as the two dependencies of the routes
check them. What bcrypt, itsdangerous and FastAPI's `HTTPBasic` answer is given. -/
namespace Bluewave.Auth

/-- The variables of `os.environ` that are read here and in `create_app`. -/
structure Env where
  logLevel : Option String
  webUser : Option String
  webPassHash : Option String
  configEncKeys : Option String

/-- An ASGI request: `scope["method"]`, `scope["path"]` (decoded), the headers under
their lower-case names, and the body. -/
structure Request where
  method : String
  path : String
  headers : List (String × String)
  body : String

/-- An answer that is not an endpoint's own: an `HTTPException` as FastAPI renders
it, or the middleware's plain response. -/
structure Failure where
  status : Nat
  detail : String
  headers : List (String × String)
  deriving DecidableEq

/-- Starlette's answer to any other exception. -/
def internalServerError : Failure := ⟨500, "Internal Server Error", []⟩

/-- `HTTPBasicCredentials`. -/
structure Credentials where
  username : String
  password : String

inductive CheckError where
  | valueError
  | typeError
  | other

inductive LoadsError where
  | badSignature
  | other

/-- What the libraries answer at the time of the request. -/
structure Libraries where
  /-- `HTTPBasic(realm="bluewave-worker")`, given the `Authorization` header -/
  httpBasic : Option String → Except Failure Credentials
  /-- `bcrypt.checkpw(password, hashed)` -/
  checkpw : String → String → Except CheckError Bool
  /-- `URLSafeTimedSerializer(secret, ...).loads(token, max_age=CSRF_MAX_AGE_S)` -/
  loads : String → String → Except LoadsError Unit
  /-- `(await request.form()).get(name)`; a file under that name, on which `loads`
  raises, counts as a failure -/
  formField : Request → String → Except Failure (Option String)

def csrfHeader : String := "X-CSRF-Token"
def csrfFormField : String := "csrf_token"

/-- `str.lower` and `str.upper` on ASCII letters. The strings they are compared with
here have no letter that is the image of another character. -/
def lower (s : String) : String := String.ofList (s.toList.map Char.toLower)
def upper (s : String) : String := String.ofList (s.toList.map Char.toUpper)

def isAscii (s : String) : Bool := s.toList.all fun c => c.toNat < 128

/-- `str.isspace` of one character. -/
def isSpace (c : Char) : Bool :=
  (9 ≤ c.toNat ∧ c.toNat ≤ 13) ∨ (28 ≤ c.toNat ∧ c.toNat ≤ 32) ∨
    (0x2000 ≤ c.toNat ∧ c.toNat ≤ 0x200a) ∨
    c.toNat ∈ [0x85, 0xa0, 0x1680, 0x2028, 0x2029, 0x202f, 0x205f, 0x3000]

def strip (s : String) : String :=
  String.ofList ((s.toList.dropWhile isSpace).reverse.dropWhile isSpace).reverse

/-- `headers.get(name)`: the first of that name. -/
def Request.header (req : Request) (name : String) : Option String :=
  (req.headers.find? fun h => h.1 = lower name).map Prod.snd

def invalidCredentials : Failure :=
  ⟨401, "invalid credentials", [("WWW-Authenticate", "Basic realm=\"bluewave-worker\"")]⟩

/-- `_check_credentials`. Neither the `encode` of the hash nor `compare_digest` stands
inside the `try`, and both raise on a character that is not ASCII. -/
def checkCredentials (L : Libraries) (env : Env) (creds : Credentials) : Except Failure String :=
  let expectedUser := env.webUser.getD ""
  let expectedHash := env.webPassHash.getD ""
  if ¬ isAscii expectedHash then .error internalServerError
  else if ¬ (isAscii creds.username ∧ isAscii expectedUser) then .error internalServerError
  else
    let userOk := creds.username = expectedUser
    match L.checkpw creds.password expectedHash with
    | .error .other => .error internalServerError
    | .error _ => .error invalidCredentials
    | .ok pwOk => if userOk ∧ pwOk then .ok creds.username else .error invalidCredentials

def requireBasicAuth (L : Libraries) (env : Env) (req : Request) : Except Failure String := do
  let creds ← L.httpBasic (req.header "Authorization")
  checkCredentials L env creds

/-- The key `_csrf_serializer` signs with; without one it raises `RuntimeError`. -/
def csrfSecret (env : Env) : Except Failure String :=
  let first := strip (String.ofList ((env.configEncKeys.getD "").toList.takeWhile (· ≠ ',')))
  if first = "" then .error internalServerError else .ok first

def verifyCsrfToken (L : Libraries) (env : Env) : Option String → Except Failure Unit
  | none => .error ⟨403, "missing CSRF token", []⟩
  | some token =>
    if token = "" then .error ⟨403, "missing CSRF token", []⟩
    else do
      let secret ← csrfSecret env
      match L.loads secret token with
      | .error .badSignature => .error ⟨403, "invalid CSRF token", []⟩
      | .error .other => .error internalServerError
      | .ok () => .ok ()

/-- The token `require_csrf` reads: the header's, or the form's when there is no such
header. -/
def csrfToken (L : Libraries) (req : Request) : Except Failure (Option String) :=
  match req.header csrfHeader with
  | some token => .ok (some token)
  | none =>
    if req.method ∈ ["POST", "PUT", "PATCH", "DELETE"] then
      let ct := (req.header "content-type").getD ""
      if "application/x-www-form-urlencoded".toList <:+: ct.toList ∨
          "multipart/form-data".toList <:+: ct.toList then
        L.formField req csrfFormField
      else .ok none
    else .ok none

def requireCsrf (L : Libraries) (env : Env) (req : Request) : Except Failure Unit := do
  let token ← csrfToken L req
  verifyCsrfToken L env token

/-- The request carries Basic credentials that match `WEB_USER` and `WEB_PASS_HASH`. -/
def Carries (L : Libraries) (env : Env) (req : Request) : Prop :=
  ∃ creds, L.httpBasic (req.header "Authorization") = .ok creds ∧
    creds.username = env.webUser.getD "" ∧
    L.checkpw creds.password (env.webPassHash.getD "") = .ok true

/-- The request carries a genuine token, in the header or in the form. -/
def CarriesCsrf (L : Libraries) (env : Env) (req : Request) : Prop :=
  ∃ token secret, csrfToken L req = .ok (some token) ∧ csrfSecret env = .ok secret ∧
    L.loads secret token = .ok ()

section
variable {L : Libraries} {env : Env} {req : Request}

theorem checkCredentials_ok {creds : Credentials} {user : String}
    (h : checkCredentials L env creds = .ok user) :
    creds.username = env.webUser.getD "" ∧
      L.checkpw creds.password (env.webPassHash.getD "") = .ok true ∧ user = creds.username := by
  unfold checkCredentials at h
  simp only at h
  split at h
  · cases h
  · split at h
    · cases h
    · split at h
      · cases h
      · cases h
      · rename_i pwOk hpw
        split at h
        · rename_i hok
          obtain ⟨huser, rfl⟩ := hok
          cases h
          exact ⟨huser, hpw, rfl⟩
        · cases h

theorem requireBasicAuth_ok {user : String} (h : requireBasicAuth L env req = .ok user) :
    Carries L env req := by
  unfold requireBasicAuth at h
  rcases hcreds : L.httpBasic (req.header "Authorization") with f | creds
  · rw [hcreds] at h; cases h
  · rw [hcreds] at h
    obtain ⟨huser, hpw, -⟩ := checkCredentials_ok h
    exact ⟨creds, hcreds, huser, hpw⟩

theorem verifyCsrfToken_ok {token : Option String} (h : verifyCsrfToken L env token = .ok ()) :
    ∃ t secret, token = some t ∧ csrfSecret env = .ok secret ∧ L.loads secret t = .ok () := by
  rcases token with - | t
  · cases h
  · unfold verifyCsrfToken at h
    simp only at h
    split at h
    · cases h
    · rcases hsecret : csrfSecret env with f | secret
      · rw [hsecret] at h; cases h
      · rw [hsecret] at h
        rcases hloads : L.loads secret t with e | u
        · simp only [bind, Except.bind, hloads] at h
          cases e <;> cases h
        · exact ⟨t, secret, rfl, rfl, hloads⟩

theorem requireCsrf_ok (h : requireCsrf L env req = .ok ()) : CarriesCsrf L env req := by
  unfold requireCsrf at h
  rcases htoken : csrfToken L req with f | token
  · rw [htoken] at h; cases h
  · rw [htoken] at h
    obtain ⟨t, secret, rfl, hsecret, hloads⟩ := verifyCsrfToken_ok h
    exact ⟨t, secret, htoken, hsecret, hloads⟩

end

/-! ## White space at the ends -/

/-- `s` is what is left of `text` without the white space at its ends. -/
structure Stripped (text s : String) : Prop where
  around : ∃ front back, text.toList = front ++ s.toList ++ back ∧
    (∀ c ∈ front, isSpace c = true) ∧ ∀ c ∈ back, isSpace c = true
  head : ∀ c ∈ s.toList.head?, isSpace c = false
  last : ∀ c ∈ s.toList.getLast?, isSpace c = false

theorem head?_dropWhile_isSpace {cs : List Char} :
    ∀ c ∈ (cs.dropWhile isSpace).head?, isSpace c = false := by
  intro c hc
  have h := List.head?_dropWhile_not isSpace cs
  rw [Option.mem_def.mp hc] at h
  exact h

theorem stripped_strip (text : String) : Stripped text (strip text) := by
  obtain ⟨rest, hrest⟩ : ∃ rest, text.toList.dropWhile isSpace = rest := ⟨_, rfl⟩
  obtain ⟨kept, hkept⟩ : ∃ kept, rest.reverse.dropWhile isSpace = kept := ⟨_, rfl⟩
  have htext : (strip text).toList = kept.reverse := by
    rw [strip, String.toList_ofList, hrest, hkept]
  have hfront : text.toList.takeWhile isSpace ++ rest = text.toList := by
    rw [← hrest, List.takeWhile_append_dropWhile]
  have hback : kept.reverse ++ (rest.reverse.takeWhile isSpace).reverse = rest := by
    rw [← hkept, ← List.reverse_append, List.takeWhile_append_dropWhile, List.reverse_reverse]
  refine ⟨⟨text.toList.takeWhile isSpace, (rest.reverse.takeWhile isSpace).reverse, ?_,
    fun c hc => List.mem_takeWhile_imp hc,
    fun c hc => List.mem_takeWhile_imp (List.mem_reverse.mp hc)⟩, ?_, ?_⟩
  · rw [htext, List.append_assoc, hback, hfront]
  · rw [htext]
    intro c hc
    refine @head?_dropWhile_isSpace text.toList c ?_
    rw [hrest, ← hback]
    obtain ⟨cs, hcs⟩ := List.head?_eq_some_iff.mp (Option.mem_def.mp hc)
    rw [hcs]
    rfl
  · rw [htext, List.getLast?_reverse, ← hkept]
    exact head?_dropWhile_isSpace

theorem dropWhile_isSpace {blanks cs : List Char} (hblanks : ∀ c ∈ blanks, isSpace c = true)
    (hhead : ∀ c ∈ cs.head?, isSpace c = false) : (blanks ++ cs).dropWhile isSpace = cs := by
  rw [List.dropWhile_append_of_pos hblanks]
  cases cs with
  | nil => rfl
  | cons c cs => exact List.dropWhile_cons_of_neg (by simp [hhead c rfl])

theorem stripped_iff {text s : String} : Stripped text s ↔ s = strip text := by
  refine ⟨fun h => ?_, fun h => h ▸ stripped_strip text⟩
  obtain ⟨⟨front, back, htext, hfront, hback⟩, hhead, hlast⟩ := h
  rw [← String.toList_inj, strip, String.toList_ofList, htext]
  rcases hs : s.toList with _ | ⟨c, cs⟩
  · have hnil : (front ++ [] ++ back).dropWhile isSpace = [] :=
      List.dropWhile_eq_nil_iff.mpr fun c hc => by
        rcases List.mem_append.mp hc with hc | hc
        · exact hfront c (by simpa using hc)
        · exact hback c hc
    rw [hnil]
    rfl
  · rw [hs] at hhead hlast
    have hfirst : (front ++ (c :: cs) ++ back).dropWhile isSpace = c :: cs ++ back := by
      rw [List.append_assoc]
      exact dropWhile_isSpace hfront hhead
    have hlast' : (back.reverse ++ (c :: cs).reverse).dropWhile isSpace = (c :: cs).reverse :=
      dropWhile_isSpace (fun d hd => hback d (List.mem_reverse.mp hd))
        (by rwa [List.head?_reverse])
    rw [hfirst, List.reverse_append, hlast', List.reverse_reverse]

theorem strip_eq_empty {s : String} : strip s = "" ↔ ∀ c ∈ s.toList, isSpace c = true := by
  rw [eq_comm, ← stripped_iff]
  constructor
  · rintro ⟨⟨front, back, htext, hfront, hback⟩, -⟩ c hc
    rw [htext] at hc
    rcases List.mem_append.mp hc with hc | hc
    · exact hfront c (by simpa using hc)
    · exact hback c hc
  · exact fun h => ⟨⟨s.toList, [], by simp, h, by simp⟩, by simp, by simp⟩

theorem strip_strip (s : String) : strip (strip s) = strip s := by
  have h := stripped_strip s
  exact (stripped_iff.mp ⟨⟨[], [], by simp, by simp, by simp⟩, h.head, h.last⟩).symm

end Bluewave.Auth
