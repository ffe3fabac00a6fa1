import AiriesUps.Lib.Interleaving
import AiriesUps.Api.BrowserSession
import AiriesUps.Api.Password
import AiriesUps.Api.Setup

set_option autoImplicit false

namespace AiriesUps.Api

open Interleaving (Program)
open Interleaving.Program (query)

-- A row of events; its category is "auth".
structure AuthEvent where
  timestamp : List Char
  severity : String
  title : String
  message : String
deriving DecidableEq, Repr

-- The statements of auth.c and auth_routes.c, and time(NULL).
inductive AuthStatement where
  | time
  | selectAuthId
  | selectPasswordHash
  | upsertPasswordHash (hashed : String)
  | insertEvent (event : AuthEvent)
  | insertSession (token : String) (expiresAt : List Char)
  | selectKind (token : String)
  | slideSession (token : String) (expiresAt : List Char)
  | touchSession (token : String)
  | deleteSession (token : String)
  | deleteExpired
deriving DecidableEq, Repr

-- rows of one column; failed is a result other than 0.
inductive DbReply where
  | clock (now : Int)
  | failed
  | executed
  | rows (column : List String)
deriving DecidableEq, Repr

structure AuthStore where
  db : AuthDb
  events : List AuthEvent

-- Whether a statement succeeds, and how long after the one before it comes.
structure AuthInput where
  succeeds : Bool
  seconds : Nat
deriving DecidableEq, Repr

def AuthStore.pass (store : AuthStore) (seconds : Nat) : AuthStore :=
  { store with db := { store.db with clock := store.db.clock + seconds } }

def AuthStore.setRow (store : AuthStore) (token : String) (row : Option SessionRow) : AuthStore :=
  { store with db := { store.db with sessions := Function.update store.db.sessions token row } }

@[simp] theorem set_row_sessions (store : AuthStore) (token : String) (row : Option SessionRow) :
    (store.setRow token row).db.sessions = Function.update store.db.sessions token row := rfl

def AuthDb.valid (db : AuthDb) (token : String) : Option SessionRow :=
  (db.sessions token).filter fun row => decide (datetimeNow db.clock < row.expiresAt) && row.revokedAt.isNone

-- The statement on the tables as they are. last_used_at is no column of the model.
def AuthStore.execute (store : AuthStore) : AuthStatement → DbReply × AuthStore
  | .time => (.clock store.db.clock, store)
  | .selectAuthId => (.rows (store.db.passwordHash.map fun _ => "1").toList, store)
  | .selectPasswordHash => (.rows store.db.passwordHash.toList, store)
  | .upsertPasswordHash hashed => (.executed, { store with db := { store.db with passwordHash := some hashed } })
  | .insertEvent event => (.executed, { store with events := store.events ++ [event] })
  | .insertSession token expiresAt =>
    if (store.db.sessions token).isSome then (.failed, store)
    else (.executed, store.setRow token (some { kind := "session", expiresAt := expiresAt, revokedAt := none }))
  | .selectKind token => (.rows ((store.db.valid token).map SessionRow.kind).toList, store)
  | .slideSession token expiresAt =>
    (.executed, store.setRow token ((store.db.sessions token).map fun row => { row with expiresAt := expiresAt }))
  | .touchSession _ => (.executed, store)
  | .deleteSession token => (.executed, store.setRow token none)
  | .deleteExpired => (.executed, { store with db := authCleanupSessions store.db })

def serveAuth (statement : AuthStatement) (input : AuthInput) (store : AuthStore) : DbReply × AuthStore :=
  if input.succeeds ∨ statement = .time then (store.pass input.seconds).execute statement
  else (.failed, store.pass input.seconds)

abbrev AuthProgram := Program AuthStatement DbReply

def DbReply.now : DbReply → Int
  | .clock now => now
  | _ => 0

def DbReply.ok : DbReply → Bool
  | .failed => false
  | _ => true

-- rows[0][0] where there is a row.
def DbReply.first : DbReply → Option String
  | .rows (value :: _) => some value
  | _ => none

-- What RAND_bytes gives a request: the salt of an upgrade, of a new hash, and the token.
structure Drawn where
  upgradeSalt : Vector PackedBits.Byte saltBytes
  salt : Vector PackedBits.Byte saltBytes
  token : Vector PackedBits.Byte 32
deriving DecidableEq

namespace Auth

-- auth_is_setup
def isSetup : AuthProgram Bool := do
  let reply ← query .selectAuthId
  match reply with
  | .rows column => return !column.isEmpty
  | _ => return true

-- auth_set_password
def setPassword (crypto : Crypto) (salt : Vector PackedBits.Byte saltBytes) (password : String) : AuthProgram Bool :=
  if password.utf8ByteSize < authMinPasswordLen then return false
  else do
    let reply ← query (.upsertPasswordHash (hashPassword crypto salt password))
    return reply.ok

-- auth_verify_password
def verify (crypto : Crypto) (drawn : Drawn) (password : String) : AuthProgram Bool := do
  let reply ← query .selectPasswordHash
  match reply.first with
  | none => return false
  | some stored =>
    if verifyPassword crypto password stored && isLegacy stored then
      let _ ← setPassword crypto drawn.upgradeSalt password
      return true
    else return verifyPassword crypto password stored

-- auth_create_token
def createToken (drawn : Drawn) (expireHours : Int) : AuthProgram (Option String) := do
  let now ← query .time
  let reply ← query (.insertSession (tokenText drawn.token) (strftime (now.now + expireHours * 3600)))
  return if reply.ok then some (tokenText drawn.token) else none

-- auth_validate_token
def validateToken (token : Option String) : AuthProgram Bool :=
  match presentedToken token with
  | none => return false
  | some tok => do
    let reply ← query (.selectKind tok)
    match reply.first with
    | none => return false
    | some kind =>
      if kind = "session" then
        let now ← query .time
        let _ ← query (.slideSession tok (strftime (now.now + authSessionTtlHours * 3600)))
        return true
      else
        let _ ← query (.touchSession tok)
        return true

-- auth_revoke_token
def revokeToken (token : Option String) : AuthProgram Unit :=
  match presentedToken token with
  | none => return ()
  | some tok => do
    let _ ← query (.deleteSession tok)
    return ()

-- auth_check
def check (request : Request) : AuthProgram Bool :=
  if request.isLocal then return true
  else if request.url ∈ publicEndpoints then return true
  else do
    let setUp ← isSetup
    if setUp then validateToken (requestToken request) else return true

-- auth_event
def event (severity title message : String) : AuthProgram Unit := do
  let now ← query .time
  let _ ← query (.insertEvent ⟨strftime now.now, severity, title, message⟩)
  return ()

end Auth

-- The body of a request to /api/auth/change, as far as it can be read.
inductive ChangeBody where
  | absent
  | invalid
  | fields (oldPassword newPassword : Option String)
deriving DecidableEq, Repr

-- The answer in JSON: result or error, and the token of a login.
structure AuthAnswer where
  status : Nat
  text : String
  token : Option String
  setCookie : Option (List Char)
deriving DecidableEq, Repr

def AuthAnswer.plain (status : Nat) (text : String) : AuthAnswer :=
  { status := status, text := text, token := none, setCookie := none }

def AuthAnswer.loggedIn (token : String) (cookieSecure : Bool) : AuthAnswer :=
  { status := 200, text := "", token := some token
    setCookie := apiCookieSet (some authCookie) (some token.toList) (authSessionTtlHours * 3600) cookieSecure }

def AuthAnswer.loggedOut (cookieSecure : Bool) : AuthAnswer :=
  { status := 200, text := "logged out", token := none, setCookie := apiCookieClear (some authCookie) cookieSecure }

-- The body of a login is read like that of the setup.
def loginPassword : SetupBody → Except (Nat × String) String
  | .absent => .error (400, "request body required")
  | .invalid => .error (400, "invalid JSON")
  | .fields none => .error (400, "missing 'password'")
  | .fields (some password) => .ok password

def changePasswords : ChangeBody → Except (Nat × String) (String × String)
  | .absent => .error (400, "request body required")
  | .invalid => .error (400, "invalid JSON")
  | .fields (some oldPassword) (some newPassword) =>
    if newPassword.utf8ByteSize < 4 then .error (400, "new password must be at least 4 characters")
    else .ok (oldPassword, newPassword)
  | .fields _ _ => .error (400, "missing 'old_password' and 'new_password'")

-- The handlers that reach the tables of auth.c, and any other.
inductive AuthHandler where
  | setup (body : SetupBody)
  | login (body : SetupBody)
  | change (body : ChangeBody)
  | logout
  | other
deriving DecidableEq, Repr

def AuthHandler.pattern : AuthHandler → Option String
  | .setup _ => some "/api/auth/setup"
  | .login _ => some "/api/auth/login"
  | .change _ => some "/api/auth/change"
  | .logout => some "/api/auth/logout"
  | .other => none

-- A request with the route it finds. authFn says whether api_server_set_auth has been
-- called when request_handler looks at it, and failure is what cutils_get_error says.
structure AuthRequest where
  request : Request
  authFn : Bool
  handler : AuthHandler
  routed : ∀ url ∈ handler.pattern, request.url = url
  drawn : Drawn
  cookieSecure : Bool
  failure : String
deriving DecidableEq

namespace Auth

def handleSetup (crypto : Crypto) (call : AuthRequest) (body : SetupBody) : AuthProgram AuthAnswer := do
  let setUp ← isSetup
  if setUp then return .plain 400 "admin password already set"
  else
    match setupPassword body with
    | .error (status, text) => return .plain status text
    | .ok password =>
      let written ← setPassword crypto call.drawn.salt password
      if written then
        event "info" "Password Set" "Admin password configured during initial setup"
        return .plain 200 "password set"
      else return .plain 500 call.failure

def handleLogin (crypto : Crypto) (call : AuthRequest) (body : SetupBody) : AuthProgram AuthAnswer :=
  match loginPassword body with
  | .error (status, text) => return .plain status text
  | .ok password => do
    let valid ← verify crypto call.drawn password
    if valid then
      event "info" "Login" "Admin login successful"
      let token ← createToken call.drawn authSessionTtlHours
      match token with
      | none => return .plain 500 "failed to create session"
      | some token => return .loggedIn token call.cookieSecure
    else
      event "warning" "Login Failed" "Invalid password attempt"
      return .plain 401 "invalid password"

def handleChange (crypto : Crypto) (call : AuthRequest) (body : ChangeBody) : AuthProgram AuthAnswer :=
  match changePasswords body with
  | .error (status, text) => return .plain status text
  | .ok (oldPassword, newPassword) => do
    let valid ← verify crypto call.drawn oldPassword
    if valid then
      let written ← setPassword crypto call.drawn.salt newPassword
      if written then
        event "info" "Password Changed" "Admin password updated"
        return .plain 200 "password changed"
      else return .plain 500 "failed to update password"
    else return .plain 401 "current password is incorrect"

def handleLogout (call : AuthRequest) : AuthProgram AuthAnswer := do
  revokeToken (requestToken call.request)
  event "info" "Logout" "Admin session ended"
  return .loggedOut call.cookieSecure

-- What request_handler asks before the handler.
def callback (call : AuthRequest) : AuthProgram Bool := if call.authFn then check call.request else return true

-- Of other handlers only that they run.
def handle (crypto : Crypto) (call : AuthRequest) : AuthProgram AuthAnswer :=
  match call.handler with
  | .setup body => handleSetup crypto call body
  | .login body => handleLogin crypto call body
  | .change body => handleChange crypto call body
  | .logout => handleLogout call
  | .other => return .plain 200 ""

end Auth

inductive AuthOutcome where
  | unauthorized
  | handled (answer : AuthAnswer)
  | cleaned
deriving DecidableEq, Repr

inductive AuthCall where
  | http (call : AuthRequest)
  | cleanup
deriving DecidableEq

-- request_handler with the handler behind it; auth_cleanup_sessions.
def AuthCall.body (crypto : Crypto) : AuthCall → AuthProgram AuthOutcome
  | .http call => do
    let allowed ← Auth.callback call
    if allowed then
      let answer ← Auth.handle crypto call
      return .handled answer
    else return .unauthorized
  | .cleanup => do
    let _ ← query .deleteExpired
    return .cleaned

abbrev AuthState := Interleaving.State AuthCall AuthStatement DbReply AuthOutcome AuthStore

abbrev AuthLabel := Interleaving.Label AuthCall AuthInput

def authStep (crypto : Crypto) : Runs.Step AuthState AuthLabel := Interleaving.step (AuthCall.body crypto) serveAuth

-- A request alone, whose statements succeed at once, does what the functions do whole.
def promptly : AuthInput := { succeeds := true, seconds := 0 }

def AuthStore.withDb (store : AuthStore) (db : AuthDb) : AuthStore := { store with db := db }

theorem served_promptly (statement : AuthStatement) (store : AuthStore) : serveAuth statement promptly store = store.execute statement := by
  have still : store.pass promptly.seconds = store := by simp [AuthStore.pass, promptly]
  have runs : promptly.succeeds = true ∨ statement = .time := Or.inl rfl
  rw [serveAuth, if_pos runs, still]

namespace Auth

open Interleaving.Program (query_bind alone_bind)

theorem is_setup_alone (store : AuthStore) : isSetup.alone serveAuth promptly store = (authIsSetup store.db true, store) := by
  rw [isSetup, query_bind, Program.alone, served_promptly, AuthStore.execute, authIsSetup, setupAnswer]
  cases store.db.passwordHash <;> rfl

theorem set_password_alone (crypto : Crypto) (salt : Vector PackedBits.Byte saltBytes) (password : String) (store : AuthStore) :
    (setPassword crypto salt password).alone serveAuth promptly store =
      ((authSetPassword store.db password (hashPassword crypto salt password) true).1,
        store.withDb (authSetPassword store.db password (hashPassword crypto salt password) true).2) := by
  rw [setPassword, authSetPassword]
  split
  · rfl
  · rw [query_bind, Program.alone, served_promptly]
    rfl

theorem verify_alone (crypto : Crypto) (drawn : Drawn) (password : String) (store : AuthStore) :
    (verify crypto drawn password).alone serveAuth promptly store =
      ((authVerifyPassword crypto store.db password drawn.upgradeSalt true true).1,
        store.withDb (authVerifyPassword crypto store.db password drawn.upgradeSalt true true).2) := by
  rw [verify, query_bind, Program.alone, served_promptly, AuthStore.execute, authVerifyPassword]
  cases store.db.passwordHash with
  | none => rfl
  | some stored =>
    rw [Option.filter_some, if_pos rfl]
    dsimp only [Option.toList, DbReply.first]
    split
    · rename_i upgrade
      rw [alone_bind, set_password_alone]
      exact Prod.ext (Bool.and_eq_true_iff.mp upgrade).1.symm rfl
    · rfl

theorem create_token_alone (drawn : Drawn) (expireHours : Int) (store : AuthStore) :
    (createToken drawn expireHours).alone serveAuth promptly store =
      match authCreateToken store.db (tokenText drawn.token) expireHours with
      | some db => (some (tokenText drawn.token), store.withDb db)
      | none => (none, store) := by
  rw [createToken, query_bind, Program.alone, served_promptly, AuthStore.execute]
  dsimp only
  rw [query_bind, Program.alone, served_promptly, AuthStore.execute, authCreateToken, AuthDb.insert]
  split <;> rfl

theorem validate_alone (token : Option String) (store : AuthStore) :
    (validateToken token).alone serveAuth promptly store =
      ((authValidateToken store.db token true true).1, store.withDb (authValidateToken store.db token true true).2) := by
  rw [validateToken, authValidateToken]
  cases presentedToken token with
  | none => rfl
  | some tok =>
    dsimp only
    rw [query_bind, Program.alone, served_promptly, AuthStore.execute]
    dsimp only
    simp only [Bool.true_and]
    rw [AuthDb.valid]
    cases found : (store.db.sessions tok).filter fun row =>
        decide (datetimeNow store.db.clock < row.expiresAt) && row.revokedAt.isNone with
    | none => rfl
    | some row =>
      dsimp only [Option.map, Option.toList, DbReply.first]
      by_cases session : row.kind = "session"
      · rw [if_pos session, if_pos ⟨session, trivial⟩, query_bind, Program.alone, served_promptly, AuthStore.execute]
        dsimp only
        rw [query_bind, Program.alone, served_promptly, AuthStore.execute]
        dsimp only
        rw [(Option.filter_eq_some_iff.mp found).1]
        rfl
      · rw [if_neg session, if_neg fun both => session both.1, query_bind, Program.alone, served_promptly]
        rfl

theorem revoke_alone (token : Option String) (store : AuthStore) :
    ((revokeToken token).alone serveAuth promptly store).2 = store.withDb (authRevokeToken store.db token) := by
  rw [revokeToken, authRevokeToken]
  cases presentedToken token with
  | none => rfl
  | some tok =>
    dsimp only
    rw [query_bind, Program.alone, served_promptly]
    rfl

theorem check_alone (request : Request) (store : AuthStore) :
    (check request).alone serveAuth promptly store =
      ((authCheck store.db request ⟨true, true, true⟩).allowed,
        store.withDb (authCheck store.db request ⟨true, true, true⟩).db) := by
  rw [check, authCheck]
  split
  · rfl
  · split
    · rfl
    · rw [alone_bind, is_setup_alone]
      dsimp only
      cases authIsSetup store.db true with
      | false => rfl
      | true => exact validate_alone (requestToken request) store

end Auth

end AiriesUps.Api
