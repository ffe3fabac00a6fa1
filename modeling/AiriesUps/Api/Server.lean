import AiriesUps.Api.Auth
import AiriesUps.Lib.Runs

set_option autoImplicit false

namespace AiriesUps.Api

inductive ApiMethod where
  | get
  | post
  | put
  | delete
deriving DecidableEq, Repr

inductive RouteKind where
  | buffered
  | streaming
deriving DecidableEq, Repr

-- route_entry_t; handler is the name of the function.
structure RouteEntry where
  pattern : String
  method : ApiMethod
  kind : RouteKind
  handler : String
deriving DecidableEq, Repr

def maxRoutes : Nat := 64

-- struct api_server with the tables its auth callback reads. authFn is NULL or
-- auth_check.
structure ApiServer where
  routes : List RouteEntry
  authFn : Bool
  db : AuthDb

-- api_server_create: the daemons serve from here on.
def ApiServer.create (db : AuthDb) : ApiServer := { routes := [], authFn := false, db := db }

-- api_request_t, its headers as they are looked up. isLocal is false for TCP.
structure Request where
  isLocal : Bool
  method : String
  url : String
  authorization : Option String
  cookie : Option String
deriving DecidableEq, Repr

-- Which of the statements a request makes succeed.
structure DbAnswers where
  setup : Bool
  selects : Bool
  updates : Bool
deriving DecidableEq, Repr

-- The questions auth_check asks the database and the answers: whether a password is
-- set, or none for an error, and whether the token validated.
inductive AuthQuery where
  | setup (answer : Option Bool)
  | validate (token : Option String) (valid : Bool)
deriving DecidableEq, Repr

def publicEndpoints : List String :=
  ["/api/auth/setup", "/api/auth/login", "/api/setup/status", "/api/setup/ports", "/api/setup/test"]

-- The Authorization header when it is not empty, otherwise the cookie.
def requestToken (request : Request) : Option String :=
  match request.authorization with
  | some token => if token = "" then request.cookie else some token
  | none => request.cookie

structure AuthResult where
  allowed : Bool
  db : AuthDb
  queries : List AuthQuery

def authCheck (db : AuthDb) (request : Request) (answers : DbAnswers) : AuthResult :=
  if request.isLocal then { allowed := true, db := db, queries := [] }
  else if request.url ∈ publicEndpoints then { allowed := true, db := db, queries := [] }
  else if !authIsSetup db answers.setup then
    { allowed := true, db := db, queries := [.setup (setupAnswer db answers.setup)] }
  else
    let validated := authValidateToken db (requestToken request) answers.selects answers.updates
    { allowed := validated.1, db := validated.2
      queries := [.setup (setupAnswer db answers.setup), .validate (requestToken request) validated.1] }

def methodFromString (method : String) : ApiMethod :=
  if method = "GET" then .get
  else if method = "POST" then .post
  else if method = "PUT" then .put
  else if method = "DELETE" then .delete
  else .get

-- A pattern that ends in '*' matches by its prefix.
def patternMatches (pattern url : String) : Bool :=
  if pattern.toList.getLast? = some '*' then pattern.toList.dropLast.isPrefixOf url.toList else pattern = url

def findRoute (server : ApiServer) (url : String) (method : ApiMethod) : Option RouteEntry :=
  server.routes.find? fun route => route.method = method && patternMatches route.pattern url

-- api_server_route and api_server_route_streaming; the pattern is cut to its buffer.
def apiServerRoute (server : ApiServer) (kind : RouteKind) (pattern : String) (method : ApiMethod) (handler : String) :
    ApiServer :=
  if server.routes.length ≥ maxRoutes then server
  else
    { server with
      routes := server.routes ++ [⟨String.ofList (pattern.toList.take 127), method, kind, handler⟩] }

-- unrouted goes on to the static files and the 404.
inductive Handled where
  | preflight
  | unauthorized
  | ran (route : RouteEntry)
  | unrouted
deriving DecidableEq, Repr

structure HandlerResult where
  server : ApiServer
  handled : Handled
  queries : List AuthQuery

def requestHandler (server : ApiServer) (request : Request) (answers : DbAnswers) : HandlerResult :=
  if request.method = "OPTIONS" then { server := server, handled := .preflight, queries := [] }
  else match findRoute server request.url (methodFromString request.method) with
    | none => { server := server, handled := .unrouted, queries := [] }
    | some route =>
      if server.authFn then
        let checked := authCheck server.db request answers
        { server := { server with db := checked.db }
          handled := if checked.allowed then .ran route else .unauthorized
          queries := checked.queries }
      else { server := server, handled := .ran route, queries := [] }

-- store is what handlers and other threads do to the tables.
inductive ServerLabel where
  | route (kind : RouteKind) (pattern : String) (method : ApiMethod) (handler : String)
  | setAuth
  | request (request : Request) (answers : DbAnswers)
  | store (db : AuthDb)

def ApiServer.step : Runs.Step ApiServer ServerLabel
  | server, .route kind pattern method handler => some (apiServerRoute server kind pattern method handler)
  | server, .setAuth => some { server with authFn := true }
  | server, .request request answers => some (requestHandler server request answers).server
  | server, .store db => some { server with db := db }

-- A handler behind a URL that is not public runs only on what the database answered.
structure AccessGranted (server : ApiServer) (request : Request) (answers : DbAnswers) : Prop where
  granted : AuthQuery.setup (some false) ∈ (requestHandler server request answers).queries ∨
    AuthQuery.validate (requestToken request) true ∈ (requestHandler server request answers).queries
  answered : answers.setup = true ∨ answers.selects = true

def AccessGated (_ : List ServerLabel) (server : ApiServer) (label : ServerLabel) (_ : ApiServer) : Prop :=
  ∀ request answers route, label = .request request answers → request.isLocal = false → request.url ∉ publicEndpoints →
    (requestHandler server request answers).handled = .ran route → AccessGranted server request answers

-- The callback is installed by the time a request reaches such a handler.
def AuthInstalled (server : ApiServer) (label : ServerLabel) : Prop :=
  ∀ request answers, label = .request request answers → request.isLocal = false → request.url ∉ publicEndpoints →
    request.method ≠ "OPTIONS" → (findRoute server request.url (methodFromString request.method)).isSome = true →
    server.authFn = true

theorem set_up_answer (db : AuthDb) (succeeds : Bool) (affirmed : authIsSetup db succeeds = false) :
    setupAnswer db succeeds = some false ∧ succeeds = true := by
  rw [authIsSetup] at affirmed
  rw [setupAnswer] at affirmed ⊢
  cases succeeds with
  | false => cases affirmed
  | true => exact ⟨congrArg some affirmed, rfl⟩

theorem validated_selects (db : AuthDb) (token : Option String) (selects updates : Bool)
    (valid : (authValidateToken db token selects updates).1 = true) : selects = true := by
  cases selects with
  | true => rfl
  | false =>
    rw [authValidateToken] at valid
    split at valid
    · cases valid
    · rename_i tok _
      have unanswered : ((db.sessions tok).filter fun row =>
          false && decide (datetimeNow db.clock < row.expiresAt) && row.revokedAt.isNone) = none := by
        cases db.sessions tok <;> rfl
      rw [unanswered] at valid
      cases valid

theorem checked_access (db : AuthDb) (request : Request) (answers : DbAnswers) (tcp : request.isLocal = false)
    (guarded : request.url ∉ publicEndpoints) (allowed : (authCheck db request answers).allowed = true) :
    (AuthQuery.setup (some false) ∈ (authCheck db request answers).queries ∨
        AuthQuery.validate (requestToken request) true ∈ (authCheck db request answers).queries) ∧
      (answers.setup = true ∨ answers.selects = true) := by
  rw [authCheck, tcp, if_neg Bool.false_ne_true, if_neg guarded] at allowed ⊢
  cases setup : authIsSetup db answers.setup with
  | false =>
    obtain ⟨answer, succeeds⟩ := set_up_answer db answers.setup setup
    simp only [Bool.not_false, if_true, answer]
    exact ⟨Or.inl (List.mem_singleton_self _), Or.inl succeeds⟩
  | true =>
    simp only [setup, Bool.not_true, Bool.false_eq_true, if_false] at allowed ⊢
    have selects := validated_selects db (requestToken request) answers.selects answers.updates allowed
    rw [allowed]
    exact ⟨Or.inr (List.mem_cons_of_mem _ (List.mem_singleton_self _)), Or.inr selects⟩

theorem gated_iff (server : ApiServer) (request : Request) (answers : DbAnswers) (tcp : request.isLocal = false)
    (guarded : request.url ∉ publicEndpoints) :
    (∀ route, (requestHandler server request answers).handled = .ran route → AccessGranted server request answers) ↔
      (request.method ≠ "OPTIONS" → (findRoute server request.url (methodFromString request.method)).isSome = true →
        server.authFn = true) := by
  by_cases preflight : request.method = "OPTIONS"
  · refine iff_of_true (fun route ran => ?_) (fun different => absurd preflight different)
    rw [requestHandler, if_pos preflight] at ran
    cases ran
  cases found : findRoute server request.url (methodFromString request.method) with
  | none =>
    refine iff_of_true (fun route ran => ?_) (fun _ wrong => by cases wrong)
    rw [requestHandler, if_neg preflight, found] at ran
    cases ran
  | some entry =>
    cases installed : server.authFn with
    | false =>
      have handled : requestHandler server request answers = ⟨server, .ran entry, []⟩ := by
        rw [requestHandler, if_neg preflight, found, installed]
        rfl
      refine iff_of_false (fun gated => ?_) (fun needed => by cases needed preflight rfl)
      have granted := (gated entry (by rw [handled])).granted
      rw [handled] at granted
      rcases granted with asked | asked <;> cases asked
    | true =>
      refine iff_of_true (fun route ran => ?_) (fun _ _ => rfl)
      have handled : requestHandler server request answers =
          { server := { server with db := (authCheck server.db request answers).db }
            handled := if (authCheck server.db request answers).allowed then .ran entry else .unauthorized
            queries := (authCheck server.db request answers).queries } := by
        rw [requestHandler, if_neg preflight, found, installed]
        rfl
      rw [handled] at ran
      cases allowed : (authCheck server.db request answers).allowed with
      | false =>
        rw [allowed] at ran
        cases ran
      | true =>
        obtain ⟨granted, answered⟩ := checked_access server.db request answers tcp guarded allowed
        refine ⟨?_, answered⟩
        rw [handled]
        exact granted

theorem access_gated_iff (db : AuthDb) (labels : List ServerLabel) :
    Runs.EachStep ApiServer.step (.create db) labels AccessGated ↔
      Runs.EachStep ApiServer.step (.create db) labels fun _ server label _ => AuthInstalled server label := by
  refine Runs.each_step_congr ApiServer.step _ (fun _ _ => True) trivial (fun _ _ _ _ _ _ => trivial) _ _
    (fun past server label next _ _ => ?_) labels
  constructor
  · intro gated request answers requested tcp guarded
    exact (gated_iff server request answers tcp guarded).mp fun route => gated request answers route requested tcp guarded
  · intro installed request answers route requested tcp guarded
    exact (gated_iff server request answers tcp guarded).mpr (installed request answers requested tcp guarded) route

def configured : AuthDb :=
  { clock := 1735689600, passwordHash := some "$pbkdf2$100000$00$00", sessions := fun _ => none }

-- A request between api_register_routes and api_server_set_auth.
def earlyRequest : List ServerLabel :=
  [.route .buffered "/api/cmd" .post "handle_cmd",
    .request { isLocal := false, method := "POST", url := "/api/cmd", authorization := none, cookie := none }
      { setup := true, selects := true, updates := true },
    .setAuth]

theorem early_request_unchecked : ¬Runs.EachStep ApiServer.step (.create configured) earlyRequest AccessGated := by
  intro gated
  have asked := Runs.each_step_final _ _ _ _ gated (earlyRequest.take 1) _ [.setAuth] rfl (by decide +kernel)
    _ _ ⟨"/api/cmd", .post, .buffered, "handle_cmd"⟩ rfl rfl (by decide +kernel) (by decide +kernel)
  exact absurd asked.granted (by decide +kernel)

end AiriesUps.Api
