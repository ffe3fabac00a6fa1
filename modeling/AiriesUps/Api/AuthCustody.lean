import AiriesUps.Api.AuthRoutes

set_option autoImplicit false

namespace AiriesUps.Api

open Interleaving (Program Entry own)
open Interleaving.Program (Asks asks_ask asks_answer asks_bind asks_imp follows_answer query_bind)

namespace Auth

-- What the queries of one request show: that no password was set, or that a password is
-- the stored one.
def SawUnset (pairs : List (AuthStatement × DbReply)) : Prop := (AuthStatement.selectAuthId, DbReply.rows []) ∈ pairs

def Proved (crypto : Crypto) (password : String) (pairs : List (AuthStatement × DbReply)) : Prop :=
  ∃ reply stored, (AuthStatement.selectPasswordHash, reply) ∈ pairs ∧ reply.first = some stored ∧
    verifyPassword crypto password stored = true

-- A hash is only written by who saw that none is there or gave the password in force,
-- and a session is only opened by a login that gave it.
structure Earned (crypto : Crypto) (call : AuthRequest) (pairs : List (AuthStatement × DbReply)) (statement : AuthStatement) :
    Prop where
  hash : ∀ hashed, statement = .upsertPasswordHash hashed →
    (∃ body password, call.handler = .setup body ∧ setupPassword body = .ok password ∧ SawUnset pairs ∧
        hashed = hashPassword crypto call.drawn.salt password) ∨
      (∃ body password, call.handler = .login body ∧ loginPassword body = .ok password ∧ Proved crypto password pairs ∧
        hashed = hashPassword crypto call.drawn.upgradeSalt password) ∨
      ∃ body passwords, call.handler = .change body ∧ changePasswords body = .ok passwords ∧
        Proved crypto passwords.1 pairs ∧
        (hashed = hashPassword crypto call.drawn.upgradeSalt passwords.1 ∨
          hashed = hashPassword crypto call.drawn.salt passwords.2)
  session : ∀ token expiresAt, statement = .insertSession token expiresAt →
    ∃ body password, call.handler = .login body ∧ loginPassword body = .ok password ∧ Proved crypto password pairs ∧
      token = tokenText call.drawn.token

def neutral : AuthStatement → Bool
  | .upsertPasswordHash _ => false
  | .insertSession _ _ => false
  | _ => true

def AsksNeutral {Answer : Type} (program : AuthProgram Answer) : Prop := Asks (fun _ statement => neutral statement = true) program

theorem earned_neutral (crypto : Crypto) (call : AuthRequest) (pairs : List (AuthStatement × DbReply)) (statement : AuthStatement)
    (quiet : neutral statement = true) : Earned crypto call pairs statement := by
  constructor
  · rintro hashed rfl
    cases quiet
  · rintro token expiresAt rfl
    cases quiet

theorem is_setup_neutral : AsksNeutral isSetup := by
  rw [AsksNeutral, isSetup, query_bind]
  refine asks_ask _ _ _ rfl fun reply => ?_
  cases reply <;> exact asks_answer _ _

theorem is_setup_false (pairs : List (AuthStatement × DbReply)) (follows : Program.Follows isSetup pairs (.answer false)) :
    SawUnset pairs := by
  rw [isSetup, query_bind] at follows
  cases follows with
  | asked _ _ reply rest _ later =>
    cases reply with
    | rows column =>
      obtain ⟨_, same⟩ := follows_answer _ _ _ later
      cases column with
      | nil => exact List.mem_cons_self
      | cons value others => cases same
    | clock now => cases (follows_answer _ _ _ later).2
    | failed => cases (follows_answer _ _ _ later).2
    | executed => cases (follows_answer _ _ _ later).2

theorem event_neutral (severity title message : String) : AsksNeutral (event severity title message) := by
  rw [AsksNeutral, event, query_bind]
  refine asks_ask _ _ _ rfl fun now => ?_
  rw [query_bind]
  exact asks_ask _ _ _ rfl fun _ => asks_answer _ _

theorem validate_neutral (token : Option String) : AsksNeutral (validateToken token) := by
  rw [AsksNeutral, validateToken]
  cases presentedToken token with
  | none => exact asks_answer _ _
  | some tok =>
    dsimp only
    rw [query_bind]
    refine asks_ask _ _ _ rfl fun reply => ?_
    cases reply.first with
    | none => exact asks_answer _ _
    | some kind =>
      dsimp only
      split
      · rw [query_bind]
        refine asks_ask _ _ _ rfl fun now => ?_
        rw [query_bind]
        exact asks_ask _ _ _ rfl fun _ => asks_answer _ _
      · rw [query_bind]
        exact asks_ask _ _ _ rfl fun _ => asks_answer _ _

theorem revoke_neutral (token : Option String) : AsksNeutral (revokeToken token) := by
  rw [AsksNeutral, revokeToken]
  cases presentedToken token with
  | none => exact asks_answer _ _
  | some tok => exact asks_ask _ _ _ rfl fun _ => asks_answer _ _

theorem check_neutral (request : Request) : AsksNeutral (check request) := by
  rw [AsksNeutral, check]
  split
  · exact asks_answer _ _
  · split
    · exact asks_answer _ _
    · refine asks_bind _ _ _ is_setup_neutral fun before setUp _ => ?_
      cases setUp
      · exact asks_answer _ _
      · exact validate_neutral _

theorem callback_neutral (call : AuthRequest) : AsksNeutral (callback call) := by
  rw [callback]
  split
  · exact check_neutral call.request
  · exact asks_answer _ _

theorem set_password_asks (crypto : Crypto) (salt : Vector PackedBits.Byte saltBytes) (password : String) :
    Asks (fun _ statement => statement = .upsertPasswordHash (hashPassword crypto salt password))
      (setPassword crypto salt password) := by
  rw [setPassword]
  split
  · exact asks_answer _ _
  · exact asks_ask _ _ _ rfl fun reply => asks_answer _ _

-- Nothing else is asked before the hash, so what is asked after it comes with the proof.
theorem verify_asks (crypto : Crypto) (drawn : Drawn) (password : String) :
    Asks (fun pairs statement => neutral statement = true ∨ (Proved crypto password pairs ∧
        statement = .upsertPasswordHash (hashPassword crypto drawn.upgradeSalt password)))
      (verify crypto drawn password) := by
  rw [verify, query_bind]
  refine asks_ask _ _ _ (Or.inl rfl) fun reply => ?_
  cases found : reply.first with
  | none => exact asks_answer _ _
  | some stored =>
    dsimp only
    split
    · rename_i upgrade
      have proved : ∀ pairs, Proved crypto password ((.selectPasswordHash, reply) :: pairs) := fun pairs =>
        ⟨reply, stored, List.mem_cons_self, found, (Bool.and_eq_true_iff.mp upgrade).1⟩
      refine asks_bind _ _ _ ?_ fun _ _ _ => asks_answer _ _
      exact asks_imp _ _ _ (fun pairs statement same => Or.inr ⟨proved pairs, same⟩)
        (set_password_asks crypto drawn.upgradeSalt password)
    · exact asks_answer _ _

theorem proved_more (crypto : Crypto) (password : String) (first second : List (AuthStatement × DbReply))
    (proved : Proved crypto password first) : Proved crypto password (first ++ second) := by
  obtain ⟨reply, stored, member, found, verified⟩ := proved
  exact ⟨reply, stored, List.mem_append_left _ member, found, verified⟩

theorem verify_true (crypto : Crypto) (drawn : Drawn) (password : String) (pairs : List (AuthStatement × DbReply))
    (follows : Program.Follows (verify crypto drawn password) pairs (.answer true)) : Proved crypto password pairs := by
  rw [verify, query_bind] at follows
  cases follows with
  | asked _ _ reply rest _ later =>
    dsimp only at later
    cases found : reply.first with
    | none =>
      rw [found] at later
      cases (follows_answer _ _ _ later).2
    | some stored =>
      rw [found] at later
      dsimp only at later
      cases verified : verifyPassword crypto password stored with
      | true => exact ⟨reply, stored, List.mem_cons_self, found, verified⟩
      | false =>
        rw [verified] at later
        cases (follows_answer _ _ _ later).2

theorem create_token_asks (drawn : Drawn) (expireHours : Int) :
    Asks (fun _ statement => neutral statement = true ∨ ∃ expiresAt, statement = .insertSession (tokenText drawn.token) expiresAt)
      (createToken drawn expireHours) := by
  rw [createToken, query_bind]
  refine asks_ask _ _ _ (Or.inl rfl) fun now => ?_
  rw [query_bind]
  exact asks_ask _ _ _ (Or.inr ⟨_, rfl⟩) fun reply => asks_answer _ _

theorem setup_earned (crypto : Crypto) (call : AuthRequest) (body : SetupBody) (handler : call.handler = .setup body) :
    Asks (Earned crypto call) (handleSetup crypto call body) := by
  have quiet := earned_neutral crypto call
  rw [handleSetup]
  refine asks_bind _ _ _ (asks_imp _ _ _ (fun pairs statement => quiet pairs statement) is_setup_neutral) fun before setUp saw => ?_
  cases setUp with
  | true => exact asks_answer _ _
  | false =>
    have unset := is_setup_false before saw
    rw [if_neg Bool.false_ne_true]
    cases read : setupPassword body with
    | error refusal => exact asks_answer _ _
    | ok password =>
      refine asks_bind _ _ _ (asks_imp _ _ _ (fun pairs statement same => ?_) (set_password_asks crypto call.drawn.salt password))
        fun after written _ => ?_
      · subst same
        refine ⟨fun hashed same => Or.inl ⟨body, password, handler, read, List.mem_append_left _ unset, ?_⟩, fun _ _ wrong => by
          cases wrong⟩
        exact (AuthStatement.upsertPasswordHash.inj same).symm
      · cases written with
        | false => exact asks_answer _ _
        | true =>
          exact asks_bind _ _ _ (asks_imp _ _ _ (fun pairs statement => quiet _ statement) (event_neutral _ _ _))
            fun _ _ _ => asks_answer _ _

theorem login_earned (crypto : Crypto) (call : AuthRequest) (body : SetupBody) (handler : call.handler = .login body) :
    Asks (Earned crypto call) (handleLogin crypto call body) := by
  have quiet := earned_neutral crypto call
  rw [handleLogin]
  cases read : loginPassword body with
  | error refusal => exact asks_answer _ _
  | ok password =>
    dsimp only
    refine asks_bind _ _ _ (asks_imp _ _ _ (fun pairs statement asked => ?_) (verify_asks crypto call.drawn password))
      fun before valid answered => ?_
    · rcases asked with silent | ⟨proved, rfl⟩
      · exact quiet pairs statement silent
      · refine ⟨fun hashed same => Or.inr (Or.inl ⟨body, password, handler, read, proved, ?_⟩), fun _ _ wrong => by
          cases wrong⟩
        exact (AuthStatement.upsertPasswordHash.inj same).symm
    · cases valid with
      | false =>
        exact asks_bind _ _ _ (asks_imp _ _ _ (fun pairs statement => quiet _ statement) (event_neutral _ _ _))
          fun _ _ _ => asks_answer _ _
      | true =>
        have proved := verify_true crypto call.drawn password before answered
        refine asks_bind _ _ _ (asks_imp _ _ _ (fun pairs statement => quiet _ statement) (event_neutral _ _ _))
          fun logged _ _ => ?_
        refine asks_bind _ _ _ (asks_imp _ _ _ (fun pairs statement asked => ?_)
          (create_token_asks call.drawn authSessionTtlHours)) fun _ token _ => ?_
        · rcases asked with silent | ⟨expiresAt, rfl⟩
          · exact quiet _ statement silent
          · refine ⟨fun _ wrong => (by cases wrong), fun token other same => ⟨body, password, handler, read, ?_, ?_⟩⟩
            · exact proved_more crypto password before _ proved
            · exact (AuthStatement.insertSession.inj same).1.symm
        · cases token <;> exact asks_answer _ _

theorem change_earned (crypto : Crypto) (call : AuthRequest) (body : ChangeBody) (handler : call.handler = .change body) :
    Asks (Earned crypto call) (handleChange crypto call body) := by
  have quiet := earned_neutral crypto call
  rw [handleChange]
  cases read : changePasswords body with
  | error refusal => exact asks_answer _ _
  | ok passwords =>
    dsimp only
    refine asks_bind _ _ _ (asks_imp _ _ _ (fun pairs statement asked => ?_) (verify_asks crypto call.drawn passwords.1))
      fun before valid answered => ?_
    · rcases asked with silent | ⟨proved, rfl⟩
      · exact quiet pairs statement silent
      · refine ⟨fun hashed same => Or.inr (Or.inr ⟨body, passwords, handler, read, proved, Or.inl ?_⟩), fun _ _ wrong => by
          cases wrong⟩
        exact (AuthStatement.upsertPasswordHash.inj same).symm
    · cases valid with
      | false => exact asks_answer _ _
      | true =>
        have proved := verify_true crypto call.drawn passwords.1 before answered
        refine asks_bind _ _ _ (asks_imp _ _ _ (fun pairs statement same => ?_)
          (set_password_asks crypto call.drawn.salt passwords.2)) fun _ written _ => ?_
        · subst same
          refine ⟨fun hashed same => Or.inr (Or.inr ⟨body, passwords, handler, read, ?_, Or.inr ?_⟩), fun _ _ wrong => by
            cases wrong⟩
          · exact proved_more crypto passwords.1 before _ proved
          · exact (AuthStatement.upsertPasswordHash.inj same).symm
        · cases written with
          | false => exact asks_answer _ _
          | true =>
            exact asks_bind _ _ _ (asks_imp _ _ _ (fun pairs statement => quiet _ statement) (event_neutral _ _ _))
              fun _ _ _ => asks_answer _ _

theorem logout_neutral (call : AuthRequest) : AsksNeutral (handleLogout call) := by
  rw [AsksNeutral, handleLogout]
  refine asks_bind _ _ _ (revoke_neutral _) fun _ _ _ => ?_
  exact asks_bind _ _ _ (event_neutral _ _ _) fun _ _ _ => asks_answer _ _

theorem handle_earned (crypto : Crypto) (call : AuthRequest) : Asks (Earned crypto call) (handle crypto call) := by
  rw [handle]
  cases handler : call.handler with
  | setup body => exact setup_earned crypto call body handler
  | login body => exact login_earned crypto call body handler
  | change body => exact change_earned crypto call body handler
  | logout => exact asks_imp _ _ _ (earned_neutral crypto call) (logout_neutral call)
  | other => exact asks_answer _ _

theorem earned_more (crypto : Crypto) (call : AuthRequest) (before pairs : List (AuthStatement × DbReply))
    (statement : AuthStatement) (earned : Earned crypto call pairs statement) : Earned crypto call (before ++ pairs) statement := by
  have proves : ∀ password, Proved crypto password pairs → Proved crypto password (before ++ pairs) := by
    rintro password ⟨reply, stored, member, found, verified⟩
    exact ⟨reply, stored, List.mem_append_right _ member, found, verified⟩
  constructor
  · intro hashed same
    rcases earned.hash hashed same with ⟨body, password, handler, read, unset, text⟩ | ⟨body, password, handler, read, proved, text⟩ |
      ⟨body, passwords, handler, read, proved, text⟩
    · exact Or.inl ⟨body, password, handler, read, List.mem_append_right _ unset, text⟩
    · exact Or.inr (Or.inl ⟨body, password, handler, read, proves _ proved, text⟩)
    · exact Or.inr (Or.inr ⟨body, passwords, handler, read, proves _ proved, text⟩)
  · intro token expiresAt same
    obtain ⟨body, password, handler, read, proved, text⟩ := earned.session token expiresAt same
    exact ⟨body, password, handler, read, proves _ proved, text⟩

-- The callback let the request in, if there was one.
def LetIn (call : AuthRequest) (pairs : List (AuthStatement × DbReply)) : Prop :=
  call.authFn = true → ∃ before after, pairs = before ++ after ∧ Program.Follows (check call.request) before (.answer true)

def Behaves (crypto : Crypto) (call : AuthCall) (pairs : List (AuthStatement × DbReply)) (statement : AuthStatement) : Prop :=
  neutral statement = true ∨ ∃ http, call = .http http ∧ LetIn http pairs ∧ Earned crypto http pairs statement

theorem body_behaves (crypto : Crypto) (call : AuthCall) : Asks (Behaves crypto call) (call.body crypto) := by
  cases call with
  | cleanup => exact asks_ask _ _ _ (Or.inl rfl) fun _ => asks_answer _ _
  | http http =>
    refine asks_bind _ _ _ (asks_imp _ _ _ (fun _ _ silent => Or.inl silent) (callback_neutral http))
      fun before allowed answered => ?_
    cases allowed with
    | false => exact asks_answer _ _
    | true =>
      refine asks_bind _ _ _ (asks_imp _ _ _ (fun pairs statement earned => ?_) (handle_earned crypto http))
        fun _ _ _ => asks_answer _ _
      refine Or.inr ⟨http, rfl, fun installed => ⟨before, pairs, rfl, ?_⟩, earned_more crypto http before pairs statement earned⟩
      rwa [callback, installed, if_pos rfl] at answered

theorem answered_let_in (crypto : Crypto) (http : AuthRequest) (pairs : List (AuthStatement × DbReply)) (answer : AuthAnswer)
    (follows : Program.Follows (AuthCall.body crypto (.http http)) pairs (.answer (.handled answer))) : LetIn http pairs := by
  intro installed
  rw [AuthCall.body, callback, installed, if_pos rfl] at follows
  rcases Program.follows_bind _ _ _ _ follows with ⟨stopped, inside, same⟩ | ⟨before, after, allowed, split, answered, later⟩
  · cases stopped with
    | ask query next => cases same
    | answer allowed =>
      cases allowed with
      | true => exact ⟨pairs, [], (List.append_nil _).symm, inside⟩
      | false => cases same
  · cases allowed with
    | true => exact ⟨before, after, split, answered⟩
    | false => cases (follows_answer _ _ _ later).2

theorem validate_true (token : Option String) (pairs : List (AuthStatement × DbReply))
    (follows : Program.Follows (validateToken token) pairs (.answer true)) :
    ∃ tok reply kind, presentedToken token = some tok ∧ (AuthStatement.selectKind tok, reply) ∈ pairs ∧ reply.first = some kind := by
  rw [validateToken] at follows
  cases presented : presentedToken token with
  | none =>
    rw [presented] at follows
    cases (follows_answer _ _ _ follows).2
  | some tok =>
    rw [presented] at follows
    dsimp only at follows
    rw [query_bind] at follows
    cases follows with
    | asked _ _ reply rest _ later =>
      dsimp only at later
      cases found : reply.first with
      | none =>
        rw [found] at later
        cases (follows_answer _ _ _ later).2
      | some kind => exact ⟨tok, reply, kind, rfl, List.mem_cons_self, found⟩

theorem check_true (request : Request) (pairs : List (AuthStatement × DbReply))
    (follows : Program.Follows (check request) pairs (.answer true)) (remote : request.isLocal = false)
    (guarded : request.url ∉ publicEndpoints) :
    SawUnset pairs ∨ ∃ tok reply kind, presentedToken (requestToken request) = some tok ∧
      (AuthStatement.selectKind tok, reply) ∈ pairs ∧ reply.first = some kind := by
  rw [check, remote, if_neg Bool.false_ne_true, if_neg guarded] at follows
  rcases Program.follows_bind _ _ _ _ follows with ⟨stopped, inside, same⟩ | ⟨before, after, setUp, split, answered, later⟩
  · cases stopped with
    | ask query next => cases same
    | answer setUp =>
      cases setUp with
      | false => exact Or.inl (is_setup_false pairs inside)
      | true =>
        rw [Program.answer_bind, if_pos rfl] at same
        have silent : Program.Follows (validateToken (requestToken request)) [] (.answer true) := by
          rw [← same]
          exact .here _
        obtain ⟨_, _, _, _, member, _⟩ := validate_true _ [] silent
        cases member
  · subst split
    cases setUp with
    | false => exact Or.inl (List.mem_append_left _ (is_setup_false before answered))
    | true =>
      rw [if_pos rfl] at later
      obtain ⟨tok, reply, kind, presented, member, found⟩ := validate_true _ after later
      exact Or.inr ⟨tok, reply, kind, presented, List.mem_append_right _ member, found⟩

end Auth

abbrev AuthEntry := Entry AuthStatement DbReply AuthStore

-- The same in terms of the tables: the row was not there, or was and the password fits.
def SawNoPassword (request : Nat) (trace : List AuthEntry) : Prop :=
  ∃ entry ∈ trace, entry.request = request ∧ entry.query = .selectAuthId ∧ entry.before.db.passwordHash = none

def PasswordProved (crypto : Crypto) (request : Nat) (password : String) (trace : List AuthEntry) : Prop :=
  ∃ entry ∈ trace, entry.request = request ∧ entry.query = .selectPasswordHash ∧
    ∃ stored, entry.before.db.passwordHash = some stored ∧ verifyPassword crypto password stored = true

def Undeleted (tok : String) (trace : List AuthEntry) : Prop :=
  ∀ entry ∈ trace, entry.query = .deleteSession tok → entry.reply = .failed

-- Where the row of a token comes from.
inductive RowOrigin (start : AuthStore) (tok : String) (trace : List AuthEntry) : Prop where
  | initial (there : (start.db.sessions tok).isSome = true) (kept : Undeleted tok trace)
  | inserted (earlier : List AuthEntry) (opening : AuthEntry) (later : List AuthEntry) (expiresAt : List Char)
    (split : trace = earlier ++ opening :: later) (asked : opening.query = .insertSession tok expiresAt)
    (kept : Undeleted tok later)

theorem undeleted_concat (tok : String) (trace : List AuthEntry) (entry : AuthEntry) (kept : Undeleted tok trace)
    (spared : entry.query = .deleteSession tok → entry.reply = .failed) : Undeleted tok (trace ++ [entry]) := by
  intro other member
  rcases List.mem_append.mp member with old | new
  · exact kept other old
  · rw [List.mem_singleton.mp new]
    exact spared

theorem origin_concat (start : AuthStore) (tok : String) (trace : List AuthEntry) (entry : AuthEntry)
    (origin : RowOrigin start tok trace) (spared : entry.query = .deleteSession tok → entry.reply = .failed) :
    RowOrigin start tok (trace ++ [entry]) := by
  cases origin with
  | initial there kept => exact .initial there (undeleted_concat tok trace entry kept spared)
  | inserted earlier opening later expiresAt split asked kept =>
    refine .inserted earlier opening (later ++ [entry]) expiresAt ?_ asked (undeleted_concat tok later entry kept spared)
    rw [split, List.append_assoc, List.cons_append]

-- A row that is there after a statement was there before it and not deleted by it, or was
-- inserted by it.
theorem executed_row (store : AuthStore) (statement : AuthStatement) (tok : String)
    (there : ((store.execute statement).2.db.sessions tok).isSome = true) :
    ((store.db.sessions tok).isSome = true ∧ statement ≠ .deleteSession tok) ∨
      ∃ expiresAt, statement = .insertSession tok expiresAt := by
  cases statement with
  | insertSession token expiresAt =>
    by_cases same : tok = token
    · exact Or.inr ⟨expiresAt, by rw [same]⟩
    · left
      refine ⟨?_, fun wrong => by cases wrong⟩
      rw [AuthStore.execute] at there
      split at there
      · exact there
      · dsimp only at there
        rwa [set_row_sessions, Function.update_of_ne same] at there
  | slideSession token expiresAt =>
    left
    refine ⟨?_, fun wrong => by cases wrong⟩
    rw [AuthStore.execute] at there
    dsimp only at there
    rw [set_row_sessions] at there
    by_cases same : tok = token
    · subst same
      rwa [Function.update_self, Option.isSome_map] at there
    · rwa [Function.update_of_ne same] at there
  | deleteSession token =>
    left
    rw [AuthStore.execute] at there
    dsimp only at there
    rw [set_row_sessions] at there
    by_cases same : tok = token
    · subst same
      rw [Function.update_self] at there
      cases there
    · rw [Function.update_of_ne same] at there
      exact ⟨there, fun equal => same (AuthStatement.deleteSession.inj equal).symm⟩
  | deleteExpired =>
    left
    refine ⟨?_, fun wrong => by cases wrong⟩
    obtain ⟨row, found⟩ := Option.isSome_iff_exists.mp there
    exact Option.isSome_iff_exists.mpr ⟨row, (Option.filter_eq_some_iff.mp found).1⟩
  | time => exact Or.inl ⟨there, fun wrong => by cases wrong⟩
  | selectAuthId => exact Or.inl ⟨there, fun wrong => by cases wrong⟩
  | selectPasswordHash => exact Or.inl ⟨there, fun wrong => by cases wrong⟩
  | upsertPasswordHash hashed => exact Or.inl ⟨there, fun wrong => by cases wrong⟩
  | insertEvent event => exact Or.inl ⟨there, fun wrong => by cases wrong⟩
  | selectKind token => exact Or.inl ⟨there, fun wrong => by cases wrong⟩
  | touchSession token => exact Or.inl ⟨there, fun wrong => by cases wrong⟩

theorem served_row (store : AuthStore) (statement : AuthStatement) (input : AuthInput) (tok : String)
    (there : ((serveAuth statement input store).2.db.sessions tok).isSome = true) :
    ((store.db.sessions tok).isSome = true ∧ (statement = .deleteSession tok → (serveAuth statement input store).1 = .failed)) ∨
      ∃ expiresAt, statement = .insertSession tok expiresAt := by
  rw [serveAuth] at there ⊢
  split at there
  · rename_i runs
    rw [if_pos runs]
    rcases executed_row _ statement tok there with ⟨before, kept⟩ | inserted
    · exact Or.inl ⟨before, fun same => absurd same kept⟩
    · exact Or.inr inserted
  · rename_i fails
    rw [if_neg fails]
    exact Or.inl ⟨there, fun _ => rfl⟩

theorem rows_have_origins (crypto : Crypto) (start : AuthStore) (labels : List AuthLabel) (final : AuthState)
    (reached : Runs.run (authStep crypto) (.start start) labels = some final) (earlier : List AuthEntry) (entry : AuthEntry)
    (later : List AuthEntry) (split : final.trace = earlier ++ entry :: later) (tok : String)
    (there : (entry.before.db.sessions tok).isSome = true) : RowOrigin start tok earlier := by
  refine (Interleaving.store_invariant (AuthCall.body crypto) serveAuth
    (fun past store => ∀ tok, (store.db.sessions tok).isSome = true → RowOrigin start tok past) start ?_ ?_ labels final
    reached).2 earlier entry later split tok there
  · exact fun tok there => .initial there fun entry member => by cases member
  · intro past before request statement input origins tok there
    rcases served_row before statement input tok there with ⟨old, spared⟩ | ⟨expiresAt, inserted⟩
    · exact origin_concat start tok past _ (origins tok old) spared
    · exact .inserted past _ [] expiresAt rfl inserted fun entry member => by cases member

theorem served_unset (store : AuthStore) (input : AuthInput) (unset : (serveAuth .selectAuthId input store).1 = .rows []) :
    store.db.passwordHash = none := by
  rw [serveAuth] at unset
  split at unset
  · cases stored : store.db.passwordHash with
    | none => rfl
    | some hashed =>
      rw [AuthStore.execute, AuthStore.pass] at unset
      dsimp only at unset
      rw [stored] at unset
      cases unset
  · cases unset

theorem served_hash (store : AuthStore) (input : AuthInput) (stored : String)
    (found : (serveAuth .selectPasswordHash input store).1.first = some stored) : store.db.passwordHash = some stored := by
  rw [serveAuth] at found
  split at found
  · rw [AuthStore.execute, AuthStore.pass] at found
    dsimp only at found
    cases present : store.db.passwordHash with
    | none =>
      rw [present] at found
      cases found
    | some hashed =>
      rw [present] at found
      exact found
  · cases found

theorem served_kind (store : AuthStore) (input : AuthInput) (tok kind : String)
    (found : (serveAuth (.selectKind tok) input store).1.first = some kind) :
    (store.db.sessions tok).isSome = true ∧ ((serveAuth (.selectKind tok) input store).2.db.valid tok).isSome = true := by
  rw [serveAuth] at found ⊢
  split at found
  · rename_i runs
    rw [if_pos runs]
    rw [AuthStore.execute] at found ⊢
    dsimp only at found ⊢
    cases valid : (store.pass input.seconds).db.valid tok with
    | none =>
      rw [valid] at found
      cases found
    | some row =>
      have present := (Option.filter_eq_some_iff.mp valid).1
      exact ⟨Option.isSome_iff_exists.mpr ⟨row, present⟩, rfl⟩
  · cases found

-- An answer in the queries of a request is one the tables gave.
theorem own_served (crypto : Crypto) (state : AuthState) (recorded : Interleaving.Recorded (AuthCall.body crypto) serveAuth state)
    (trace rest : List AuthEntry) (split : state.trace = trace ++ rest) (request : Nat) (statement : AuthStatement) (reply : DbReply)
    (member : (statement, reply) ∈ own request trace) :
    ∃ entry ∈ trace, entry.request = request ∧ entry.query = statement ∧
      ∃ input, serveAuth statement input entry.before = (reply, entry.after) := by
  obtain ⟨entry, inside, mine, asked, replied⟩ := Interleaving.own_member request trace statement reply member
  obtain ⟨input, served⟩ := recorded.served entry (split ▸ List.mem_append_left rest inside)
  subst asked replied
  exact ⟨entry, inside, mine, rfl, input, served⟩

theorem saw_no_password (crypto : Crypto) (state : AuthState)
    (recorded : Interleaving.Recorded (AuthCall.body crypto) serveAuth state) (trace rest : List AuthEntry)
    (split : state.trace = trace ++ rest) (request : Nat) (saw : Auth.SawUnset (own request trace)) :
    SawNoPassword request trace := by
  obtain ⟨entry, inside, mine, asked, input, served⟩ := own_served crypto state recorded trace rest split request _ _ saw
  exact ⟨entry, inside, mine, asked, served_unset entry.before input (by rw [served])⟩

theorem password_proved (crypto : Crypto) (state : AuthState)
    (recorded : Interleaving.Recorded (AuthCall.body crypto) serveAuth state) (trace rest : List AuthEntry)
    (split : state.trace = trace ++ rest) (request : Nat) (password : String)
    (proved : Auth.Proved crypto password (own request trace)) : PasswordProved crypto request password trace := by
  obtain ⟨reply, stored, member, found, verified⟩ := proved
  obtain ⟨entry, inside, mine, asked, input, served⟩ := own_served crypto state recorded trace rest split request _ _ member
  exact ⟨entry, inside, mine, asked, stored, served_hash entry.before input stored (by rw [served]; exact found), verified⟩

def Calls (state : AuthState) (request : Nat) (call : AuthRequest) : Prop :=
  ∃ running, state.requests[request]? = some running ∧ running.call = .http call

-- The session was opened by a login that gave the password then in force, or was there
-- from the start, and its token was not revoked since.
inductive SessionOrigin (crypto : Crypto) (start : AuthStore) (state : AuthState) (tok : String) (trace : List AuthEntry) : Prop where
  | initial (there : (start.db.sessions tok).isSome = true) (kept : Undeleted tok trace)
  | login (earlier : List AuthEntry) (opening : AuthEntry) (later : List AuthEntry) (call : AuthRequest) (body : SetupBody)
    (password : String) (split : trace = earlier ++ opening :: later) (kept : Undeleted tok later)
    (calls : Calls state opening.request call) (handler : call.handler = .login body) (read : loginPassword body = .ok password)
    (proved : PasswordProved crypto opening.request password earlier) (drawn : tok = tokenText call.drawn.token)

theorem session_origin (crypto : Crypto) (start : AuthStore) (state : AuthState)
    (recorded : Interleaving.Recorded (AuthCall.body crypto) serveAuth state) (tok : String) (trace rest : List AuthEntry)
    (split : state.trace = trace ++ rest) (origin : RowOrigin start tok trace) : SessionOrigin crypto start state tok trace := by
  cases origin with
  | initial there kept => exact .initial there kept
  | inserted earlier opening later expiresAt inside asked kept =>
    have whole : state.trace = earlier ++ opening :: (later ++ rest) := by
      rw [split, inside, List.append_assoc, List.cons_append]
    obtain ⟨running, found, behaves⟩ := Interleaving.every_query (AuthCall.body crypto) serveAuth state recorded _
      (Auth.body_behaves crypto) earlier opening _ whole
    rcases behaves with silent | ⟨call, same, _, earned⟩
    · rw [asked] at silent
      cases silent
    · obtain ⟨body, password, handler, read, proved, drawn⟩ := earned.session tok expiresAt asked
      exact .login earlier opening later call body password inside kept ⟨running, found, same⟩ handler read
        (password_proved crypto state recorded earlier _ whole _ password proved) drawn

-- Why a remote request was let in: it came before the daemon had installed the check, it
-- saw that no password is set, or its own SELECT found its token in a valid row with such
-- an origin.
inductive Admission (crypto : Crypto) (start : AuthStore) (state : AuthState) (call : AuthRequest) (request : Nat)
    (trace : List AuthEntry) : Prop where
  | early (unchecked : call.authFn = false)
  | unset (saw : SawNoPassword request trace)
  | session (tok : String) (earlier : List AuthEntry) (entry : AuthEntry) (later : List AuthEntry)
    (split : trace = earlier ++ entry :: later) (mine : entry.request = request)
    (presented : presentedToken (requestToken call.request) = some tok) (valid : (entry.after.db.valid tok).isSome = true)
    (origin : SessionOrigin crypto start state tok earlier)

theorem let_in_admitted (crypto : Crypto) (start : AuthStore) (labels : List AuthLabel) (state : AuthState)
    (reached : Runs.run (authStep crypto) (.start start) labels = some state)
    (recorded : Interleaving.Recorded (AuthCall.body crypto) serveAuth state) (trace rest : List AuthEntry)
    (split : state.trace = trace ++ rest) (call : AuthRequest) (request : Nat) (entered : Auth.LetIn call (own request trace))
    (remote : call.request.isLocal = false) (guarded : call.request.url ∉ publicEndpoints) :
    Admission crypto start state call request trace := by
  cases installed : call.authFn with
  | false => exact .early installed
  | true =>
    obtain ⟨before, after, whole, checked⟩ := entered installed
    rcases Auth.check_true call.request before checked remote guarded with saw | ⟨tok, reply, kind, presented, member, found⟩
    · exact .unset (saw_no_password crypto state recorded trace rest split request (whole ▸ List.mem_append_left after saw))
    · obtain ⟨entry, inside, mine, query, input, served⟩ := own_served crypto state recorded trace rest split request _ reply
        (whole ▸ List.mem_append_left after member)
      obtain ⟨present, valid⟩ := served_kind entry.before input tok kind (by rw [served]; exact found)
      obtain ⟨earlier, later, here⟩ := List.append_of_mem inside
      have position : state.trace = earlier ++ entry :: (later ++ rest) := by
        rw [split, here, List.append_assoc, List.cons_append]
      have origin := rows_have_origins crypto start labels state reached earlier entry _ position tok present
      refine .session tok earlier entry later here mine presented ?_
        (session_origin crypto start state recorded tok earlier _ position origin)
      rw [served] at valid
      exact valid

theorem access_earned (crypto : Crypto) (start : AuthStore) (labels : List AuthLabel) (final : AuthState)
    (reached : Runs.run (authStep crypto) (.start start) labels = some final) (request : Nat)
    (running : Interleaving.Running AuthCall AuthStatement DbReply AuthOutcome) (call : AuthRequest) (answer : AuthAnswer)
    (found : final.requests[request]? = some running) (called : running.call = .http call)
    (handled : running.program.answered = some (.handled answer)) (remote : call.request.isLocal = false)
    (guarded : call.request.url ∉ publicEndpoints) : Admission crypto start final call request final.trace := by
  have recorded := Interleaving.recorded (AuthCall.body crypto) serveAuth start labels final reached
  have follows := recorded.paths.1 request running found
  rw [called, Program.answered_some running.program _ handled] at follows
  exact let_in_admitted crypto start labels final reached recorded final.trace [] (List.append_nil _).symm call request
    (Auth.answered_let_in crypto call _ answer follows) remote guarded

-- A crypto library for examples: the key is the length of the password.
def lengthCrypto : Crypto where
  deriveKey := fun password _ _ keyLen => Vector.replicate keyLen (BitVec.ofNat 8 password.length)
  sha256 := fun password => Vector.replicate 32 (BitVec.ofNat 8 password.length)

def drawnSeven : Drawn :=
  { upgradeSalt := Vector.replicate saltBytes 7, salt := Vector.replicate saltBytes 7, token := Vector.replicate 32 7 }

def administered : AuthStore :=
  { db := { clock := 1735689600, passwordHash := some (legacyHash lengthCrypto "admin"), sessions := fun _ => none }
    events := [] }

def loginCall : AuthRequest :=
  { request := { isLocal := false, method := "POST", url := "/api/auth/login", authorization := none, cookie := none }
    authFn := true, handler := .login (.fields (some "admin")), routed := fun _ member => by cases member; rfl
    drawn := drawnSeven, cookieSecure := false, failure := "" }

def statusCall : AuthRequest :=
  { request :=
      { isLocal := false, method := "GET", url := "/api/status", authorization := none
        cookie := some (tokenText drawnSeven.token) }
    authFn := true, handler := .other, routed := fun _ member => by cases member
    drawn := drawnSeven, cookieSecure := false, failure := "" }

-- A login, and a request that comes before it has opened its session.
def loginAndStatus : List AuthLabel :=
  [.arrive (.http loginCall)] ++ List.replicate 5 (.query 0 ⟨true, 1⟩) ++
    [.arrive (.http statusCall), .query 1 ⟨true, 1⟩, .query 0 ⟨true, 1⟩] ++ List.replicate 3 (.query 1 ⟨true, 1⟩)

def loggedInState : AuthState := Runs.final (authStep lengthCrypto) (.start administered) loginAndStatus

theorem status_arrived : 1 < loggedInState.requests.length := by decide +kernel

theorem login_admits_status : Admission lengthCrypto administered loggedInState statusCall 1 loggedInState.trace :=
  access_earned lengthCrypto administered loginAndStatus loggedInState (Runs.run_final _ _ _ (by decide +kernel)) 1
    (loggedInState.requests.get ⟨1, status_arrived⟩) statusCall (.plain 200 "") (List.getElem?_eq_getElem status_arrived)
    (by decide +kernel) (by decide +kernel) rfl (by decide +kernel)

-- Why a hash was written: the setup saw none, a login or a change gave the password in
-- force, and a change had been let in before, or came before there was a check.
inductive HashEarned (crypto : Crypto) (start : AuthStore) (state : AuthState) (request : Nat) (trace : List AuthEntry)
    (hashed : String) : Prop where
  | setup (call : AuthRequest) (body : SetupBody) (password : String) (calls : Calls state request call)
    (handler : call.handler = .setup body) (read : setupPassword body = .ok password) (saw : SawNoPassword request trace)
    (written : hashed = hashPassword crypto call.drawn.salt password)
  | login (call : AuthRequest) (body : SetupBody) (password : String) (calls : Calls state request call)
    (handler : call.handler = .login body) (read : loginPassword body = .ok password)
    (proved : PasswordProved crypto request password trace)
    (written : hashed = hashPassword crypto call.drawn.upgradeSalt password)
  | change (call : AuthRequest) (body : ChangeBody) (oldPassword newPassword : String) (calls : Calls state request call)
    (handler : call.handler = .change body) (read : changePasswords body = .ok (oldPassword, newPassword))
    (proved : PasswordProved crypto request oldPassword trace)
    (admitted : call.request.isLocal = false → Admission crypto start state call request trace)
    (written : hashed = hashPassword crypto call.drawn.upgradeSalt oldPassword ∨
      hashed = hashPassword crypto call.drawn.salt newPassword)

theorem upsert_earned (crypto : Crypto) (start : AuthStore) (labels : List AuthLabel) (state : AuthState)
    (reached : Runs.run (authStep crypto) (.start start) labels = some state)
    (recorded : Interleaving.Recorded (AuthCall.body crypto) serveAuth state) (earlier : List AuthEntry) (entry : AuthEntry)
    (later : List AuthEntry) (split : state.trace = earlier ++ entry :: later) (hashed : String)
    (asked : entry.query = .upsertPasswordHash hashed) :
    HashEarned crypto start state entry.request earlier hashed := by
  obtain ⟨running, found, behaves⟩ := Interleaving.every_query (AuthCall.body crypto) serveAuth state recorded _
    (Auth.body_behaves crypto) earlier entry later split
  rcases behaves with silent | ⟨call, same, entered, earned⟩
  · rw [asked] at silent
    cases silent
  · have calls : Calls state entry.request call := ⟨running, found, same⟩
    rcases earned.hash hashed asked with ⟨body, password, handler, read, saw, written⟩ |
      ⟨body, password, handler, read, proved, written⟩ | ⟨body, passwords, handler, read, proved, written⟩
    · exact .setup call body password calls handler read (saw_no_password crypto state recorded earlier _ split _ saw) written
    · exact .login call body password calls handler read (password_proved crypto state recorded earlier _ split _ _ proved) written
    · refine .change call body passwords.1 passwords.2 calls handler read
        (password_proved crypto state recorded earlier _ split _ _ proved) (fun remote => ?_) written
      have url : call.request.url = "/api/auth/change" := call.routed _ (by rw [handler]; rfl)
      exact let_in_admitted crypto start labels state reached recorded earlier _ split call entry.request entered remote
        (by rw [url]; decide)

theorem executed_hash (store : AuthStore) (statement : AuthStatement) :
    ((store.execute statement).2.db.passwordHash = store.db.passwordHash ∧
        ∀ hashed, statement ≠ .upsertPasswordHash hashed) ∨
      ∃ hashed, statement = .upsertPasswordHash hashed ∧ (store.execute statement).2.db.passwordHash = some hashed := by
  cases statement with
  | upsertPasswordHash hashed => exact Or.inr ⟨hashed, rfl, rfl⟩
  | insertSession token expiresAt =>
    refine Or.inl ⟨?_, fun _ wrong => by cases wrong⟩
    rw [AuthStore.execute]
    split <;> rfl
  | _ => exact Or.inl ⟨rfl, fun _ wrong => by cases wrong⟩

theorem served_write (store : AuthStore) (statement : AuthStatement) (input : AuthInput) :
    ((serveAuth statement input store).2.db.passwordHash = store.db.passwordHash ∧
        ∀ hashed, statement = .upsertPasswordHash hashed → (serveAuth statement input store).1 = .failed) ∨
      ∃ hashed, statement = .upsertPasswordHash hashed ∧ (serveAuth statement input store).2.db.passwordHash = some hashed := by
  rw [serveAuth]
  split
  · exact (executed_hash (store.pass input.seconds) statement).imp_left fun kept =>
      ⟨kept.1, fun hashed same => absurd same (kept.2 hashed)⟩
  · exact Or.inl ⟨rfl, fun _ _ => rfl⟩

-- The last write of a hash.
structure LastWrite (trace earlier : List AuthEntry) (entry : AuthEntry) (hashed : String) : Prop where
  last : ∃ later, trace = earlier ++ entry :: later ∧
    ∀ other ∈ later, ∀ text, other.query = .upsertPasswordHash text → other.reply = .failed
  asked : entry.query = .upsertPasswordHash hashed

theorem hash_written (crypto : Crypto) (start : AuthStore) (labels : List AuthLabel) (final : AuthState)
    (reached : Runs.run (authStep crypto) (.start start) labels = some final) :
    final.store.db.passwordHash = start.db.passwordHash ∨
      ∃ earlier entry hashed, LastWrite final.trace earlier entry hashed ∧ final.store.db.passwordHash = some hashed := by
  refine (Interleaving.store_invariant (AuthCall.body crypto) serveAuth
    (fun past store => store.db.passwordHash = start.db.passwordHash ∨
      ∃ earlier entry hashed, LastWrite past earlier entry hashed ∧ store.db.passwordHash = some hashed) start (Or.inl rfl) ?_
    labels final reached).1
  intro past before request statement input inv
  rcases served_write before statement input with ⟨same, failed⟩ | ⟨hashed, asked, stored⟩
  · refine inv.imp (fun first => same.trans first) ?_
    rintro ⟨earlier, entry, hashed, ⟨⟨later, split, kept⟩, asked⟩, stored⟩
    refine ⟨earlier, entry, hashed, ⟨⟨later ++ [_], by rw [split, List.append_assoc, List.cons_append], ?_⟩, asked⟩,
      same.trans stored⟩
    intro other member text asks
    rcases List.mem_append.mp member with old | new
    · exact kept other old text asks
    · rw [List.mem_singleton.mp new] at asks ⊢
      exact failed text asks
  · exact Or.inr ⟨past, _, hashed, ⟨⟨[], rfl, fun _ member => by cases member⟩, asked⟩, stored⟩

theorem stored_hash_earned (crypto : Crypto) (start : AuthStore) (labels : List AuthLabel) (final : AuthState)
    (reached : Runs.run (authStep crypto) (.start start) labels = some final) :
    final.store.db.passwordHash = start.db.passwordHash ∨
      ∃ earlier entry hashed, LastWrite final.trace earlier entry hashed ∧ final.store.db.passwordHash = some hashed ∧
        HashEarned crypto start final entry.request earlier hashed := by
  refine (hash_written crypto start labels final reached).imp_right ?_
  rintro ⟨earlier, entry, hashed, write, stored⟩
  obtain ⟨later, split, _⟩ := write.last
  exact ⟨earlier, entry, hashed, write, stored, upsert_earned crypto start labels final reached
    (Interleaving.recorded (AuthCall.body crypto) serveAuth start labels final reached) earlier entry later split hashed write.asked⟩

theorem upgraded_hash_earned :
    loggedInState.store.db.passwordHash = administered.db.passwordHash ∨
      ∃ earlier entry hashed, LastWrite loggedInState.trace earlier entry hashed ∧
        loggedInState.store.db.passwordHash = some hashed ∧
          HashEarned lengthCrypto administered loggedInState entry.request earlier hashed :=
  stored_hash_earned lengthCrypto administered loginAndStatus loggedInState (Runs.run_final _ _ _ (by decide +kernel))

end AiriesUps.Api
