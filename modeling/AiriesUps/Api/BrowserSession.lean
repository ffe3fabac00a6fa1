import AiriesUps.Api.Cookie
import AiriesUps.Api.Server
import AiriesUps.Api.Sessions

set_option autoImplicit false

namespace AiriesUps.Api

open Calendar (FourDigits)
open PackedBits (Byte)

-- generate_token with a buffer of 65; random is what RAND_bytes gave.
def generateToken (random : Vector Byte 32) : List Char := Hex.encode random.toList

def authCookie : List Char := "auth".toList

-- A browser with its cookies, and the tables of the daemon, which speaks plain HTTP: with
-- tls it is reached through a proxy that adds the encryption.
structure Browser where
  db : AuthDb
  jar : SetCookie.Jar
  tls : Bool

def Browser.start (db : AuthDb) (tls : Bool) : Browser := { db := db, jar := fun _ => none, tls := tls }

def Browser.cookie (browser : Browser) : Option String :=
  (SetCookie.send browser.jar browser.db.clock browser.tls authCookie).map String.ofList

-- Browsers send the cookie and no Authorization header.
def Browser.request (browser : Browser) (method url : String) : Request :=
  { isLocal := false, method := method, url := url, authorization := none, cookie := browser.cookie }

-- The cookies after an answer with this Set-Cookie, or with none.
def Browser.received (browser : Browser) (setCookie : Option (List Char)) : SetCookie.Jar :=
  match setCookie with
  | some header => SetCookie.receive browser.jar browser.db.clock browser.tls header
  | none => browser.jar

-- login is a login that was answered 200, logout a request that may still be refused;
-- secure is auth.cookie_secure. other is what other clients and the clock do.
inductive BrowserLabel where
  | login (random : Vector Byte 32) (secure : Bool)
  | logout (secure : Bool) (answers : DbAnswers)
  | visit (method url : String) (answers : DbAnswers)
  | other (label : SessionLabel)

def Browser.login (browser : Browser) (random : Vector Byte 32) (secure : Bool) : Option Browser :=
  (authCreateToken browser.db (String.ofList (generateToken random)) authSessionTtlHours).map fun db =>
    { browser with
      db := db
      jar := browser.received
        (apiCookieSet (some authCookie) (some (generateToken random)) (authSessionTtlHours * 3600) secure) }

def Browser.logout (browser : Browser) (secure : Bool) (answers : DbAnswers) : Browser :=
  let checked := authCheck browser.db (browser.request "POST" "/api/auth/logout") answers
  if checked.allowed then
    { browser with
      db := authRevokeToken checked.db browser.cookie, jar := browser.received (apiCookieClear (some authCookie) secure) }
  else { browser with db := checked.db }

def Browser.step : Runs.Step Browser BrowserLabel
  | browser, .login random secure => browser.login random secure
  | browser, .logout secure answers => some (browser.logout secure answers)
  | browser, .visit method url answers => some { browser with db := (authCheck browser.db (browser.request method url) answers).db }
  | browser, .other label => (browser.db.step label).map fun db => { browser with db := db }

-- What the user did: when they logged in, with which token, unless that was ended. A login
-- whose cookie the browser does not take is none.
structure Visitor where
  clock : Int
  login : Option (String × Int)
deriving DecidableEq, Repr

def cookieSeconds : Int := 7776000

def Visitor.live (visitor : Visitor) : Bool := visitor.login.any fun login => decide (visitor.clock < login.2 + cookieSeconds)

def Visitor.admitted (visitor : Visitor) (passwordSet : Bool) (answers : DbAnswers) : Bool :=
  (answers.setup && !passwordSet) || (answers.selects && visitor.live)

def Visitor.ended (visitor : Visitor) (tok : Option String) : Visitor :=
  if visitor.login.any fun login => tok == some login.1 then { visitor with login := none } else visitor

def Visitor.record (passwordSet tls : Bool) (visitor : Visitor) : BrowserLabel → Visitor
  | .login random secure =>
    if tls || !secure then { visitor with login := some (String.ofList (generateToken random), visitor.clock) } else visitor
  | .logout _ answers => if visitor.admitted passwordSet answers then { visitor with login := none } else visitor
  | .visit _ _ _ => visitor
  | .other (.revoke token) => visitor.ended (presentedToken token)
  | .other (.advance seconds) => { visitor with clock := visitor.clock + seconds }
  | .other _ => visitor

def visitorAfter (db : AuthDb) (tls : Bool) (past : List BrowserLabel) : Visitor :=
  past.foldl (Visitor.record db.passwordHash.isSome tls) { clock := db.clock, login := none }

theorem token_digits (random : Vector Byte 32) :
    ∀ char ∈ generateToken random, ∃ digit, digit < 16 ∧ char = Nat.digitChar digit := Hex.encode_digits random.toList

theorem length_token (random : Vector Byte 32) : (generateToken random).length = 64 := by
  rw [generateToken, Hex.length_encode, Vector.length_toList]

theorem token_not_empty (random : Vector Byte 32) : generateToken random ≠ [] :=
  List.ne_nil_of_length_pos (by rw [length_token]; decide)

-- The digits of a token are none of the characters that mean something in a header.
theorem token_digit_plain (digit : Nat) (inside : digit < 16) :
    Nat.digitChar digit ≠ 'B' ∧ SetCookie.isBlank (Nat.digitChar digit) = false ∧
      safeCookieToken [Nat.digitChar digit] = true := by
  have every : ∀ digit : Fin 16, Nat.digitChar digit ≠ 'B' ∧ SetCookie.isBlank (Nat.digitChar digit) = false ∧
      safeCookieToken [Nat.digitChar digit] = true := by decide
  exact every ⟨digit, inside⟩

theorem token_presented (random : Vector Byte 32) :
    presentedToken (some (String.ofList (generateToken random))) = some (String.ofList (generateToken random)) := by
  have filled : String.ofList (generateToken random) ≠ "" := fun empty =>
    token_not_empty random (String.ofList_eq_empty_iff.mp empty)
  have bare : ['B', 'e', 'a', 'r', 'e', 'r', ' '].isPrefixOf (generateToken random) = false := by
    rw [Bool.eq_false_iff, ne_eq, List.isPrefixOf_iff_prefix]
    intro begins
    obtain ⟨digit, inside, same⟩ := token_digits random 'B' (begins.subset (by decide))
    exact (token_digit_plain digit inside).1 same.symm
  rw [presentedToken, if_neg filled, if_neg]
  rw [String.toList_ofList, String.toList_ofList, bare]
  exact Bool.false_ne_true

theorem token_safe (random : Vector Byte 32) : safeCookieToken (generateToken random) = true := by
  refine List.all_eq_true.mpr fun char member => ?_
  obtain ⟨digit, inside, rfl⟩ := token_digits random char member
  have safe := (token_digit_plain digit inside).2.2
  rw [safeCookieToken, List.all_cons, List.all_nil, Bool.and_true] at safe
  exact safe

theorem token_trimmed (random : Vector Byte 32) : SetCookie.trim (generateToken random) = generateToken random := by
  have solid : ∀ char ∈ generateToken random, SetCookie.isBlank char = false := by
    intro char member
    obtain ⟨digit, inside, rfl⟩ := token_digits random char member
    exact (token_digit_plain digit inside).2.1
  exact SetCookie.trim_of_ends _ (fun char first => solid char (List.mem_of_mem_head? first))
    fun char last => solid char (List.mem_of_getLast? last)

theorem login_cookie_built (random : Vector Byte 32) (secure : Bool) :
    ∃ header, apiCookieSet (some authCookie) (some (generateToken random)) (authSessionTtlHours * 3600) secure = some header := by
  have positive : authSessionTtlHours * 3600 > 0 := by decide
  have safe : (!safeCookieToken authCookie || !safeCookieToken (generateToken random)) = false := by
    rw [token_safe]
    decide +kernel
  have digits : (Nat.toDigits 10 (authSessionTtlHours * 3600).toNat).length = 7 := by decide +kernel
  have name : authCookie.length = 4 := by decide +kernel
  have middle : "; HttpOnly; SameSite=Strict; Path=/; Max-Age=".toList.length = 45 := by decide +kernel
  have tail : (secureText secure).length ≤ 8 := by cases secure <;> decide +kernel
  rw [apiCookieSet, safe, if_neg Bool.false_ne_true, if_pos positive, fitted, if_neg]
  · exact ⟨_, rfl⟩
  · simp only [List.length_append, List.length_cons, digits, name, middle, length_token]
    omega

theorem attributes_secure (name value : List Char) (seconds : Nat) (secure : Bool) :
    SetCookie.Cookie.secure { name := name, value := value, attributes := cookieAttributes (some seconds) secure } = secure := by
  cases secure <;> rfl

theorem stored_until (name value : List Char) (seconds : Nat) (secure : Bool) (now : Int) :
    SetCookie.Cookie.stored { name := name, value := value, attributes := cookieAttributes (some seconds) secure } now =
      if seconds = 0 then none else some { value := value, expires := some (now + seconds), secure := secure } := by
  have aged : SetCookie.Cookie.attribute { name := name, value := value, attributes := cookieAttributes (some seconds) secure }
      ['m', 'a', 'x', '-', 'a', 'g', 'e'] = some (Nat.toDigits 10 seconds) := by cases secure <;> rfl
  rw [SetCookie.Cookie.stored, aged, Option.bind_some, SetCookie.max_age_printed, attributes_secure]
  dsimp only
  by_cases zero : seconds = 0
  · rw [if_pos zero, if_pos (by omega)]
  · rw [if_neg zero, if_neg (by omega)]

-- Over plain HTTP the browser has no Secure cookie.
def Browser.NoneSecure (browser : Browser) : Prop :=
  browser.tls = true ∨ ∀ stored, browser.jar authCookie = some stored → stored.secure = false

-- A header of the daemon is taken unless it is of a Secure cookie and the connection is not.
theorem header_received (browser : Browser) (header value : List Char) (seconds : Nat) (secure : Bool)
    (reads : HeaderReads header authCookie value (some seconds) secure) (none : browser.NoneSecure) :
    browser.received (some header) =
      if browser.tls || !secure then
        Function.update browser.jar authCookie
          (if seconds = 0 then .none
            else some { value := SetCookie.trim value, expires := some (browser.db.clock + seconds), secure := secure })
      else browser.jar := by
  have named : SetCookie.trim authCookie = authCookie := by decide +kernel
  rw [Browser.received, SetCookie.receive, reads.reads]
  dsimp only
  rw [attributes_secure, stored_until, named]
  cases tls : browser.tls with
  | true => rfl
  | false =>
    cases secure with
    | true => rfl
    | false =>
      have plain : ((browser.jar authCookie).any fun stored => stored.secure && stored.live browser.db.clock) = false := by
        cases kept : browser.jar authCookie with
        | none => rfl
        | some stored =>
          have notSecure := none.resolve_left (by simp [tls]) stored kept
          rw [Option.any_some, notSecure, Bool.false_and]
      rw [plain]
      rfl

theorem login_received (browser : Browser) (random : Vector Byte 32) (secure : Bool) (none : browser.NoneSecure) :
    browser.received (apiCookieSet (some authCookie) (some (generateToken random)) (authSessionTtlHours * 3600) secure) =
      if browser.tls || !secure then
        Function.update browser.jar authCookie
          (some { value := generateToken random, expires := some (browser.db.clock + cookieSeconds), secure := secure })
      else browser.jar := by
  obtain ⟨header, built⟩ := login_cookie_built random secure
  obtain ⟨safeName, safeValue, shape⟩ := set_header authCookie (generateToken random) _ secure header built
  have age : lifetime (authSessionTtlHours * 3600) = some 7776000 := by decide +kernel
  have reads := header_reads authCookie (generateToken random) (lifetime (authSessionTtlHours * 3600)) secure safeName safeValue
    (by decide +kernel) (by decide +kernel)
  rw [← shape, age] at reads
  rw [built, header_received browser header _ _ secure reads none, token_trimmed]
  rfl

theorem clear_received (browser : Browser) (secure : Bool) (none : browser.NoneSecure) :
    browser.received (apiCookieClear (some authCookie) secure) =
      if browser.tls || !secure then Function.update browser.jar authCookie .none else browser.jar := by
  obtain ⟨header, built⟩ : ∃ header, apiCookieClear (some authCookie) secure = some header := by
    cases secure
    · exact ⟨"auth=; HttpOnly; SameSite=Strict; Path=/; Max-Age=0".toList, by decide +kernel⟩
    · exact ⟨"auth=; HttpOnly; SameSite=Strict; Path=/; Max-Age=0; Secure".toList, by decide +kernel⟩
  obtain ⟨safeName, shape⟩ := clear_header authCookie secure header built
  have reads := header_reads authCookie [] (some 0) secure safeName rfl (by decide +kernel) (by decide +kernel)
  rw [← shape] at reads
  rw [built, header_received browser header [] 0 secure reads none, if_pos rfl]

-- The token has a row that lasts at least until then.
structure RowLasts (db : AuthDb) (tok : String) (until_ : Int) : Prop where
  row : ∃ row expiry, db.sessions tok = some row ∧ row.revokedAt = none ∧ row.expiresAt = strftime expiry ∧
    FourDigits expiry ∧ until_ ≤ expiry

-- The UPDATE of a validation.
def AuthDb.slid (db : AuthDb) (tok : String) (row : SessionRow) : AuthDb :=
  let later := { row with expiresAt := strftime (db.clock + authSessionTtlHours * 3600) }
  { db with sessions := Function.update db.sessions tok (some later) }

theorem validated_db (db : AuthDb) (token : Option String) (selects updates : Bool) :
    (authValidateToken db token selects updates).2 = db ∨
      ∃ tok row, db.sessions tok = some row ∧ (authValidateToken db token selects updates).2 = db.slid tok row := by
  rw [authValidateToken]
  cases presentedToken token with
  | none => exact Or.inl rfl
  | some tok =>
    dsimp only
    split
    · exact Or.inl rfl
    · rename_i row found
      split
      · exact Or.inr ⟨tok, row, (Option.filter_eq_some_iff.mp found).1, rfl⟩
      · exact Or.inl rfl

theorem validate_lasts (db : AuthDb) (token : Option String) (selects updates : Bool) (tok : String) (until_ : Int)
    (years : FourDigits (db.clock + authSessionTtlHours * 3600)) (soon : until_ ≤ db.clock + cookieSeconds)
    (lasts : RowLasts db tok until_) : RowLasts (authValidateToken db token selects updates).2 tok until_ := by
  rcases validated_db db token selects updates with same | ⟨other, row, present, changed⟩
  · rwa [same]
  · rw [changed]
    obtain ⟨kept, expiry, found, unrevoked, expires, digits, later⟩ := lasts.row
    by_cases equal : tok = other
    · subst equal
      rw [found, Option.some.injEq] at present
      subst present
      exact ⟨_, _, Function.update_self .., unrevoked, rfl, years, soon⟩
    · exact ⟨kept, expiry, (Function.update_of_ne equal ..).trans found, unrevoked, expires, digits, later⟩

theorem validate_gone (db : AuthDb) (token : Option String) (selects updates : Bool) (tok : String)
    (gone : db.sessions tok = none) : (authValidateToken db token selects updates).2.sessions tok = none := by
  rcases validated_db db token selects updates with same | ⟨other, row, present, changed⟩
  · rwa [same]
  · rw [changed]
    have different : tok ≠ other := by
      rintro rfl
      rw [gone] at present
      cases present
    exact (Function.update_of_ne different ..).trans gone

theorem validate_frame (db : AuthDb) (token : Option String) (selects updates : Bool) :
    (authValidateToken db token selects updates).2.clock = db.clock ∧
      (authValidateToken db token selects updates).2.passwordHash = db.passwordHash := by
  rcases validated_db db token selects updates with same | ⟨other, row, _, changed⟩
  · rw [same]
    exact ⟨rfl, rfl⟩
  · rw [changed]
    exact ⟨rfl, rfl⟩

-- What the SELECT answers for a row that lasts, and for none.
theorem validates_lasting (db : AuthDb) (tok : String) (selects updates : Bool) (until_ : Int) (years : FourDigits db.clock)
    (running : db.clock < until_) (lasts : RowLasts db tok until_) (token : Option String)
    (presented : presentedToken token = some tok) : (authValidateToken db token selects updates).1 = selects := by
  obtain ⟨row, expiry, found, unrevoked, expires, digits, later⟩ := lasts.row
  have before : datetimeNow db.clock < row.expiresAt := by
    rw [expires, strftime, Calendar.text_unpadded _ digits, datetimeNow, Calendar.text_lt_iff _ _ years digits]
    omega
  rw [authValidateToken, presented]
  dsimp only
  rw [found, Option.filter_some, unrevoked, decide_eq_true before, Option.isNone_none, Bool.and_true, Bool.and_true]
  cases selects with
  | false => rfl
  | true =>
    rw [if_pos rfl]
    dsimp only
    split <;> rfl

theorem validates_gone (db : AuthDb) (tok : String) (selects updates : Bool) (gone : db.sessions tok = none)
    (token : Option String) (presented : presentedToken token = some tok) :
    (authValidateToken db token selects updates).1 = false := by
  rw [authValidateToken, presented]
  dsimp only
  rw [gone]
  rfl

theorem cleanup_lasts (db : AuthDb) (tok : String) (until_ : Int) (years : FourDigits db.clock)
    (lasts : RowLasts db tok until_) : RowLasts (authCleanupSessions db) tok until_ ∨ until_ ≤ db.clock := by
  obtain ⟨row, expiry, found, unrevoked, expires, digits, later⟩ := lasts.row
  by_cases running : db.clock < until_
  · left
    have kept : ¬row.expiresAt < datetimeNow db.clock := by
      rw [expires, strftime, Calendar.text_unpadded _ digits, datetimeNow, Calendar.text_lt_iff _ _ digits years]
      omega
    refine ⟨row, expiry, ?_, unrevoked, expires, digits, later⟩
    rw [authCleanupSessions]
    dsimp only
    rw [found, Option.filter_some, decide_eq_false kept]
    rfl
  · exact Or.inr (Int.not_lt.mp running)

def tokenText (random : Vector Byte 32) : String := String.ofList (generateToken random)

-- The cookie of a login ends with it in force, or ended, with its row gone or its time over.
inductive Kept (browser : Browser) (visitor : Visitor) : Prop where
  | empty (bare : browser.jar authCookie = none) (out : visitor.login = none)
  | loggedIn (random : Vector Byte 32) (since : Int) (secure : Bool) (taken : (browser.tls || !secure) = true)
    (stored : browser.jar authCookie =
      some { value := generateToken random, expires := some (since + cookieSeconds), secure := secure })
    (login : visitor.login = some (tokenText random, since)) (past : since ≤ visitor.clock)
    (row : RowLasts browser.db (tokenText random) (since + cookieSeconds) ∨ since + cookieSeconds ≤ visitor.clock)
  | ended (random : Vector Byte 32) (since : Int) (secure : Bool) (taken : (browser.tls || !secure) = true)
    (stored : browser.jar authCookie =
      some { value := generateToken random, expires := some (since + cookieSeconds), secure := secure })
    (out : visitor.login = none)
    (gone : browser.db.sessions (tokenText random) = none ∨ since + cookieSeconds ≤ visitor.clock)

theorem taken_not_secure (tls secure : Bool) (taken : (tls || !secure) = true) : tls = true ∨ secure = false := by
  rwa [Bool.or_eq_true, Bool.not_eq_true'] at taken

theorem kept_none_secure (browser : Browser) (visitor : Visitor) (kept : Kept browser visitor) : browser.NoneSecure := by
  cases kept with
  | empty bare out => exact Or.inr fun stored present => by cases bare.symm.trans present
  | loggedIn random since secure taken stored login past row =>
    refine (taken_not_secure _ _ taken).imp_right fun plain other present => ?_
    cases stored.symm.trans present
    exact plain
  | ended random since secure taken stored out gone =>
    refine (taken_not_secure _ _ taken).imp_right fun plain other present => ?_
    cases stored.symm.trans present
    exact plain

structure Tracks (passwordHash : Option String) (browser : Browser) (visitor : Visitor) : Prop where
  clock : browser.db.clock = visitor.clock
  hash : browser.db.passwordHash = passwordHash
  kept : Kept browser visitor

theorem cookie_sent (browser : Browser) (random : Vector Byte 32) (until_ : Int) (secure : Bool)
    (taken : (browser.tls || !secure) = true)
    (stored : browser.jar authCookie = some { value := generateToken random, expires := some until_, secure := secure }) :
    browser.cookie = if browser.db.clock < until_ then some (tokenText random) else none := by
  rw [Browser.cookie, SetCookie.send, stored, Option.filter_some, SetCookie.Stored.live, Option.all_some, taken, Bool.and_true]
  by_cases running : browser.db.clock < until_
  · rw [decide_eq_true running, if_pos rfl, if_pos running]
    rfl
  · rw [decide_eq_false running, if_neg Bool.false_ne_true, if_neg running]
    rfl

theorem unpresented (db : AuthDb) (selects updates : Bool) : (authValidateToken db none selects updates).1 = false := rfl

theorem validates_visitor (passwordHash : Option String) (browser : Browser) (visitor : Visitor)
    (tracks : Tracks passwordHash browser visitor) (years : FourDigits browser.db.clock) (selects updates : Bool) :
    (authValidateToken browser.db browser.cookie selects updates).1 = (selects && visitor.live) := by
  rw [Visitor.live]
  cases tracks.kept with
  | empty bare out =>
    have none : browser.cookie = none := by rw [Browser.cookie, SetCookie.send, bare]; rfl
    rw [none, unpresented, out, Option.any_none, Bool.and_false]
  | loggedIn random since secure taken stored login past row =>
    rw [cookie_sent browser random _ secure taken stored, login, Option.any_some, ← tracks.clock]
    by_cases running : browser.db.clock < since + cookieSeconds
    · have lasts := row.resolve_right (by rw [← tracks.clock]; omega)
      rw [if_pos running, decide_eq_true running, Bool.and_true]
      exact validates_lasting browser.db _ selects updates _ years running lasts _ (token_presented random)
    · rw [if_neg running, decide_eq_false running, Bool.and_false, unpresented]
  | ended random since secure taken stored out gone =>
    rw [cookie_sent browser random _ secure taken stored, out, Option.any_none, Bool.and_false]
    split
    · rename_i running
      have row := gone.resolve_right (by rw [← tracks.clock]; omega)
      exact validates_gone browser.db _ selects updates row _ (token_presented random)
    · exact unpresented ..

theorem visit_checked (browser : Browser) (method url : String) (answers : DbAnswers) (guarded : url ∉ publicEndpoints) :
    (authCheck browser.db (browser.request method url) answers).allowed =
      ((answers.setup && !browser.db.passwordHash.isSome) ||
        (authValidateToken browser.db browser.cookie answers.selects answers.updates).1) := by
  have outside : (browser.request method url).url ∉ publicEndpoints := guarded
  rw [authCheck, if_neg (by rw [Browser.request]; exact Bool.false_ne_true), if_neg outside, authIsSetup, setupAnswer]
  cases answers.setup <;> cases browser.db.passwordHash <;> rfl

theorem checked_db (browser : Browser) (method url : String) (answers : DbAnswers) :
    (authCheck browser.db (browser.request method url) answers).db = browser.db ∨
      (authCheck browser.db (browser.request method url) answers).db =
        (authValidateToken browser.db browser.cookie answers.selects answers.updates).2 := by
  rw [authCheck, if_neg (by rw [Browser.request]; exact Bool.false_ne_true)]
  split
  · exact Or.inl rfl
  · split
    · exact Or.inl rfl
    · exact Or.inr rfl

theorem admitted_as_visited (passwordHash : Option String) (browser : Browser) (visitor : Visitor)
    (tracks : Tracks passwordHash browser visitor) (years : FourDigits browser.db.clock) (method url : String)
    (answers : DbAnswers) (guarded : url ∉ publicEndpoints) :
    (authCheck browser.db (browser.request method url) answers).allowed =
      visitor.admitted passwordHash.isSome answers := by
  rw [visit_checked browser method url answers guarded, validates_visitor passwordHash browser visitor tracks years,
    tracks.hash, Visitor.admitted]

-- What a change of the tables does to a token of the browser.
structure TokenKept (db next : AuthDb) (tok : String) : Prop where
  lasts : ∀ until_, until_ ≤ db.clock + cookieSeconds → RowLasts db tok until_ → RowLasts next tok until_ ∨ until_ ≤ next.clock
  gone : db.sessions tok = none → next.sessions tok = none

theorem kept_changed (browser : Browser) (visitor later : Visitor) (next : AuthDb) (clock : browser.db.clock = visitor.clock)
    (same : later.login = visitor.login) (advanced : visitor.clock ≤ later.clock) (follows : next.clock = later.clock)
    (tokens : ∀ stored, browser.jar authCookie = some stored → TokenKept browser.db next (String.ofList stored.value))
    (kept : Kept browser visitor) : Kept { browser with db := next } later := by
  cases kept with
  | empty bare out => exact .empty bare (same.trans out)
  | loggedIn random since secure taken stored login past row =>
    refine .loggedIn random since secure taken stored (same.trans login) (Int.le_trans past advanced) ?_
    rcases row with lasts | ended
    · rcases (tokens _ stored).lasts _ (by omega) lasts with still | ended
      · exact Or.inl still
      · exact Or.inr (follows ▸ ended)
    · exact Or.inr (Int.le_trans ended advanced)
  | ended random since secure taken stored out gone =>
    exact .ended random since secure taken stored (same.trans out)
      (gone.imp (tokens _ stored).gone fun over_ => Int.le_trans over_ advanced)

theorem validate_kept (db : AuthDb) (token : Option String) (selects updates : Bool) (tok : String)
    (years : FourDigits (db.clock + authSessionTtlHours * 3600)) :
    TokenKept db (authValidateToken db token selects updates).2 tok :=
  ⟨fun until_ soon lasts => Or.inl (validate_lasts db token selects updates tok until_ years soon lasts),
    validate_gone db token selects updates tok⟩

theorem checked_tracks (passwordHash : Option String) (browser : Browser) (visitor : Visitor)
    (tracks : Tracks passwordHash browser visitor) (years : FourDigits (browser.db.clock + authSessionTtlHours * 3600))
    (method url : String) (answers : DbAnswers) :
    Tracks passwordHash { browser with db := (authCheck browser.db (browser.request method url) answers).db } visitor := by
  rcases checked_db browser method url answers with same | validated
  · rw [same]
    exact tracks
  · rw [validated]
    obtain ⟨clock, hash⟩ := validate_frame browser.db browser.cookie answers.selects answers.updates
    exact ⟨clock.trans tracks.clock, hash.trans tracks.hash,
      kept_changed browser visitor visitor _ tracks.clock rfl (Int.le_refl _) (clock.trans tracks.clock)
        (fun stored _ => validate_kept browser.db _ _ _ _ years) tracks.kept⟩

-- The clock and every expiry in the years 1000 to 9999, and the token of the browser is
-- given to nobody again.
def Admissible (browser : Browser) (label : BrowserLabel) : Prop :=
  FourDigits browser.db.clock ∧ FourDigits (browser.db.clock + authSessionTtlHours * 3600) ∧
    match label with
    | .other label => WithinYears browser.db label ∧
        (browser.jar authCookie).all (fun stored => !label.issues (String.ofList stored.value)) = true
    | .login random _ => (browser.jar authCookie).all (fun stored => String.ofList stored.value != tokenText random) = true
    | _ => True

instance (browser : Browser) : (label : BrowserLabel) → Decidable (Admissible browser label)
  | .other label => inferInstanceAs (Decidable (FourDigits _ ∧ FourDigits _ ∧ WithinYears browser.db label ∧ _ = true))
  | .login _ _ => inferInstanceAs (Decidable (FourDigits _ ∧ FourDigits _ ∧ _ = true))
  | .logout _ _ | .visit _ _ _ => inferInstanceAs (Decidable (FourDigits _ ∧ FourDigits _ ∧ True))

theorem insert_frame (db next : AuthDb) (token : String) (row : SessionRow) (inserted : db.insert token row = some next) :
    next.clock = db.clock ∧ next.passwordHash = db.passwordHash ∧ next.sessions = Function.update db.sessions token (some row) := by
  rw [AuthDb.insert] at inserted
  split at inserted
  · cases inserted
  · cases inserted
    exact ⟨rfl, rfl, rfl⟩

-- Another row leaves the token alone.
theorem update_kept (db next : AuthDb) (token : String) (row : Option SessionRow) (tok : String) (different : tok ≠ token)
    (updated : next.sessions = Function.update db.sessions token row) : TokenKept db next tok := by
  have same : next.sessions tok = db.sessions tok := by rw [updated, Function.update_of_ne different]
  refine ⟨fun until_ _ lasts => Or.inl ?_, fun gone => same.trans gone⟩
  obtain ⟨kept, expiry, found, rest⟩ := lasts.row
  exact ⟨kept, expiry, same.trans found, rest⟩

theorem cleanup_kept (db : AuthDb) (tok : String) (years : FourDigits db.clock) : TokenKept db (authCleanupSessions db) tok := by
  refine ⟨fun until_ _ lasts => cleanup_lasts db tok until_ years lasts, fun gone => ?_⟩
  rw [authCleanupSessions]
  dsimp only
  rw [gone]
  rfl

theorem login_tracks (passwordHash : Option String) (browser next : Browser) (visitor : Visitor)
    (tracks : Tracks passwordHash browser visitor) (years : FourDigits (browser.db.clock + authSessionTtlHours * 3600))
    (random : Vector Byte 32) (secure : Bool)
    (fresh : (browser.jar authCookie).all (fun stored => String.ofList stored.value != tokenText random) = true)
    (logged : browser.login random secure = some next) :
    Tracks passwordHash next (visitor.record passwordHash.isSome browser.tls (.login random secure)) := by
  obtain ⟨db, created, rfl⟩ := Option.map_eq_some_iff.mp logged
  obtain ⟨clock, hash, sessions⟩ := insert_frame browser.db db (tokenText random) _ created
  rw [login_received browser random secure (kept_none_secure browser visitor tracks.kept), Visitor.record]
  by_cases taken : (browser.tls || !secure) = true
  · rw [if_pos taken, if_pos taken]
    refine ⟨clock.trans tracks.clock, hash.trans tracks.hash,
      .loggedIn random visitor.clock secure taken ?_ rfl (Int.le_refl _) (Or.inl ?_)⟩
    · dsimp only
      rw [Function.update_self, tracks.clock]
    · have row := congrFun sessions (tokenText random)
      rw [Function.update_self] at row
      refine ⟨_, browser.db.clock + authSessionTtlHours * 3600, row, rfl, rfl, years, ?_⟩
      rw [tracks.clock]
      exact Int.le_refl _
  · rw [if_neg taken, if_neg taken]
    refine ⟨clock.trans tracks.clock, hash.trans tracks.hash,
      kept_changed browser visitor visitor db tracks.clock rfl (Int.le_refl _) (clock.trans tracks.clock)
        (fun stored present => ?_) tracks.kept⟩
    rw [present, Option.all_some, bne_iff_ne] at fresh
    exact update_kept browser.db db _ _ _ fresh sessions

theorem revoke_gone (db : AuthDb) (token : Option String) (tok : String)
    (gone : presentedToken token = some tok ∨ db.sessions tok = none) : (authRevokeToken db token).sessions tok = none := by
  rw [authRevokeToken]
  cases presented : presentedToken token with
  | none =>
    rw [presented] at gone
    exact gone.resolve_left (by simp)
  | some other =>
    dsimp only
    by_cases same : tok = other
    · rw [same, Function.update_self]
    · rw [Function.update_of_ne same]
      rw [presented, Option.some.injEq] at gone
      exact gone.resolve_left fun equal => same equal.symm

-- An answer the browser does not take leaves it the cookie of a session that is over.
theorem revoked_kept (browser : Browser) (db : AuthDb) (visitor : Visitor) (clock : browser.db.clock = visitor.clock)
    (kept : Kept { browser with db := db } visitor) :
    Kept { browser with db := authRevokeToken db browser.cookie } { visitor with login := none } := by
  cases kept with
  | empty bare out => exact .empty bare rfl
  | loggedIn random since secure taken stored login past row =>
    refine .ended random since secure taken stored rfl ?_
    by_cases running : browser.db.clock < since + cookieSeconds
    · refine Or.inl (revoke_gone db browser.cookie _ (Or.inl ?_))
      rw [cookie_sent browser random _ secure taken stored, if_pos running]
      exact token_presented random
    · exact Or.inr (clock ▸ Int.not_lt.mp running)
  | ended random since secure taken stored out gone =>
    exact .ended random since secure taken stored rfl (gone.imp_left fun row => revoke_gone db browser.cookie _ (Or.inr row))

theorem logout_tracks (passwordHash : Option String) (browser : Browser) (visitor : Visitor)
    (tracks : Tracks passwordHash browser visitor) (years : FourDigits browser.db.clock)
    (slides : FourDigits (browser.db.clock + authSessionTtlHours * 3600)) (secure : Bool) (answers : DbAnswers) :
    Tracks passwordHash (browser.logout secure answers)
      (if visitor.admitted passwordHash.isSome answers then { visitor with login := none } else visitor) := by
  have checked := checked_tracks passwordHash browser visitor tracks slides "POST" "/api/auth/logout" answers
  rw [Browser.logout, admitted_as_visited passwordHash browser visitor tracks years _ _ answers (by decide)]
  split
  · have frame : ∀ db : AuthDb, ∀ token, (authRevokeToken db token).clock = db.clock ∧
        (authRevokeToken db token).passwordHash = db.passwordHash := by
      intro db token
      rw [authRevokeToken]
      split <;> exact ⟨rfl, rfl⟩
    refine ⟨(frame _ _).1.trans checked.clock, (frame _ _).2.trans checked.hash, ?_⟩
    rw [clear_received browser secure (kept_none_secure browser visitor tracks.kept)]
    by_cases taken : (browser.tls || !secure) = true
    · rw [if_pos taken]
      refine .empty ?_ rfl
      dsimp only
      rw [Function.update_self]
    · rw [if_neg taken]
      exact revoked_kept browser _ visitor tracks.clock checked.kept
  · exact checked

theorem unissued (browser : Browser) (label : SessionLabel)
    (fresh : (browser.jar authCookie).all (fun stored => !label.issues (String.ofList stored.value)) = true)
    (stored : SetCookie.Stored) (kept : browser.jar authCookie = some stored) :
    label.issues (String.ofList stored.value) = false := by
  rw [kept, Option.all_some] at fresh
  exact Bool.not_eq_true' _ ▸ fresh

theorem revoke_tracks (passwordHash : Option String) (browser : Browser) (visitor : Visitor)
    (tracks : Tracks passwordHash browser visitor) (token : Option String) :
    Tracks passwordHash { browser with db := authRevokeToken browser.db token } (visitor.ended (presentedToken token)) := by
  rw [authRevokeToken, Visitor.ended]
  cases presentedToken token with
  | none =>
    have unended : ¬(visitor.login.any fun login => (none : Option String) == some login.1) = true := by
      cases visitor.login <;> exact Bool.false_ne_true
    rw [if_neg unended]
    exact tracks
  | some tok =>
    have others : ∀ other, other ≠ tok → TokenKept browser.db
        { browser.db with sessions := Function.update browser.db.sessions tok none } other := fun other different =>
      update_kept browser.db _ tok none other different rfl
    cases tracks.kept with
    | empty bare out =>
      rw [out, Option.any_none, if_neg Bool.false_ne_true]
      exact ⟨tracks.clock, tracks.hash, .empty bare out⟩
    | loggedIn random since secure taken stored login past row =>
      rw [login, Option.any_some]
      by_cases same : tok = tokenText random
      · subst same
        rw [if_pos (beq_self_eq_true _)]
        exact ⟨tracks.clock, tracks.hash, .ended random since secure taken stored rfl (Or.inl (Function.update_self ..))⟩
      · rw [if_neg fun equal => same (Option.some.inj (beq_iff_eq.mp equal))]
        refine ⟨tracks.clock, tracks.hash, kept_changed browser visitor visitor _ tracks.clock rfl (Int.le_refl _)
          tracks.clock (fun other present => ?_) tracks.kept⟩
        rw [stored, Option.some.injEq] at present
        subst present
        exact others _ fun equal => same equal.symm
    | ended random since secure taken stored out gone =>
      rw [out, Option.any_none, if_neg Bool.false_ne_true]
      refine ⟨tracks.clock, tracks.hash, .ended random since secure taken stored out (gone.imp_left fun row => ?_)⟩
      by_cases same : tokenText random = tok
      · rw [same]
        exact Function.update_self ..
      · exact (Function.update_of_ne same ..).trans row

theorem other_tracks (passwordHash : Option String) (browser : Browser) (visitor : Visitor)
    (tracks : Tracks passwordHash browser visitor) (label : SessionLabel) (within : WithinYears browser.db label)
    (fresh : (browser.jar authCookie).all (fun stored => !label.issues (String.ofList stored.value)) = true)
    (next : AuthDb) (taken : browser.db.step label = some next) :
    Tracks passwordHash { browser with db := next } (visitor.record passwordHash.isSome browser.tls (.other label)) := by
  have issued : ∀ stored, browser.jar authCookie = some stored → label.issues (String.ofList stored.value) = false :=
    unissued browser label fresh
  -- All but a revocation and the passing of time leave the visitor as they are.
  have quiet : next.clock = browser.db.clock → next.passwordHash = browser.db.passwordHash →
      (∀ stored, browser.jar authCookie = some stored → TokenKept browser.db next (String.ofList stored.value)) →
      Tracks passwordHash { browser with db := next } visitor := fun clock hash tokens =>
    ⟨clock.trans tracks.clock, hash.trans tracks.hash,
      kept_changed browser visitor visitor next tracks.clock rfl (Int.le_refl _) (clock.trans tracks.clock) tokens tracks.kept⟩
  cases label with
  | createToken token expireHours =>
    obtain ⟨clock, hash, sessions⟩ := insert_frame browser.db next token _ taken
    exact quiet clock hash fun stored present =>
      update_kept browser.db next token _ _ (fun same => beq_eq_false_iff_ne.mp (issued stored present) same.symm) sessions
  | issueApiToken token expiry =>
    obtain ⟨clock, hash, sessions⟩ := insert_frame browser.db next token _ taken
    exact quiet clock hash fun stored present =>
      update_kept browser.db next token _ _ (fun same => beq_eq_false_iff_ne.mp (issued stored present) same.symm) sessions
  | validate token =>
    cases taken
    obtain ⟨clock, hash⟩ := validate_frame browser.db token true true
    exact quiet clock hash fun stored _ => validate_kept browser.db token true true _ within.2
  | revoke token =>
    cases taken
    exact revoke_tracks passwordHash browser visitor tracks token
  | cleanup =>
    cases taken
    exact quiet rfl rfl fun stored _ => cleanup_kept browser.db _ within.1
  | advance seconds =>
    cases taken
    refine ⟨congrArg (· + (seconds : Int)) tracks.clock, tracks.hash, ?_⟩
    refine kept_changed browser visitor _ _ tracks.clock rfl (Int.le_add_of_nonneg_right (Int.natCast_nonneg _))
      (congrArg (· + (seconds : Int)) tracks.clock) (fun stored _ => ⟨fun until_ _ lasts => Or.inl ?_, fun gone => gone⟩)
      tracks.kept
    exact ⟨lasts.row⟩

theorem browser_step_tracks (passwordHash : Option String) (browser next : Browser) (visitor : Visitor) (label : BrowserLabel)
    (tracks : Tracks passwordHash browser visitor) (admissible : Admissible browser label)
    (taken : browser.step label = some next) :
    Tracks passwordHash next (visitor.record passwordHash.isSome browser.tls label) := by
  obtain ⟨years, slides, rest⟩ := admissible
  cases label with
  | login random secure => exact login_tracks passwordHash browser next visitor tracks slides random secure rest taken
  | logout secure answers =>
    cases taken
    exact logout_tracks passwordHash browser visitor tracks years slides secure answers
  | visit method url answers =>
    cases taken
    exact checked_tracks passwordHash browser visitor tracks slides method url answers
  | other label =>
    obtain ⟨db, stepped, rfl⟩ := Option.map_eq_some_iff.mp taken
    exact other_tracks passwordHash browser visitor tracks label rest.1 rest.2 db stepped

theorem visitor_concat (db : AuthDb) (tls : Bool) (past : List BrowserLabel) (label : BrowserLabel) :
    visitorAfter db tls (past ++ [label]) = (visitorAfter db tls past).record db.passwordHash.isSome tls label :=
  List.foldl_append ..

theorem browser_step_tls (browser next : Browser) (label : BrowserLabel) (taken : browser.step label = some next) :
    next.tls = browser.tls := by
  cases label with
  | login random secure =>
    obtain ⟨db, _, rfl⟩ := Option.map_eq_some_iff.mp taken
    rfl
  | logout secure answers =>
    cases taken
    rw [Browser.logout]
    split <;> rfl
  | visit method url answers =>
    cases taken
    rfl
  | other label =>
    obtain ⟨db, _, rfl⟩ := Option.map_eq_some_iff.mp taken
    rfl

-- A request behind the login is let in as the visitor's own history says.
def AdmittedAsVisited (db : AuthDb) (tls : Bool) (past : List BrowserLabel) (browser : Browser) (label : BrowserLabel)
    (_ : Browser) : Prop :=
  ∀ method url answers, label = .visit method url answers → url ∉ publicEndpoints →
    (authCheck browser.db (browser.request method url) answers).allowed =
      (visitorAfter db tls past).admitted db.passwordHash.isSome answers

theorem visits_admitted (db : AuthDb) (tls : Bool) (labels : List BrowserLabel)
    (admissible : Runs.Admitted Browser.step Admissible (.start db tls) labels) :
    Runs.EachStep Browser.step (.start db tls) labels (AdmittedAsVisited db tls) := by
  refine Runs.each_step_imp Browser.step _ _ _
    (fun past browser => browser.tls = tls ∧ Tracks db.passwordHash browser (visitorAfter db tls past))
    ⟨rfl, rfl, rfl, .empty rfl rfl⟩ ?_ ?_ labels (Runs.each_step_admitted Browser.step Admissible _ labels admissible)
  · rintro past browser label next ⟨rfl, tracks⟩ allowed taken
    rw [visitor_concat]
    exact ⟨browser_step_tls browser next label taken,
      browser_step_tracks db.passwordHash browser next _ label tracks allowed taken⟩
  · intro past browser label next tracks allowed _ method url answers _ guarded
    exact admitted_as_visited db.passwordHash browser _ tracks.2 allowed.1 method url answers guarded

-- Used every day, the row of the session slides on and the cookie runs out. A second login
-- over plain HTTP whose cookie is Secure changes nothing.
def dailyVisits : List BrowserLabel :=
  [.login (Vector.replicate 32 7) false, .other (.advance 7000000), .visit "GET" "/api/status" ⟨true, true, true⟩,
    .login (Vector.replicate 32 8) true, .other (.advance 776000), .visit "GET" "/api/status" ⟨true, true, true⟩]

theorem daily_visits_admitted :
    Runs.EachStep Browser.step (.start configured false) dailyVisits (AdmittedAsVisited configured false) :=
  visits_admitted configured false dailyVisits (by decide +kernel)

end AiriesUps.Api
