import AiriesUps.Api.Auth
import AiriesUps.Lib.Runs

set_option autoImplicit false

namespace AiriesUps.Api

open Calendar (FourDigits)

-- issueApiToken is the insert of an issuer.
inductive SessionLabel where
  | createToken (token : String) (expireHours : Int)
  | issueApiToken (token : String) (expiry : Int)
  | validate (token : Option String)
  | revoke (token : Option String)
  | cleanup
  | advance (seconds : Nat)
deriving DecidableEq, Repr

def AuthDb.step : Runs.Step AuthDb SessionLabel
  | db, .createToken token expireHours => authCreateToken db token expireHours
  | db, .issueApiToken token expiry =>
    db.insert token { kind := "api_token", expiresAt := strftime expiry, revokedAt := none }
  | db, .validate token => some (authValidateToken db token true true).2
  | db, .revoke token => some (authRevokeToken db token)
  | db, .cleanup => some (authCleanupSessions db)
  | db, .advance seconds => some { db with clock := db.clock + seconds }

def AuthDb.start (clock : Int) (passwordHash : Option String) : AuthDb :=
  { clock := clock, passwordHash := passwordHash, sessions := fun _ => none }

-- What a token is good for: until when, and whether its use moves that.
structure Lease where
  sliding : Bool
  expiry : Int
deriving DecidableEq, Repr

-- The same history kept by what was issued, used and revoked, with times as numbers.
structure Ledger where
  clock : Int
  leases : String → Option Lease

def Ledger.holds (ledger : Ledger) (tok : String) : Bool :=
  (ledger.leases tok).any fun lease => decide (ledger.clock < lease.expiry)

def Ledger.validates (ledger : Ledger) (token : Option String) : Bool :=
  match presentedToken token with
  | some tok => ledger.holds tok
  | none => false

def Ledger.put (ledger : Ledger) (tok : String) (lease : Option Lease) : Ledger :=
  { ledger with leases := Function.update ledger.leases tok lease }

def Ledger.used (ledger : Ledger) (tok : String) : Ledger :=
  match ledger.leases tok with
  | some lease =>
    if ledger.clock < lease.expiry ∧ lease.sliding = true then
      ledger.put tok (some { lease with expiry := ledger.clock + 90 * 86400 })
    else ledger
  | none => ledger

def Ledger.record (ledger : Ledger) : SessionLabel → Ledger
  | .createToken token expireHours => ledger.put token (some { sliding := true, expiry := ledger.clock + expireHours * 3600 })
  | .issueApiToken token expiry => ledger.put token (some { sliding := false, expiry := expiry })
  | .validate token =>
    match presentedToken token with
    | some tok => ledger.used tok
    | none => ledger
  | .revoke token =>
    match presentedToken token with
    | some tok => ledger.put tok none
    | none => ledger
  | .cleanup => ledger
  | .advance seconds => { ledger with clock := ledger.clock + seconds }

def ledgerAfter (clock : Int) (past : List SessionLabel) : Ledger :=
  past.foldl Ledger.record { clock := clock, leases := fun _ => none }

def SessionLabel.issues (tok : String) : SessionLabel → Bool
  | .createToken token _ => token == tok
  | .issueApiToken token _ => token == tok
  | _ => false

-- The step revokes the token, or finds it expired.
def Ends (start : AuthDb) (before : List SessionLabel) (cause : SessionLabel) (tok : String) : Prop :=
  (∃ token, cause = .revoke token ∧ presentedToken token = some tok) ∨
    ∃ token db, cause = .validate token ∧ presentedToken token = some tok ∧
      Runs.run AuthDb.step start before = some db ∧ (authValidateToken db token true true).1 = false

structure SessionsSound (start : AuthDb) (past : List SessionLabel) (db : AuthDb) (label : SessionLabel) (next : AuthDb) :
    Prop where
  validates : ∀ token, label = .validate token →
    (authValidateToken db token true true).1 = (ledgerAfter start.clock past).validates token
  ended : ∀ token tok before cause between, label = .validate token → presentedToken token = some tok →
    past = before ++ cause :: between → Ends start before cause tok →
    (∀ other ∈ between, other.issues tok = false) → (authValidateToken db token true true).1 = false
  cleaned : label = .cleanup → ∀ token, (authValidateToken db token true true).1 = true →
    (authValidateToken next token true true).1 = true

-- The clock and every expiry that is set lie in the years 1000 to 9999.
def WithinYears (db : AuthDb) (label : SessionLabel) : Prop :=
  FourDigits db.clock ∧
    match label with
    | .createToken _ expireHours => FourDigits (db.clock + expireHours * 3600)
    | .issueApiToken _ expiry => FourDigits expiry
    | .validate _ => FourDigits (db.clock + authSessionTtlHours * 3600)
    | _ => True

instance (db : AuthDb) : (label : SessionLabel) → Decidable (WithinYears db label)
  | .createToken _ _ | .issueApiToken _ _ | .validate _ => inferInstanceAs (Decidable (FourDigits _ ∧ FourDigits _))
  | .revoke _ | .cleanup | .advance _ => inferInstanceAs (Decidable (FourDigits _ ∧ True))

structure RowFollows (row : SessionRow) (lease : Lease) : Prop where
  years : FourDigits lease.expiry
  expires : row.expiresAt = strftime lease.expiry
  kind : row.kind = "session" ↔ lease.sliding = true
  kept : row.revokedAt = none

-- A row is missing only when the token was not issued, or was revoked, or has expired.
structure Follows (db : AuthDb) (ledger : Ledger) : Prop where
  clock : db.clock = ledger.clock
  held : ∀ tok row, db.sessions tok = some row → ∃ lease, ledger.leases tok = some lease ∧ RowFollows row lease
  gone : ∀ tok lease, db.sessions tok = none → ledger.leases tok = some lease → lease.expiry < ledger.clock

theorem expires_after_iff (row : SessionRow) (lease : Lease) (clock : Int) (follows : RowFollows row lease)
    (years : FourDigits clock) : datetimeNow clock < row.expiresAt ↔ clock < lease.expiry := by
  rw [follows.expires, strftime, Calendar.text_unpadded _ follows.years, datetimeNow,
    Calendar.text_lt_iff _ _ years follows.years]

theorem expires_before_iff (row : SessionRow) (lease : Lease) (clock : Int) (follows : RowFollows row lease)
    (years : FourDigits clock) : row.expiresAt < datetimeNow clock ↔ lease.expiry < clock := by
  rw [follows.expires, strftime, Calendar.text_unpadded _ follows.years, datetimeNow,
    Calendar.text_lt_iff _ _ follows.years years]

theorem put_follows (db : AuthDb) (ledger : Ledger) (follows : Follows db ledger) (tok : String) (row : SessionRow)
    (lease : Lease) (rowFollows : RowFollows row lease) :
    Follows { db with sessions := Function.update db.sessions tok (some row) } (ledger.put tok (some lease)) := by
  constructor
  · exact follows.clock
  · intro other found present
    by_cases same : other = tok
    · subst same
      simp only [Function.update_self, Option.some.injEq] at present
      subst present
      exact ⟨lease, Function.update_self .., rowFollows⟩
    · simp only [Function.update_of_ne same] at present
      simp only [Ledger.put, Function.update_of_ne same]
      exact follows.held other found present
  · intro other found missing leased
    by_cases same : other = tok
    · subst same
      simp only [Function.update_self, reduceCtorEq] at missing
    · simp only [Function.update_of_ne same] at missing
      simp only [Ledger.put, Function.update_of_ne same] at leased
      exact follows.gone other found missing leased

theorem remove_follows (db : AuthDb) (ledger : Ledger) (follows : Follows db ledger) (tok : String) :
    Follows { db with sessions := Function.update db.sessions tok none } (ledger.put tok none) := by
  constructor
  · exact follows.clock
  · intro other found present
    by_cases same : other = tok
    · subst same
      simp only [Function.update_self, reduceCtorEq] at present
    · simp only [Function.update_of_ne same] at present
      simp only [Ledger.put, Function.update_of_ne same]
      exact follows.held other found present
  · intro other found missing leased
    by_cases same : other = tok
    · subst same
      simp only [Ledger.put, Function.update_self, reduceCtorEq] at leased
    · simp only [Function.update_of_ne same] at missing
      simp only [Ledger.put, Function.update_of_ne same] at leased
      exact follows.gone other found missing leased

theorem insert_follows (db next : AuthDb) (ledger : Ledger) (follows : Follows db ledger) (tok : String) (row : SessionRow)
    (lease : Lease) (rowFollows : RowFollows row lease) (inserted : db.insert tok row = some next) :
    Follows next (ledger.put tok (some lease)) := by
  rw [AuthDb.insert] at inserted
  split at inserted
  · cases inserted
  · cases inserted
    exact put_follows db ledger follows tok row lease rowFollows

-- The row the SELECT finds is there exactly while the lease runs.
theorem validated_row (db : AuthDb) (ledger : Ledger) (follows : Follows db ledger) (years : FourDigits db.clock)
    (tok : String) :
    (ledger.holds tok = true ∧ ∃ row lease, db.sessions tok = some row ∧ ledger.leases tok = some lease ∧
        RowFollows row lease ∧ ledger.clock < lease.expiry ∧
        ((db.sessions tok).filter fun row =>
          true && decide (datetimeNow db.clock < row.expiresAt) && row.revokedAt.isNone) = some row) ∨
      (ledger.holds tok = false ∧
        ((db.sessions tok).filter fun row =>
          true && decide (datetimeNow db.clock < row.expiresAt) && row.revokedAt.isNone) = none) := by
  cases present : db.sessions tok with
  | none =>
    right
    refine ⟨?_, rfl⟩
    rw [Ledger.holds]
    cases leased : ledger.leases tok with
    | none => rfl
    | some lease =>
      have expired := follows.gone tok lease present leased
      exact decide_eq_false (by omega)
  | some row =>
    obtain ⟨lease, leased, rowFollows⟩ := follows.held tok row present
    have later := expires_after_iff row lease db.clock rowFollows years
    rw [follows.clock] at later
    rw [Ledger.holds, leased]
    by_cases running : ledger.clock < lease.expiry
    · left
      refine ⟨by simp [running], row, lease, rfl, rfl, rowFollows, running, ?_⟩
      simp [Option.filter, follows.clock, later.mpr running, rowFollows.kept]
    · right
      refine ⟨by simp [running], ?_⟩
      have past : ¬datetimeNow ledger.clock < row.expiresAt := fun less => running (later.mp less)
      simp [Option.filter, follows.clock, past]

theorem validation_follows (db : AuthDb) (ledger : Ledger) (follows : Follows db ledger) (years : FourDigits db.clock)
    (token : Option String) : (authValidateToken db token true true).1 = ledger.validates token := by
  rw [authValidateToken, Ledger.validates]
  cases presentedToken token with
  | none => rfl
  | some tok =>
    dsimp only
    rcases validated_row db ledger follows years tok with ⟨holds, row, _, _, _, _, _, found⟩ | ⟨holds, found⟩
    · rw [holds, found]
      dsimp only
      split <;> rfl
    · rw [holds, found]

theorem validate_follows (db : AuthDb) (ledger : Ledger) (follows : Follows db ledger) (years : FourDigits db.clock)
    (token : Option String) (slides : FourDigits (db.clock + authSessionTtlHours * 3600)) :
    Follows (authValidateToken db token true true).2 (ledger.record (.validate token)) := by
  rw [authValidateToken, Ledger.record]
  cases presentedToken token with
  | none => exact follows
  | some tok =>
    dsimp only
    rcases validated_row db ledger follows years tok with ⟨_, row, lease, _, leased, rowFollows, running, found⟩ | ⟨holds, found⟩
    · rw [found, Ledger.used, leased]
      dsimp only
      by_cases session : row.kind = "session"
      · rw [if_pos ⟨session, rfl⟩, if_pos ⟨running, rowFollows.kind.mp session⟩]
        refine put_follows db ledger follows tok _ _ ⟨?_, ?_, rowFollows.kind, rowFollows.kept⟩
        · rw [← follows.clock]
          exact slides
        · rw [← follows.clock]
          rfl
      · rw [if_neg fun both => session both.1, if_neg fun both => session (rowFollows.kind.mpr both.2)]
        exact follows
    · have unused : ledger.used tok = ledger := by
        rw [Ledger.used]
        rw [Ledger.holds] at holds
        cases leased : ledger.leases tok with
        | none => rfl
        | some lease =>
          rw [leased] at holds
          exact if_neg fun both => of_decide_eq_false holds both.1
      rw [found, unused]
      exact follows

theorem cleanup_follows (db : AuthDb) (ledger : Ledger) (follows : Follows db ledger) (years : FourDigits db.clock) :
    Follows (authCleanupSessions db) ledger := by
  constructor
  · exact follows.clock
  · intro tok row present
    exact follows.held tok row (Option.filter_eq_some_iff.mp present).1
  · intro tok lease missing leased
    cases present : db.sessions tok with
    | none => exact follows.gone tok lease present leased
    | some row =>
      obtain ⟨other, otherLeased, rowFollows⟩ := follows.held tok row present
      rw [leased, Option.some.injEq] at otherLeased
      subst otherLeased
      rw [authCleanupSessions] at missing
      simp only [present, Option.filter] at missing
      split at missing
      · cases missing
      · rename_i deleted
        rw [Bool.not_eq_true, Bool.not_eq_false', decide_eq_true_eq] at deleted
        rw [← follows.clock]
        exact (expires_before_iff row lease db.clock rowFollows years).mp deleted

theorem step_follows (db next : AuthDb) (ledger : Ledger) (label : SessionLabel) (follows : Follows db ledger)
    (within : WithinYears db label) (taken : db.step label = some next) : Follows next (ledger.record label) := by
  cases label with
  | createToken token expireHours =>
    refine insert_follows db next ledger follows token _ { sliding := true, expiry := ledger.clock + expireHours * 3600 }
      ⟨?_, ?_, iff_of_true rfl rfl, rfl⟩ taken
    · rw [← follows.clock]
      exact within.2
    · rw [← follows.clock]
  | issueApiToken token expiry =>
    exact insert_follows db next ledger follows token _ { sliding := false, expiry := expiry }
      ⟨within.2, rfl, iff_of_false (by simp) (by simp), rfl⟩ taken
  | validate token =>
    cases taken
    exact validate_follows db ledger follows within.1 token within.2
  | revoke token =>
    cases taken
    rw [authRevokeToken, Ledger.record]
    cases presentedToken token with
    | none => exact follows
    | some tok => exact remove_follows db ledger follows tok
  | cleanup =>
    cases taken
    exact cleanup_follows db ledger follows within.1
  | advance seconds =>
    cases taken
    refine ⟨congrArg (· + (seconds : Int)) follows.clock, follows.held, ?_⟩
    intro tok lease missing leased
    have expired := follows.gone tok lease missing leased
    change lease.expiry < ledger.clock + seconds
    omega

theorem ledger_concat (clock : Int) (past : List SessionLabel) (label : SessionLabel) :
    ledgerAfter clock (past ++ [label]) = (ledgerAfter clock past).record label := List.foldl_append ..

theorem put_other (ledger : Ledger) (tok other : String) (lease : Option Lease) (different : tok ≠ other) :
    (ledger.put other lease).holds tok = ledger.holds tok := by
  rw [Ledger.holds, Ledger.holds, Ledger.put]
  dsimp only
  rw [Function.update_of_ne different]

theorem removed_ends (ledger : Ledger) (tok : String) : (ledger.put tok none).holds tok = false := by
  rw [Ledger.holds, Ledger.put]
  dsimp only
  rw [Function.update_self]
  rfl

theorem used_other (ledger : Ledger) (tok other : String) (different : tok ≠ other) :
    (ledger.used other).holds tok = ledger.holds tok := by
  rw [Ledger.used]
  split
  · split
    · exact put_other ledger tok other _ different
    · rfl
  · rfl

theorem used_ended (ledger : Ledger) (tok : String) (ended : ledger.holds tok = false) : ledger.used tok = ledger := by
  rw [Ledger.holds] at ended
  rw [Ledger.used]
  cases leased : ledger.leases tok with
  | none => rfl
  | some lease =>
    rw [leased] at ended
    exact if_neg fun both => of_decide_eq_false ended both.1

-- Only an issue brings a token back.
theorem ended_stays (ledger : Ledger) (tok : String) (label : SessionLabel) (ended : ledger.holds tok = false)
    (unissued : label.issues tok = false) : (ledger.record label).holds tok = false := by
  cases label with
  | createToken token expireHours =>
    have different : tok ≠ token := fun same => beq_eq_false_iff_ne.mp unissued same.symm
    exact (put_other ledger tok token _ different).trans ended
  | issueApiToken token expiry =>
    have different : tok ≠ token := fun same => beq_eq_false_iff_ne.mp unissued same.symm
    exact (put_other ledger tok token _ different).trans ended
  | validate token =>
    rw [Ledger.record]
    cases presentedToken token with
    | none => exact ended
    | some other =>
      by_cases same : tok = other
      · subst same
        dsimp only
        rw [used_ended ledger tok ended]
        exact ended
      · exact (used_other ledger tok other same).trans ended
  | revoke token =>
    rw [Ledger.record]
    cases presentedToken token with
    | none => exact ended
    | some other =>
      by_cases same : tok = other
      · subst same
        exact removed_ends ledger tok
      · exact (put_other ledger tok other none same).trans ended
  | cleanup => exact ended
  | advance seconds =>
    rw [Ledger.holds] at ended ⊢
    change ((ledger.leases tok).any fun lease => decide (ledger.clock + seconds < lease.expiry)) = false
    cases leased : ledger.leases tok with
    | none => rfl
    | some lease =>
      rw [leased] at ended
      have past := of_decide_eq_false ended
      exact decide_eq_false (by omega)

theorem ended_stays_run (ledger : Ledger) (tok : String) (labels : List SessionLabel) (ended : ledger.holds tok = false)
    (unissued : ∀ label ∈ labels, label.issues tok = false) : (labels.foldl Ledger.record ledger).holds tok = false := by
  induction labels generalizing ledger with
  | nil => exact ended
  | cons label rest ih =>
    exact ih (ledger.record label) (ended_stays ledger tok label ended (unissued label List.mem_cons_self))
      fun other member => unissued other (List.mem_cons_of_mem _ member)

-- The step finds the database as the ledger has it.
structure StepFollows (clock : Int) (past : List SessionLabel) (db : AuthDb) (label : SessionLabel) (next : AuthDb) : Prop where
  validates : ∀ token, label = .validate token →
    (authValidateToken db token true true).1 = (ledgerAfter clock past).validates token
  cleaned : label = .cleanup → ∀ token, (authValidateToken db token true true).1 = true →
    (authValidateToken next token true true).1 = true

theorem sessions_follow (clock : Int) (passwordHash : Option String) (labels : List SessionLabel)
    (within : Runs.Admitted AuthDb.step WithinYears (.start clock passwordHash) labels) :
    Runs.EachStep AuthDb.step (.start clock passwordHash) labels (StepFollows clock) := by
  refine Runs.each_step_imp AuthDb.step _ _ _ (fun past db => Follows db (ledgerAfter clock past))
    ⟨rfl, (fun _ _ present => by cases present), (fun _ _ _ leased => by cases leased)⟩ ?_ ?_ labels
    (Runs.each_step_admitted AuthDb.step WithinYears _ labels within)
  · intro past db label next follows years taken
    rw [ledger_concat]
    exact step_follows db next _ label follows years taken
  · intro past db label next follows years taken
    refine ⟨fun token _ => validation_follows db _ follows years.1 token, ?_⟩
    rintro rfl token valid
    cases taken
    rw [validation_follows db _ follows years.1 token] at valid
    rw [validation_follows _ _ (cleanup_follows db _ follows years.1) years.1 token]
    exact valid

theorem ended_never_validates (clock : Int) (passwordHash : Option String) (before between : List SessionLabel)
    (cause : SessionLabel) (tok : String) (ends : Ends (.start clock passwordHash) before cause tok)
    (followed : ∀ token db, cause = .validate token → Runs.run AuthDb.step (.start clock passwordHash) before = some db →
      (authValidateToken db token true true).1 = (ledgerAfter clock before).validates token)
    (unissued : ∀ other ∈ between, other.issues tok = false) :
    (ledgerAfter clock (before ++ cause :: between)).holds tok = false := by
  have whole : ledgerAfter clock (before ++ cause :: between) =
      between.foldl Ledger.record ((ledgerAfter clock before).record cause) := List.foldl_append ..
  rw [whole]
  refine ended_stays_run _ tok between ?_ unissued
  rcases ends with ⟨token, rfl, presented⟩ | ⟨token, db, caused, presented, reached, refused⟩
  · rw [Ledger.record, presented]
    exact removed_ends _ tok
  · rw [followed token db caused reached, Ledger.validates, presented] at refused
    subst caused
    exact ended_stays _ tok _ refused rfl

theorem sessions_sound (clock : Int) (passwordHash : Option String) (labels : List SessionLabel)
    (within : Runs.Admitted AuthDb.step WithinYears (.start clock passwordHash) labels) :
    Runs.EachStep AuthDb.step (.start clock passwordHash) labels (SessionsSound (.start clock passwordHash)) := by
  have each := sessions_follow clock passwordHash labels within
  intro earlier label later db next split reached taken
  have here := each earlier label later db next split reached taken
  refine ⟨here.validates, ?_, here.cleaned⟩
  intro token tok before cause between validated presented past ends unissued
  rw [here.validates token validated, Ledger.validates, presented, past]
  refine ended_never_validates clock passwordHash before between cause tok ends ?_ unissued
  intro other middle caused reachedMiddle
  have taken : middle.step cause = some (authValidateToken middle other true true).2 := by rw [caused]; rfl
  refine (each before cause (between ++ label :: later) middle _ ?_ reachedMiddle taken).validates other caused
  rw [split, past, List.append_assoc, List.cons_append]

-- A session used once, slid, left until it has run out, and used again.
def idleSession : List SessionLabel :=
  [.createToken "5f1c" 1, .validate (some "Bearer 5f1c"), .advance 7775999, .validate (some "5f1c"), .advance 7776000,
    .validate (some "5f1c"), .cleanup]

theorem idle_session_sound :
    Runs.EachStep AuthDb.step (.start 1735689600 none) idleSession (SessionsSound (.start 1735689600 none)) :=
  sessions_sound 1735689600 none idleSession (by decide +kernel)

-- A token created in 2025 for 70000000 hours, which end in the year 10010.
def distantToken : List SessionLabel := [.createToken "5f1c" 70000000, .validate (some "5f1c")]

-- A token that was ended, also where it is issued again.
def NeverAgain (start : AuthDb) (past : List SessionLabel) (db : AuthDb) (label : SessionLabel) (_ : AuthDb) : Prop :=
  ∀ token tok before cause between, label = .validate token → presentedToken token = some tok →
    past = before ++ cause :: between → Ends start before cause tok → (authValidateToken db token true true).1 = false

def reissuedToken : List SessionLabel :=
  [.createToken "5f1c" 1, .revoke (some "5f1c"), .createToken "5f1c" 1, .validate (some "5f1c")]

theorem distant_refused_reissued_accepted :
    ¬Runs.EachStep AuthDb.step (.start 1735689600 none) distantToken (SessionsSound (.start 1735689600 none)) ∧
      ¬Runs.EachStep AuthDb.step (.start 1735689600 none) reissuedToken (NeverAgain (.start 1735689600 none)) := by
  constructor
  · intro sound
    have refused := Runs.each_step_final _ _ _ _ sound (distantToken.take 1) _ [] rfl (by decide +kernel)
    exact absurd (refused.validates (some "5f1c") rfl) (by decide +kernel)
  · intro never
    have refused := Runs.each_step_final _ _ _ _ never (reissuedToken.take 3) _ [] rfl (by decide +kernel)
    have presented : presentedToken (some "5f1c") = some "5f1c" := by decide +kernel
    have ended : Ends (.start 1735689600 none) (reissuedToken.take 1) (.revoke (some "5f1c")) "5f1c" :=
      Or.inl ⟨some "5f1c", rfl, presented⟩
    exact absurd (refused (some "5f1c") "5f1c" _ _ [.createToken "5f1c" 1] rfl presented rfl ended) (by decide +kernel)

end AiriesUps.Api
