import AiriesUps.Api.Auth
import AiriesUps.Lib.Runs
import AiriesUps.Lib.Tables
import Mathlib.Data.List.DropRight

set_option autoImplicit false

namespace AiriesUps.Api

-- The body of a request to /api/auth/setup, as far as it can be read.
inductive SetupBody where
  | absent
  | invalid
  | fields (password : Option String)
deriving DecidableEq, Repr

-- Where handle_auth_setup is between two database statements.
inductive SetupPc where
  | entered
  | checked
  | written
  | answered (status : Nat) (text : String)
deriving DecidableEq, Repr

-- hashed is what hash_password returns for the password of the request.
structure SetupRequest where
  body : SetupBody
  hashed : String
  pc : SetupPc
deriving DecidableEq, Repr

structure Setup where
  db : AuthDb
  requests : List SetupRequest

def Setup.start (db : AuthDb) : Setup := { db := db, requests := [] }

-- What the request gets when it is let through the check, before its write: the
-- password, or an error.
def setupPassword : SetupBody → Except (Nat × String) String
  | .absent => .error (400, "request body required")
  | .invalid => .error (400, "invalid JSON")
  | .fields none => .error (400, "password must be at least 4 characters")
  | .fields (some password) =>
    if password.utf8ByteSize < 4 then .error (400, "password must be at least 4 characters") else .ok password

def setupChecked (db : AuthDb) (body : SetupBody) (succeeds : Bool) : SetupPc :=
  if authIsSetup db succeeds then .answered 400 "admin password already set"
  else match setupPassword body with
    | .error (status, text) => .answered status text
    | .ok _ => .checked

def SetupRequest.goto (pc : SetupPc) (request : SetupRequest) : SetupRequest := { request with pc := pc }

def Setup.setPc (state : Setup) (index : Nat) (pc : SetupPc) : Setup :=
  { state with requests := state.requests.modify index (SetupRequest.goto pc) }

-- Each statement of a request is a step: the SELECT of auth_is_setup, the UPSERT of
-- auth_set_password and the INSERT of auth_event. failure is the text of the error.
inductive SetupLabel where
  | arrive (body : SetupBody) (hashed : String)
  | check (index : Nat) (succeeds : Bool)
  | upsert (index : Nat) (succeeds : Bool) (failure : String)
  | event (index : Nat)
deriving DecidableEq, Repr

def Setup.upsert (state : Setup) (index : Nat) (request : SetupRequest) (succeeds : Bool) (failure : String) : Setup :=
  match setupPassword request.body with
  | .error (status, text) => state.setPc index (.answered status text)
  | .ok password =>
    let written := authSetPassword state.db password request.hashed succeeds
    { state.setPc index (if written.1 then .written else .answered 500 failure) with db := written.2 }

def Setup.step : Runs.Step Setup SetupLabel
  | state, .arrive body hashed =>
    some { state with requests := state.requests ++ [{ body := body, hashed := hashed, pc := .entered }] }
  | state, .check index succeeds =>
    match state.requests[index]? with
    | some request =>
      if request.pc = .entered then some (state.setPc index (setupChecked state.db request.body succeeds)) else none
    | none => none
  | state, .upsert index succeeds failure =>
    match state.requests[index]? with
    | some request => if request.pc = .checked then some (state.upsert index request succeeds failure) else none
    | none => none
  | state, .event index =>
    match state.requests[index]? with
    | some request => if request.pc = .written then some (state.setPc index (.answered 200 "password set")) else none
    | none => none

def SetupPc.succeeded : SetupPc → Bool
  | .written => true
  | .answered status _ => status == 200
  | _ => false

def SetupRequest.succeeded (request : SetupRequest) : Bool := request.pc.succeeded

structure SetupSound (past : List SetupLabel) (state : Setup) (label : SetupLabel) (next : Setup) : Prop where
  one : next.requests.countP SetupRequest.succeeded ≤ 1
  kept : ∀ hashed, state.db.passwordHash = some hashed → next.db.passwordHash = some hashed
  inForce : ∀ request ∈ next.requests, request.succeeded = true → next.db.passwordHash = some request.hashed

def SetupLabel.writes : SetupLabel → Bool
  | .upsert _ succeeds _ => succeeds
  | _ => false

def SetupLabel.checks (index : Nat) : SetupLabel → Bool
  | .check other _ => other == index
  | _ => false

def sinceCheck (index : Nat) (past : List SetupLabel) : List SetupLabel :=
  past.rtakeWhile fun label => !label.checks index

-- Between the check of a request and its UPSERT no other UPSERT takes effect.
def Unraced (past : List SetupLabel) (label : SetupLabel) : Prop :=
  ∀ index failure, label = .upsert index true failure → ∀ earlier ∈ sinceCheck index past, earlier.writes = false

-- The UPSERT of a request finds no password.
def StillUnset (state : Setup) (label : SetupLabel) : Prop :=
  ∀ index failure, label = .upsert index true failure → state.db.passwordHash = none

-- What holds of every run from a password, or from none.
structure Tracked (initial : Option String) (state : Setup) : Prop where
  readable : ∀ request ∈ state.requests, request.pc = .checked → ∃ password, setupPassword request.body = .ok password
  closed : initial.isSome = true → state.db.passwordHash.isSome = true ∧
    ∀ request ∈ state.requests, request.pc ≠ .checked
  counted : state.db.passwordHash.isSome = true →
    initial.isSome = true ∨ 0 < state.requests.countP SetupRequest.succeeded

-- Everything a step can do: a request arrives, or answers or goes on without a write, or
-- writes its password.
inductive SetupStep (state : Setup) (label : SetupLabel) : Setup → Prop where
  | arrived (body : SetupBody) (hashed : String) (unchecking : ∀ index, label.checks index = false)
    (silent : ∀ index failure, label ≠ .upsert index true failure) :
    SetupStep state label { state with requests := state.requests ++ [{ body := body, hashed := hashed, pc := .entered }] }
  | moved (index : Nat) (request : SetupRequest) (pc : SetupPc) (found : state.requests[index]? = some request)
    (same : pc.succeeded = request.succeeded) (own : ∀ other, label.checks other = true → other = index)
    (passed : pc = .checked → label.checks index = true ∧ state.db.passwordHash = none ∧
      ∃ password, setupPassword request.body = .ok password)
    (silent : ∀ index failure, label ≠ .upsert index true failure) : SetupStep state label (state.setPc index pc)
  | wrote (index : Nat) (request : SetupRequest) (failure : String) (found : state.requests[index]? = some request)
    (checked : request.pc = .checked) (same : label = .upsert index true failure) :
    SetupStep state label
      { state.setPc index .written with db := { state.db with passwordHash := some request.hashed } }

theorem setup_password_long (body : SetupBody) (password : String) (readable : setupPassword body = .ok password) :
    authMinPasswordLen ≤ password.utf8ByteSize := by
  cases body with
  | absent => cases readable
  | invalid => cases readable
  | fields given =>
    cases given with
    | none => cases readable
    | some text =>
      rw [setupPassword] at readable
      split at readable
      · cases readable
      · cases readable
        exact Nat.not_lt.mp ‹_›

theorem set_up_false (db : AuthDb) (succeeds : Bool) (unset : authIsSetup db succeeds = false) : db.passwordHash = none := by
  cases succeeds with
  | false => cases unset
  | true => exact Option.isNone_iff_eq_none.mp (Option.isSome_eq_false_iff.mp unset)

theorem setup_checked_pc (db : AuthDb) (body : SetupBody) (succeeds : Bool) :
    (setupChecked db body succeeds).succeeded = false ∧
      (setupChecked db body succeeds = .checked →
        db.passwordHash = none ∧ ∃ password, setupPassword body = .ok password) := by
  rw [setupChecked]
  cases setup : authIsSetup db succeeds with
  | true => exact ⟨rfl, fun wrong => by cases wrong⟩
  | false =>
    cases read : setupPassword body with
    | ok password => exact ⟨rfl, fun _ => ⟨set_up_false db succeeds setup, password, rfl⟩⟩
    | error answer =>
      have refused : answer.1 = 400 := by
        cases body with
        | absent => cases read; rfl
        | invalid => cases read; rfl
        | fields given =>
          cases given with
          | none => cases read; rfl
          | some text =>
            rw [setupPassword] at read
            split at read
            · cases read; rfl
            · cases read
      obtain ⟨status, text⟩ := answer
      subst refused
      exact ⟨rfl, fun wrong => by cases wrong⟩

theorem setup_step_cases (initial : Option String) (state next : Setup) (label : SetupLabel)
    (tracked : Tracked initial state) (taken : state.step label = some next) : SetupStep state label next := by
  cases label with
  | arrive body hashed =>
    cases taken
    exact .arrived body hashed (fun _ => rfl) fun _ _ wrong => by cases wrong
  | check index succeeds =>
    rw [Setup.step] at taken
    cases found : state.requests[index]? with
    | none =>
      rw [found] at taken
      cases taken
    | some request =>
      simp only [found, Option.ite_none_right_eq_some, Option.some.injEq] at taken
      obtain ⟨entered, rfl⟩ := taken
      obtain ⟨unsuccessful, passed⟩ := setup_checked_pc state.db request.body succeeds
      refine .moved index request _ found ?_ (fun other checks => (eq_of_beq checks).symm)
        (fun pc => ⟨beq_self_eq_true index, passed pc⟩) fun _ _ wrong => by cases wrong
      rw [unsuccessful, SetupRequest.succeeded, entered]
      rfl
  | upsert index succeeds failure =>
    rw [Setup.step] at taken
    cases found : state.requests[index]? with
    | none =>
      rw [found] at taken
      cases taken
    | some request =>
      simp only [found, Option.ite_none_right_eq_some, Option.some.injEq] at taken
      obtain ⟨checked, rfl⟩ := taken
      obtain ⟨password, read⟩ := tracked.readable request (List.mem_of_getElem? found) checked
      have long := Nat.not_lt.mpr (setup_password_long request.body password read)
      rw [Setup.upsert, read]
      dsimp only
      rw [authSetPassword, if_neg long]
      cases succeeds with
      | true => exact .wrote index request failure found checked rfl
      | false =>
        refine .moved index request (.answered 500 failure) found ?_ (fun _ checks => by cases checks)
          (fun wrong => by cases wrong) fun _ _ wrong => by cases wrong
        rw [SetupRequest.succeeded, checked]
        rfl
  | event index =>
    rw [Setup.step] at taken
    cases found : state.requests[index]? with
    | none =>
      rw [found] at taken
      cases taken
    | some request =>
      simp only [found, Option.ite_none_right_eq_some, Option.some.injEq] at taken
      obtain ⟨written, rfl⟩ := taken
      refine .moved index request _ found ?_ (fun _ checks => by cases checks) (fun wrong => by cases wrong)
        fun _ _ wrong => by cases wrong
      rw [SetupRequest.succeeded, written]
      rfl

theorem moved_count (state : Setup) (index : Nat) (request : SetupRequest) (pc : SetupPc)
    (found : state.requests[index]? = some request) :
    (state.setPc index pc).requests.countP SetupRequest.succeeded + request.succeeded.toNat =
      state.requests.countP SetupRequest.succeeded + pc.succeeded.toNat :=
  Tables.count_modify SetupRequest.succeeded (SetupRequest.goto pc) state.requests index request found

-- The write is what makes a request that passed the check succeed.
theorem written_count (state : Setup) (index : Nat) (request : SetupRequest) (found : state.requests[index]? = some request)
    (checked : request.pc = .checked) :
    (state.setPc index .written).requests.countP SetupRequest.succeeded =
      state.requests.countP SetupRequest.succeeded + 1 := by
  have count := moved_count state index request .written found
  have before : request.succeeded = false := by rw [SetupRequest.succeeded, checked]; rfl
  rw [before, Bool.toNat_false] at count
  exact count

theorem tracked_step (initial : Option String) (state next : Setup) (label : SetupLabel) (tracked : Tracked initial state)
    (taken : state.step label = some next) : Tracked initial next := by
  have outcome := setup_step_cases initial state next label tracked taken
  cases outcome with
  | arrived body hashed unchecking silent =>
    refine ⟨?_, ?_, ?_⟩
    · intro request member checked
      rcases List.mem_append.mp member with old | new
      · exact tracked.readable request old checked
      · rw [List.mem_singleton.mp new] at checked
        cases checked
    · intro set
      refine ⟨(tracked.closed set).1, fun request member checked => ?_⟩
      rcases List.mem_append.mp member with old | new
      · exact (tracked.closed set).2 request old checked
      · rw [List.mem_singleton.mp new] at checked
        cases checked
    · intro set
      refine (tracked.counted set).imp_right fun counted => ?_
      rw [Tables.count_append]
      omega
  | moved index request pc found same own passed silent =>
    refine ⟨?_, ?_, ?_⟩
    · intro changed member checked
      rcases Tables.changed_member state.requests index _ _ changed found member with rfl | old
      · exact (passed checked).2.2
      · exact tracked.readable changed old checked
    · intro set
      refine ⟨(tracked.closed set).1, fun changed member checked => ?_⟩
      rcases Tables.modify_member state.requests index _ changed member with ⟨before, original, rfl⟩ | old
      · have inForce := (tracked.closed set).1
        rw [(passed checked).2.1] at inForce
        cases inForce
      · exact (tracked.closed set).2 changed old checked
    · intro set
      refine (tracked.counted set).imp_right fun counted => ?_
      have count := moved_count state index request pc found
      rw [same] at count
      omega
  | wrote index request failure found checked same =>
    refine ⟨?_, ?_, ?_⟩
    · intro changed member again
      rcases Tables.modify_member state.requests index _ changed member with ⟨before, _, rfl⟩ | old
      · cases again
      · exact tracked.readable changed old again
    · intro set
      exact absurd checked ((tracked.closed set).2 request (List.mem_of_getElem? found))
    · intro _
      right
      change 0 < (state.setPc index .written).requests.countP SetupRequest.succeeded
      rw [written_count state index request found checked]
      exact Nat.succ_pos _

-- What the runs keep in which every UPSERT finds no password.
structure SetupHeld (state : Setup) : Prop where
  one : state.requests.countP SetupRequest.succeeded ≤ 1
  unset : state.db.passwordHash = none → state.requests.countP SetupRequest.succeeded = 0
  inForce : ∀ request ∈ state.requests, request.succeeded = true → state.db.passwordHash = some request.hashed

theorem held_step (initial : Option String) (state next : Setup) (label : SetupLabel) (tracked : Tracked initial state)
    (held : SetupHeld state) (still : StillUnset state label) (taken : state.step label = some next) :
    SetupHeld next ∧ ∀ hashed, state.db.passwordHash = some hashed → next.db.passwordHash = some hashed := by
  have outcome := setup_step_cases initial state next label tracked taken
  cases outcome with
  | arrived body hashed unchecking silent =>
    have count := Tables.count_append SetupRequest.succeeded state.requests ⟨body, hashed, .entered⟩
    change _ = state.requests.countP SetupRequest.succeeded at count
    refine ⟨⟨?_, ?_, ?_⟩, fun _ same => same⟩
    · rw [count]
      exact held.one
    · rw [count]
      exact held.unset
    · intro request member succeeded
      rcases List.mem_append.mp member with old | new
      · exact held.inForce request old succeeded
      · rw [List.mem_singleton.mp new] at succeeded
        cases succeeded
  | moved index request pc found same own passed silent =>
    have count := moved_count state index request pc found
    rw [same, Nat.add_right_cancel_iff] at count
    refine ⟨⟨?_, ?_, ?_⟩, fun _ same => same⟩
    · rw [count]
      exact held.one
    · rw [count]
      exact held.unset
    · intro changed member succeeded
      rcases Tables.changed_member state.requests index _ _ changed found member with rfl | old
      · exact held.inForce request (List.mem_of_getElem? found) (same.symm.trans succeeded)
      · exact held.inForce changed old succeeded
  | wrote index request failure found checked same =>
    have unset := still index failure same
    have none := held.unset unset
    have count := written_count state index request found checked
    rw [none] at count
    refine ⟨⟨Nat.le_of_eq count, (fun wrong => by cases wrong), ?_⟩, (fun hashed set => by cases unset.symm.trans set)⟩
    intro changed member succeeded
    rcases Tables.changed_member state.requests index _ _ changed found member with rfl | old
    · rfl
    · exact absurd succeeded (List.countP_eq_zero.mp none changed old)

-- A second password counts as a second success.
theorem overwrite_shows (initial : Option String) (past : List SetupLabel) (state next : Setup) (label : SetupLabel)
    (tracked : Tracked initial state) (sound : SetupSound past state label next) (taken : state.step label = some next) :
    StillUnset state label := by
  intro index failure same
  have outcome := setup_step_cases initial state next label tracked taken
  cases outcome with
  | arrived body hashed unchecking silent => exact absurd same (silent index failure)
  | moved moved request pc found unchanged own passed silent => exact absurd same (silent index failure)
  | wrote written request text found checked other =>
    cases set : state.db.passwordHash with
    | none => rfl
    | some hashed =>
      have present : state.db.passwordHash.isSome = true := by rw [set]; rfl
      have one : (state.setPc written .written).requests.countP SetupRequest.succeeded ≤ 1 := sound.one
      rw [written_count state written request found checked] at one
      rcases tracked.counted present with closed | succeeded
      · exact absurd checked ((tracked.closed closed).2 request (List.mem_of_getElem? found))
      · omega

theorem start_tracked (db : AuthDb) : Tracked db.passwordHash (.start db) :=
  ⟨fun _ member => (by cases member), fun set => ⟨set, fun _ member => (by cases member)⟩, fun set => Or.inl set⟩

theorem start_held (db : AuthDb) : SetupHeld (.start db) :=
  ⟨Nat.zero_le 1, fun _ => rfl, fun _ member => (by cases member)⟩

-- A request that has passed the check finds no password as long as nothing was written since.
def RaceSeen (past : List SetupLabel) (state : Setup) : Prop :=
  ∀ (index : Nat) (request : SetupRequest), state.requests[index]? = some request → request.pc = .checked →
    (state.db.passwordHash = none ↔ ∀ earlier ∈ sinceCheck index past, earlier.writes = false)

theorem since_check_concat (index : Nat) (past : List SetupLabel) (label : SetupLabel) :
    sinceCheck index (past ++ [label]) = if label.checks index then [] else sinceCheck index past ++ [label] := by
  rw [sinceCheck, List.rtakeWhile_concat]
  cases label.checks index <;> rfl

theorem silent_writes (label : SetupLabel) (silent : ∀ index failure, label ≠ .upsert index true failure) :
    label.writes = false := by
  cases label with
  | upsert index succeeds failure =>
    cases succeeds with
    | false => rfl
    | true => exact absurd rfl (silent index failure)
  | _ => rfl

theorem written_since_iff (index : Nat) (past : List SetupLabel) (label : SetupLabel) (other : label.checks index = false) :
    (∀ earlier ∈ sinceCheck index (past ++ [label]), earlier.writes = false) ↔
      (∀ earlier ∈ sinceCheck index past, earlier.writes = false) ∧ label.writes = false := by
  rw [since_check_concat, other, if_neg Bool.false_ne_true, List.forall_mem_append, List.forall_mem_singleton]

theorem race_seen_step (initial : Option String) (past : List SetupLabel) (state next : Setup) (label : SetupLabel)
    (tracked : Tracked initial state) (seen : RaceSeen past state) (taken : state.step label = some next) :
    RaceSeen (past ++ [label]) next := by
  have outcome := setup_step_cases initial state next label tracked taken
  intro index request found checked
  cases outcome with
  | arrived body hashed unchecking silent =>
    rw [written_since_iff index past label (unchecking index), silent_writes label silent, and_iff_left rfl]
    rcases Tables.append_found state.requests _ request index found with old | ⟨_, rfl⟩
    · exact seen index request old checked
    · cases checked
  | moved position changed pc before same own passed silent =>
    rcases Tables.modify_found state.requests position index _ request found with ⟨rfl, _, _, rfl⟩ | ⟨elsewhere, kept⟩
    · obtain ⟨checks, unset, _⟩ := passed checked
      rw [since_check_concat, checks, if_pos rfl]
      exact iff_of_true unset fun earlier member => by cases member
    · have other : label.checks index = false := by
        cases checks : label.checks index with
        | false => rfl
        | true => exact absurd (own index checks) elsewhere
      rw [written_since_iff index past label other, silent_writes label silent, and_iff_left rfl]
      exact seen index request kept checked
  | wrote position changed failure before other same =>
    have written : label.writes = true := by rw [same]; rfl
    have unchecking : label.checks index = false := by rw [same]; rfl
    rw [written_since_iff index past label unchecking, written]
    exact iff_of_false (fun unset => by cases unset) fun both => by cases both.2

theorem still_unset_iff (initial : Option String) (past : List SetupLabel) (state next : Setup) (label : SetupLabel)
    (tracked : Tracked initial state) (seen : RaceSeen past state) (taken : state.step label = some next) :
    StillUnset state label ↔ Unraced past label := by
  have outcome := setup_step_cases initial state next label tracked taken
  cases outcome with
  | arrived body hashed unchecking silent =>
    exact ⟨fun _ index failure same => absurd same (silent index failure),
      fun _ index failure same => absurd same (silent index failure)⟩
  | moved position request pc found unchanged own passed silent =>
    exact ⟨fun _ index failure same => absurd same (silent index failure),
      fun _ index failure same => absurd same (silent index failure)⟩
  | wrote position request text found checked other =>
    have own := seen position request found checked
    constructor
    · rintro unset index failure same
      cases other.symm.trans same
      exact own.mp (unset position text other)
    · rintro unraced index failure same
      exact own.mpr (unraced position text other)

theorem setup_held_iff (db : AuthDb) (labels : List SetupLabel) :
    Runs.EachStep Setup.step (.start db) labels SetupSound ↔
      Runs.EachStep Setup.step (.start db) labels fun _ state label _ => StillUnset state label := by
  constructor
  · refine Runs.each_step_imp Setup.step _ _ _ (fun _ state => Tracked db.passwordHash state) (start_tracked db) ?_ ?_ labels
    · exact fun _ state label next tracked _ taken => tracked_step db.passwordHash state next label tracked taken
    · exact fun past state label next tracked sound taken =>
        overwrite_shows db.passwordHash past state next label tracked sound taken
  · refine Runs.each_step_imp Setup.step _ _ _ (fun _ state => Tracked db.passwordHash state ∧ SetupHeld state)
      ⟨start_tracked db, start_held db⟩ ?_ ?_ labels
    · exact fun _ state label next both still taken =>
        ⟨tracked_step db.passwordHash state next label both.1 taken,
          (held_step db.passwordHash state next label both.1 both.2 still taken).1⟩
    · intro _ state label next both still taken
      obtain ⟨held, kept⟩ := held_step db.passwordHash state next label both.1 both.2 still taken
      exact ⟨held.one, kept, held.inForce⟩

theorem setup_once_iff (db : AuthDb) (labels : List SetupLabel) :
    Runs.EachStep Setup.step (.start db) labels SetupSound ↔
      Runs.EachStep Setup.step (.start db) labels fun past _ label _ => Unraced past label := by
  have steps : ∀ past state label next, Tracked db.passwordHash state ∧ RaceSeen past state →
      state.step label = some next → Tracked db.passwordHash next ∧ RaceSeen (past ++ [label]) next :=
    fun past state label next both taken => ⟨tracked_step db.passwordHash state next label both.1 taken,
      race_seen_step db.passwordHash past state next label both.1 both.2 taken⟩
  have start : Tracked db.passwordHash (.start db) ∧ RaceSeen [] (.start db) :=
    ⟨start_tracked db, fun _ _ found => by cases found⟩
  rw [setup_held_iff]
  constructor
  · refine Runs.each_step_imp Setup.step _ _ _ (fun past state => Tracked db.passwordHash state ∧ RaceSeen past state) start
      (fun past state label next both _ taken => steps past state label next both taken) ?_ labels
    exact fun past state label next both unset taken =>
      (still_unset_iff db.passwordHash past state next label both.1 both.2 taken).mp unset
  · refine Runs.each_step_imp Setup.step _ _ _ (fun past state => Tracked db.passwordHash state ∧ RaceSeen past state) start
      (fun past state label next both _ taken => steps past state label next both taken) ?_ labels
    exact fun past state label next both unraced taken =>
      (still_unset_iff db.passwordHash past state next label both.1 both.2 taken).mpr unraced

def unconfigured : AuthDb := { clock := 1735689600, passwordHash := none, sessions := fun _ => none }

-- Both requests pass the check before either writes.
def racingSetups : List SetupLabel :=
  [.arrive (.fields (some "first")) "$pbkdf2$100000$00$01", .arrive (.fields (some "second")) "$pbkdf2$100000$00$02",
    .check 0 true, .check 1 true, .upsert 0 true "", .event 0, .upsert 1 true "", .event 1]

theorem racing_setups_both_succeed : ¬Runs.EachStep Setup.step (.start unconfigured) racingSetups SetupSound := by
  intro sound
  have second := Runs.each_step_final _ _ _ _ sound (racingSetups.take 6) _ [.event 1] rfl (by decide +kernel)
  exact absurd second.one (by decide +kernel)

end AiriesUps.Api
