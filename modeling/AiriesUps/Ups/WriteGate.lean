import AiriesUps.Ups.RegPointers

set_option autoImplicit false

namespace AiriesUps.Ups

open Hid (ConfigReg CfgMeta)

-- The values a descriptor accepts. A scalar with min = max = 0 declares no range.
def Acceptable (reg : ConfigReg) (value : BitVec 16) : Prop :=
  match reg.kind with
  | .scalar min max => (min = 0 ∧ max = 0) ∨ (min ≤ value.toNat ∧ (value.toNat : Int) ≤ max)
  | .bitfield options strict => strict = true → value.setWidth 32 ∈ options
  | .string _ => False
  | .flags _ => False

def isText (kind : CfgMeta) : Bool :=
  match kind with
  | .string _ | .flags _ => true
  | _ => false

-- The callers of ups_config_write: they look the register up, refuse one that is missing
-- or read-only, and pass the rest on.
inductive Caller where
  | api
  | shutdown
  | weather
deriving DecidableEq, Repr

-- meanwhile is what other threads do to the handle after the look-up.
def submitFound (ups : Handle) (name : String) (value : BitVec 16) (meanwhile : Meanwhile) (answers : Answers)
    (missing readOnly : Int) : Handle × Int :=
  match upsFindConfigReg ups name with
  | none => (meanwhile.locked ups, missing)
  | some pointer =>
    if !(ups.deref meanwhile.stale pointer).writable then (meanwhile.locked ups, readOnly)
    else
      configWriteSeen (meanwhile.locked ups) ((meanwhile.checked ups).deref meanwhile.stale pointer) pointer value answers

-- The two refusals are the HTTP status here, the row's ok below, and the return code last.
def handleConfigUpsSet (ups : Handle) (name : String) (value : BitVec 16) (meanwhile : Meanwhile) (answers : Answers) :
    Handle × Int :=
  submitFound ups name value meanwhile answers 404 400

def phase2RegisterWrite (ups : Handle) (name : String) (value : BitVec 16) (meanwhile : Meanwhile) (answers : Answers) :
    Handle × Int :=
  submitFound ups name value meanwhile answers 1 1

def weatherWriteParam (ups : Handle) (name : String) (value : BitVec 16) (meanwhile : Meanwhile) (answers : Answers) :
    Handle × Int :=
  submitFound ups name value meanwhile answers (-1) (-1)

def Caller.submit (caller : Caller) (ups : Handle) (name : String) (value : BitVec 16) (meanwhile : Meanwhile)
    (answers : Answers) : Handle × Int :=
  match caller with
  | .api => handleConfigUpsSet ups name value meanwhile answers
  | .shutdown => phase2RegisterWrite ups name value meanwhile answers
  | .weather => weatherWriteParam ups name value meanwhile answers

-- A write that ought to pass: the register exists, is writable and accepts the value.
def Permitted (ups : Handle) (name : String) (value : BitVec 16) : Prop :=
  ∃ reg, findDescriptor ups name = some reg ∧ reg.writable = true ∧ Acceptable reg value

-- locked is the handle as the call finds it inside the lock: what comes after is its own.
structure Gated (ups locked : Handle) (name : String) (value : BitVec 16) (result : Handle × Int) : Prop where
  invoked : ∃ more, result.1.calls = locked.calls ++ more ∧
    ∀ transport reg written rc, .configWrite transport reg written rc ∈ more →
      reg.writable = true ∧ Acceptable reg written
  refused : ¬Permitted ups name value → result.2 ≠ 0 ∧ result.1.calls = locked.calls

-- The transport is up, or the call will try to reconnect.
def ReachesOut (ups : Handle) (now : Int) : Prop :=
  ups.transport.isSome = true ∨ ups.transport = none ∧ reconnectDue ups now

-- What the driver reads through the pointer: after a reconnect of the call, whatever
-- ups_resolve_runtime has put there.
def Handle.given (ups : Handle) (pointer : RegPointer) (answers : Answers) : ConfigReg :=
  if ups.reconnects answers then (upsResolveRuntime ups ups.nextTransport answers).deref answers.refilled pointer
  else ups.deref answers.refilled pointer

-- The write gets past the checks, with what these read through the pointer, and out of
-- the daemon, although the register does not take the value or the driver reads at the
-- pointer a descriptor that does not.
def Leaks (ups : Handle) (name : String) (value : BitVec 16) (meanwhile : Meanwhile) (answers : Answers) : Prop :=
  ∃ reg pointer, findDescriptor ups name = some reg ∧ upsFindConfigReg ups name = some pointer ∧ reg.writable = true ∧
    configWriteRefusal ups.driver ((meanwhile.checked ups).deref meanwhile.stale pointer) value = none ∧
    ReachesOut (meanwhile.locked ups) answers.now ∧
    (¬Acceptable reg value ∨
      ((meanwhile.locked ups).transport.isSome = true ∨ (meanwhile.locked ups).reconnects answers = true) ∧
        ¬(((meanwhile.locked ups).given pointer answers).writable = true ∧
          Acceptable ((meanwhile.locked ups).given pointer answers) value))

-- ups_resolve_runtime does not run between the look-up and the driver's call.
def Meanwhile.Quiet (meanwhile : Meanwhile) (ups : Handle) (answers : Answers) : Prop :=
  (meanwhile.locked ups).resolutions = ups.resolutions ∧ (meanwhile.locked ups).reconnects answers = false

theorem validate_iff (reg : ConfigReg) (value : BitVec 16) :
    Hid.upsConfigValidate reg value = .ok ↔ Acceptable reg value ∨ isText reg.kind = true := by
  rw [Hid.upsConfigValidate, Acceptable]
  cases reg.kind with
  | scalar min max =>
    dsimp only [isText]
    by_cases open_ : min = 0 ∧ max = 0
    · simp [open_]
    · rw [if_neg open_]
      by_cases outside : (value.toNat : Int) < min ∨ max < value.toNat
      · rw [if_pos outside]
        constructor
        · intro wrong
          cases wrong
        · rintro ((both | ⟨low, high⟩) | wrong)
          · exact absurd both open_
          · omega
          · cases wrong
      · rw [if_neg outside]
        exact iff_of_true rfl (Or.inl (Or.inr (by omega)))
  | bitfield options strict =>
    dsimp only [isText]
    cases strict with
    | false => simp
    | true => simp
  | string maxChars => simp [isText]
  | flags options => simp [isText]

theorem text_not_acceptable (reg : ConfigReg) (value : BitVec 16) (text : isText reg.kind = true) :
    ¬Acceptable reg value := by
  rw [Acceptable]
  cases kind : reg.kind with
  | string maxChars => exact id
  | flags options => exact id
  | scalar min max =>
    rw [kind] at text
    cases text
  | bitfield options strict =>
    rw [kind] at text
    cases text

theorem resolve_deref (ups other : Handle) (transport : Nat) (answers : Answers) (driver : other.driver = ups.driver)
    (table : other.table = ups.table) (resolutions : other.resolutions = ups.resolutions) (refilled : ConfigReg)
    (pointer : RegPointer) :
    (upsResolveRuntime other transport answers).deref refilled pointer =
      (upsResolveRuntime ups transport answers).deref refilled pointer := by
  apply deref_congr
  · rw [upsResolveRuntime, upsResolveRuntime, driver, table]
    split
    · dsimp only
      split <;> rfl
    · rfl
  · rw [upsResolveRuntime, upsResolveRuntime, driver]
    split
    · dsimp only
      split <;> rfl
    · rfl
  · rw [(resolve_runtime_later other transport answers).1, (resolve_runtime_later ups transport answers).1, resolutions]

theorem passed_given (ups : Handle) (pointer : RegPointer) (answers : Answers) :
    ups.passed pointer answers = ups.given pointer answers := by
  rw [Handle.passed, Handle.given]
  cases reconnects : ups.reconnects answers with
  | false =>
    rw [if_neg Bool.false_ne_true]
    exact (ensure_keeps ups answers reconnects).1.deref answers.refilled pointer
  | true =>
    obtain ⟨found, same, adopts⟩ := ensure_adopts ups answers reconnects
    rw [if_pos rfl, adopts]
    have refreshed := refresh_inventory_regs (upsResolveRuntime (attached found ups.nextTransport) ups.nextTransport answers)
      ups.nextTransport answers.inventoryRc
    exact (refreshed.deref answers.refilled pointer).trans
      (resolve_deref ups (attached found ups.nextTransport) ups.nextTransport answers same.driver same.table
        same.resolutions answers.refilled pointer)

theorem gated_unchanged (ups locked : Handle) (name : String) (value : BitVec 16) (code : Int) (error : code ≠ 0) :
    Gated ups locked name value (locked, code) := by
  constructor
  · refine ⟨[], (List.append_nil _).symm, ?_⟩
    intro _ _ _ _ member
    cases member
  · exact fun _ => ⟨error, rfl⟩

theorem gated_writes (ups locked : Handle) (name : String) (value : BitVec 16) (result : Handle × Int)
    (gated : Gated ups locked name value result) (transport : Nat) (reg : ConfigReg) (written : BitVec 16) (rc : Int)
    (own : .configWrite transport reg written rc ∈ result.1.calls.drop locked.calls.length) :
    reg.writable = true ∧ Acceptable reg written := by
  obtain ⟨more, calls, sound⟩ := gated.invoked
  rw [calls, List.drop_left] at own
  exact sound transport reg written rc own

-- The only write a dispatched config_write makes is the one it was asked for.
theorem dispatched_write (ups : Handle) (reg : ConfigReg) (value : BitVec 16) (answers : Answers) :
    Adds (fun call => ∀ transport other written rc, call = .configWrite transport other written rc →
      other = reg ∧ written = value) ups
      (dispatch ups true (fun transport rc => .configWrite transport reg value rc) false answers).1 := by
  have silent : ∀ call : Call, call.isConnection = true → ∀ transport other written rc,
      call = .configWrite transport other written rc → other = reg ∧ written = value := by
    rintro call connection transport other written rc rfl
    cases connection
  apply adds_trans _ _ _ _ (adds_mono _ _ _ _ silent (ensure_adds ups answers))
  apply dispatch_adds _ ups _ false answers silent
  intro transport rc other target written code same
  cases same
  exact ⟨rfl, rfl⟩

theorem dispatch_called (ups : Handle) (call : Nat → Int → Call) (answers : Answers) (transport : Nat)
    (up : (upsEnsureTransport ups answers).transport = some transport) :
    (dispatch ups true call false answers).1 = (upsEnsureTransport ups answers).record (call transport answers.rc) := by
  rw [dispatch, Bool.not_true, if_neg Bool.false_ne_true]
  dsimp only
  rw [up]
  rfl

theorem dispatch_connects (ups : Handle) (call : Nat → Int → Call) (answers : Answers)
    (down : (upsEnsureTransport ups answers).transport = none) :
    dispatch ups true call false answers = (upsEnsureTransport ups answers, upsErrIo) := by
  rw [dispatch, Bool.not_true, if_neg Bool.false_ne_true]
  dsimp only
  rw [down]

-- With the transport up, or a reconnect due, a dispatched call leaves a trace.
theorem dispatch_reaches (ups : Handle) (call : Nat → Int → Call) (answers : Answers)
    (reaches : ReachesOut ups answers.now) :
    (dispatch ups true call false answers).1.calls ≠ ups.calls := by
  rcases reaches with up | ⟨down, due⟩
  · obtain ⟨transport, current⟩ := Option.isSome_iff_exists.mp up
    have ensured : upsEnsureTransport ups answers = ups := by
      rw [upsEnsureTransport, current]
      exact if_neg Bool.false_ne_true
    rw [dispatch_called ups call answers transport (by rw [ensured, current]), ensured]
    intro same
    exact absurd (List.append_right_eq_self.mp same) (List.cons_ne_nil _ _)
  · have attempts : Adds (fun _ => True) (tried ups answers.now) (upsEnsureTransport ups answers) :=
      adds_mono _ _ _ _ (fun _ _ => trivial) (ensure_attempts ups answers down due)
    obtain ⟨more, calls, _⟩ := adds_trans _ _ _ _ attempts
      (dispatch_adds _ ups call false answers (fun _ _ => trivial) (fun _ _ => trivial))
    rw [calls]
    intro same
    have nothing := List.append_right_eq_self.mp ((List.append_assoc _ _ _).symm.trans same)
    cases nothing

theorem dispatch_unreached (ups : Handle) (call : Nat → Int → Call) (answers : Answers)
    (unreached : ¬ReachesOut ups answers.now) : dispatch ups true call false answers = (ups, upsErrIo) := by
  obtain ⟨down, early⟩ := not_or.mp unreached
  rw [Option.not_isSome_iff_eq_none] at down
  have ensured : upsEnsureTransport ups answers = ups := by
    have ensuring := ensure_transport_cases ups answers
    generalize upsEnsureTransport ups answers = next at ensuring ⊢
    cases ensuring with
    | kept _ => rfl
    | waiting _ _ => rfl
    | refused _ due => exact absurd ⟨down, due⟩ early
    | rejected _ due => exact absurd ⟨down, due⟩ early
    | adopted _ due _ _ => exact absurd ⟨down, due⟩ early
  rw [dispatch_connects ups call answers (by rw [ensured, down]), ensured]

-- Past the checks, what matters is whether the call gets out, and what the driver is given.
theorem dispatched_gated_iff (ups locked : Handle) (name : String) (reg given : ConfigReg) (value : BitVec 16)
    (answers : Answers) (found : findDescriptor ups name = some reg) (writable : reg.writable = true) :
    Gated ups locked name value
        (dispatch locked true (fun transport rc => .configWrite transport given value rc) false answers) ↔
      ¬(ReachesOut locked answers.now ∧
        (¬Acceptable reg value ∨
          (locked.transport.isSome = true ∨ locked.reconnects answers = true) ∧
            ¬(given.writable = true ∧ Acceptable given value))) := by
  have permitted : Permitted ups name value ↔ Acceptable reg value := by
    constructor
    · rintro ⟨other, same, _, accepts⟩
      cases found.symm.trans same
      exact accepts
    · exact fun accepts => ⟨reg, found, writable, accepts⟩
  by_cases reaches : ReachesOut locked answers.now
  · constructor
    · rintro gated ⟨_, unacceptable | ⟨called, unsound⟩⟩
      · exact dispatch_reaches locked _ answers reaches (gated.refused (mt permitted.mp unacceptable)).2
      · have up : (upsEnsureTransport locked answers).transport.isSome = true := by
          rw [ensure_up, Bool.or_eq_true]
          exact called
        obtain ⟨transport, current⟩ := Option.isSome_iff_exists.mp up
        obtain ⟨earlier, ensured, connection⟩ := ensure_adds locked answers
        obtain ⟨more, calls, sound⟩ := gated.invoked
        rw [dispatch_called locked _ answers transport current, record_calls, ensured, List.append_assoc] at calls
        have own := List.append_cancel_left calls
        exact unsound (sound transport given value answers.rc (own ▸ List.mem_append_right _ (List.mem_singleton_self _)))
    · intro fine
      obtain ⟨accepts, kept⟩ := not_or.mp (not_and.mp fine reaches)
      obtain ⟨more, calls, writes⟩ := dispatched_write locked given value answers
      refine ⟨⟨more, calls, ?_⟩, fun refused => absurd (permitted.mpr (not_not.mp accepts)) refused⟩
      intro transport other written rc member
      obtain ⟨rfl, rfl⟩ := writes _ member transport other written rc rfl
      by_contra unsound
      apply kept
      refine ⟨?_, unsound⟩
      rw [← Bool.or_eq_true, ← ensure_up]
      by_contra down
      rw [Option.not_isSome_iff_eq_none] at down
      obtain ⟨earlier, ensured, connection⟩ := ensure_adds locked answers
      rw [dispatch_connects locked _ answers down, ensured] at calls
      rw [← List.append_cancel_left calls] at member
      exact absurd (connection _ member) (by simp [Call.isConnection])
  · rw [dispatch_unreached locked _ answers reaches]
    exact iff_of_true (gated_unchanged ups locked name value upsErrIo (by decide)) fun leak => reaches leak.1

theorem refusal_error (driver : UpsDriver) (reg : ConfigReg) (value : BitVec 16) (code : Int)
    (refused : configWriteRefusal driver reg value = some code) : code ≠ 0 := by
  rw [configWriteRefusal] at refused
  split at refused
  · cases refused
    decide
  split at refused
  · cases refused
    decide
  split at refused
  · cases refused
    decide
  · cases refused

theorem submit_found_gated_iff (ups : Handle) (name : String) (value : BitVec 16) (meanwhile : Meanwhile)
    (answers : Answers) (missing readOnly : Int) (missingError : missing ≠ 0) (readOnlyError : readOnly ≠ 0) :
    Gated ups (meanwhile.locked ups) name value (submitFound ups name value meanwhile answers missing readOnly) ↔
      ¬Leaks ups name value meanwhile answers := by
  rw [submitFound]
  cases found : upsFindConfigReg ups name with
  | none =>
    apply iff_of_true (gated_unchanged ups _ name value missing missingError)
    rintro ⟨_, _, _, wrong, _⟩
    cases found.symm.trans wrong
  | some pointer =>
    have points := find_points ups name pointer meanwhile.stale found
    have only : ∀ other pointed, findDescriptor ups name = some other → upsFindConfigReg ups name = some pointed →
        other = ups.deref meanwhile.stale pointer ∧ pointed = pointer := fun other pointed same fetched =>
      ⟨Option.some.inj (same.symm.trans points), Option.some.inj (fetched.symm.trans found)⟩
    dsimp only
    cases writable : (ups.deref meanwhile.stale pointer).writable with
    | false =>
      apply iff_of_true (gated_unchanged ups _ name value readOnly readOnlyError)
      rintro ⟨other, pointed, same, fetched, wrong, _⟩
      obtain ⟨rfl, rfl⟩ := only other pointed same fetched
      exact absurd wrong (by simp [writable])
    | true =>
      have driver := (locked_later ups meanwhile).driver
      rw [Bool.not_true, if_neg Bool.false_ne_true, configWriteSeen, driver]
      cases refused : configWriteRefusal ups.driver ((meanwhile.checked ups).deref meanwhile.stale pointer) value with
      | some code =>
        apply iff_of_true (gated_unchanged ups _ name value code (refusal_error _ _ _ _ refused))
        rintro ⟨other, pointed, same, fetched, _, passes, _⟩
        obtain ⟨rfl, rfl⟩ := only other pointed same fetched
        cases refused.symm.trans passes
      | none =>
        dsimp only
        rw [passed_given]
        refine (dispatched_gated_iff ups _ name _ _ value answers points writable).trans (not_congr ?_)
        constructor
        · exact fun leak => ⟨_, pointer, points, found, writable, refused, leak⟩
        · rintro ⟨other, pointed, same, fetched, _, _, leak⟩
          obtain ⟨rfl, rfl⟩ := only other pointed same fetched
          exact leak

-- For each of the callers, whatever other threads do between the look-up and the lock.
theorem config_write_gated_iff (caller : Caller) (ups : Handle) (name : String) (value : BitVec 16)
    (meanwhile : Meanwhile) (answers : Answers) :
    Gated ups (meanwhile.locked ups) name value (caller.submit ups name value meanwhile answers) ↔
      ¬Leaks ups name value meanwhile answers := by
  cases caller with
  | api => exact submit_found_gated_iff ups name value meanwhile answers 404 400 (by decide) (by decide)
  | shutdown => exact submit_found_gated_iff ups name value meanwhile answers 1 1 (by decide) (by decide)
  | weather => exact submit_found_gated_iff ups name value meanwhile answers (-1) (-1) (by decide) (by decide)

theorem refusal_none (driver : UpsDriver) (reg : ConfigReg) (value : BitVec 16) :
    configWriteRefusal driver reg value = none ↔
      reg.writable = true ∧ driver.configWrite = true ∧ Hid.upsConfigValidate reg value = .ok := by
  rw [configWriteRefusal]
  cases reg.writable <;> cases driver.configWrite <;> simp

-- Undisturbed, only the writable strings and flags leak.
theorem quiet_leaks_iff (ups : Handle) (name : String) (value : BitVec 16) (meanwhile : Meanwhile) (answers : Answers)
    (quiet : meanwhile.Quiet ups answers) :
    Leaks ups name value meanwhile answers ↔
      ∃ reg, findDescriptor ups name = some reg ∧ reg.writable = true ∧ isText reg.kind = true ∧
        ups.driver.configWrite = true ∧ ReachesOut (meanwhile.locked ups) answers.now := by
  have later := locked_later ups meanwhile
  have checkedSame : (meanwhile.checked ups).resolutions = ups.resolutions :=
    le_antisymm ((after_later _ meanwhile.within).grows.trans_eq quiet.1) (after_later ups meanwhile.before).grows
  have seen := ((after_later ups meanwhile.before).same checkedSame).deref
  have given : ∀ pointer, (meanwhile.locked ups).given pointer answers = ups.deref answers.refilled pointer := by
    intro pointer
    rw [Handle.given, quiet.2, if_neg Bool.false_ne_true]
    exact (later.same quiet.1).deref answers.refilled pointer
  constructor
  · rintro ⟨reg, pointer, found, fetched, writable, passes, reaches, leak⟩
    have points := Option.some.inj (found.symm.trans (find_points ups name pointer meanwhile.stale fetched))
    rw [show (meanwhile.checked ups).deref meanwhile.stale pointer = reg from (seen _ _).trans points.symm] at passes
    obtain ⟨_, driver, valid⟩ := (refusal_none _ _ _).mp passes
    refine ⟨reg, found, writable, ?_, driver, reaches⟩
    rcases leak with unacceptable | ⟨_, unsound⟩
    · exact ((validate_iff reg value).mp valid).resolve_left unacceptable
    · rw [given, Option.some.inj ((find_points ups name pointer answers.refilled fetched).symm.trans found)] at unsound
      exact ((validate_iff reg value).mp valid).resolve_left fun accepts => unsound ⟨writable, accepts⟩
  · rintro ⟨reg, found, writable, text, driver, reaches⟩
    obtain ⟨pointer, fetched⟩ := find_pointer ups name reg found
    have points := Option.some.inj (found.symm.trans (find_points ups name pointer meanwhile.stale fetched))
    refine ⟨reg, pointer, found, fetched, writable, ?_, reaches, Or.inl (text_not_acceptable reg value text)⟩
    rw [show (meanwhile.checked ups).deref meanwhile.stale pointer = reg from (seen _ _).trans points.symm, refusal_none]
    exact ⟨writable, driver, (validate_iff reg value).mpr (Or.inr text)⟩

-- The names block of smt_config_regs: five writable strings of eight registers.
def smtNameReg (name : String) (address : BitVec 16) : ConfigReg :=
  { name := name, regAddr := address, kind := .string 16, writable := true }

def smtNamesBlock : List ConfigReg :=
  [smtNameReg "ups_name" 596, smtNameReg "mog_name" 604, smtNameReg "sog0_name" 612, smtNameReg "sog1_name" 620,
    smtNameReg "sog2_name" 628]

def smtProbe : Probe :=
  { driver := { serialDriver true with configRegs := some smtNamesBlock }, context := true, answers := answersAt 100 0 }

-- The transport is down: the write reconnects, and the block its pointer goes into now
-- holds a descriptor that cannot be written.
def replugAnswers : Answers :=
  { answersAt 200 0 with keeps := [.scalar "transfer_high" true], refilled := .scalar "nominal_va" false }

theorem api_write_reaches_ups_name :
    (∃ ups, (Handle.upsConnect .serial [smtProbe]).handle = some ups ∧
      ¬Gated ups ups "ups_name" 0x4142 (Caller.api.submit ups "ups_name" 0x4142 .none (answersAt 100 0))) ∧
    ∃ ups, (Handle.upsConnect .serial [narrowingProbe [.scalar "transfer_low" true]]).handle = some ups ∧
      ¬Gated (ups.after (failingReads 5 100)) (ups.after (failingReads 5 100)) "transfer_low" 100
        (Caller.api.submit (ups.after (failingReads 5 100)) "transfer_low" 100 .none replugAnswers) := by
  refine ⟨⟨_, rfl, ?_⟩, ⟨_, rfl, ?_⟩⟩
  · intro gated
    have forbidden := gated.refused (by
      rintro ⟨reg, found, _, accepts⟩
      cases found
      exact accepts)
    exact absurd forbidden.1 (by decide)
  · intro gated
    have sound := gated_writes _ _ _ _ _ gated 1 (.scalar "nominal_va" false) 100 0 (by decide)
    exact absurd sound.1 (by decide)

end AiriesUps.Ups
