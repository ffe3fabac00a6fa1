import AiriesUps.Ups.Handle

set_option autoImplicit false

namespace AiriesUps.Ups

-- The calls that carry out a request, as opposed to those that open and close transports.
def Call.isRequest : Call → Bool
  | .read _ _ _ | .command _ _ _ _ | .configRead _ _ _ | .configWrite _ _ _ _ => true
  | _ => false

-- What adopt calls after it has stored the transport.
def Call.isSetup : Call → Bool
  | .resolveConfigRegs _ _ | .read .inventory _ _ => true
  | _ => false

-- The outcome of a read that ups_handle_error counts.
def Call.counted? : Call → Option Bool
  | .read .status _ rc | .read .transferReason _ rc | .read .dynamic _ rc | .configRead _ _ rc => some (rc == 0)
  | _ => none

@[simp] theorem record_calls (ups : Handle) (call : Call) : (ups.record call).calls = ups.calls ++ [call] := rfl
@[simp] theorem record_transport (ups : Handle) (call : Call) : (ups.record call).transport = ups.transport := rfl
@[simp] theorem record_index (ups : Handle) (call : Call) : (ups.record call).index = ups.index := rfl
@[simp] theorem record_driver (ups : Handle) (call : Call) : (ups.record call).driver = ups.driver := rfl
@[simp] theorem record_resolved (ups : Handle) (call : Call) : (ups.record call).resolvedRegs = ups.resolvedRegs := rfl
@[simp] theorem record_errors (ups : Handle) (call : Call) :
    (ups.record call).consecutiveErrors = ups.consecutiveErrors := rfl
@[simp] theorem record_attempt (ups : Handle) (call : Call) :
    (ups.record call).lastReconnectAttempt = ups.lastReconnectAttempt := rfl
@[simp] theorem record_next (ups : Handle) (call : Call) : (ups.record call).nextTransport = ups.nextTransport := rfl

-- ups_resolve_runtime and the refresh of the inventory leave the connection alone.
structure SameConnection (before after : Handle) : Prop where
  index : after.index = before.index
  driver : after.driver = before.driver
  transport : after.transport = before.transport
  errors : after.consecutiveErrors = before.consecutiveErrors
  attempt : after.lastReconnectAttempt = before.lastReconnectAttempt
  next : after.nextTransport = before.nextTransport

theorem SameConnection.refl (ups : Handle) : SameConnection ups ups := ⟨rfl, rfl, rfl, rfl, rfl, rfl⟩

theorem SameConnection.trans {first second third : Handle} (one : SameConnection first second)
    (two : SameConnection second third) : SameConnection first third :=
  ⟨two.index.trans one.index, two.driver.trans one.driver, two.transport.trans one.transport,
    two.errors.trans one.errors, two.attempt.trans one.attempt, two.next.trans one.next⟩

-- The log grows by calls of one kind.
def Adds (allowed : Call → Prop) (before after : Handle) : Prop :=
  ∃ more, after.calls = before.calls ++ more ∧ ∀ call ∈ more, allowed call

theorem adds_nothing (allowed : Call → Prop) (before after : Handle) (same : after.calls = before.calls) :
    Adds allowed before after := by
  refine ⟨[], ?_, ?_⟩
  · rw [same, List.append_nil]
  · intro call member
    cases member

theorem adds_trans (allowed : Call → Prop) (first second third : Handle) (one : Adds allowed first second)
    (two : Adds allowed second third) : Adds allowed first third := by
  obtain ⟨early, firstCalls, firstAllowed⟩ := one
  obtain ⟨late, secondCalls, secondAllowed⟩ := two
  refine ⟨early ++ late, ?_, ?_⟩
  · rw [secondCalls, firstCalls, List.append_assoc]
  · intro call member
    rcases List.mem_append.mp member with before | after
    · exact firstAllowed call before
    · exact secondAllowed call after

theorem adds_record (allowed : Call → Prop) (ups : Handle) (call : Call) (inside : allowed call) :
    Adds allowed ups (ups.record call) := by
  refine ⟨[call], rfl, ?_⟩
  intro only member
  rw [List.mem_singleton.mp member]
  exact inside

theorem adds_mono (allowed wider : Call → Prop) (before after : Handle) (weaken : ∀ call, allowed call → wider call)
    (adds : Adds allowed before after) : Adds wider before after := by
  obtain ⟨more, calls, inside⟩ := adds
  exact ⟨more, calls, fun call member => weaken call (inside call member)⟩

theorem adds_own (allowed : Call → Prop) (before after : Handle) (adds : Adds allowed before after) :
    ∀ call ∈ after.calls.drop before.calls.length, allowed call := by
  obtain ⟨more, calls, inside⟩ := adds
  rw [calls, List.drop_left]
  exact inside

abbrev SetupCalls (before after : Handle) : Prop := Adds (fun call => call.isSetup = true) before after

theorem resolve_runtime_connection (ups : Handle) (transport : Nat) (answers : Answers) :
    SameConnection ups (upsResolveRuntime ups transport answers) ∧
      SetupCalls ups (upsResolveRuntime ups transport answers) := by
  rw [upsResolveRuntime]
  split
  · have asked := adds_record (fun call => call.isSetup = true)
      { ups with
        resolvedRegs := none, resolutions := ups.resolutions + 1
        table := ups.table.mapIdx fun index reg => answers.fixed.getD index reg }
      (.resolveConfigRegs transport answers.keeps) rfl
    dsimp only
    split
    · exact ⟨⟨rfl, rfl, rfl, rfl, rfl, rfl⟩, asked⟩
    · exact ⟨⟨rfl, rfl, rfl, rfl, rfl, rfl⟩, asked⟩
  · exact ⟨⟨rfl, rfl, rfl, rfl, rfl, rfl⟩, adds_nothing _ ups _ rfl⟩

theorem refresh_inventory_connection (ups : Handle) (transport : Nat) (rc : Int) :
    SameConnection ups (refreshInventory ups transport rc) ∧ SetupCalls ups (refreshInventory ups transport rc) := by
  rw [refreshInventory]
  split
  · exact ⟨⟨rfl, rfl, rfl, rfl, rfl, rfl⟩, adds_record _ ups _ rfl⟩
  · exact ⟨SameConnection.refl ups, adds_nothing _ ups ups rfl⟩

def attached (ups : Handle) (transport : Nat) : Handle :=
  { ups with transport := some transport, consecutiveErrors := 0 }.record (.attach transport)

theorem adopt_connection (ups : Handle) (transport : Nat) (answers : Answers) :
    SameConnection (attached ups transport) (adopt ups transport answers) ∧
      SetupCalls (attached ups transport) (adopt ups transport answers) := by
  obtain ⟨narrowed, narrowedCalls⟩ := resolve_runtime_connection (attached ups transport) transport answers
  obtain ⟨refreshed, refreshedCalls⟩ :=
    refresh_inventory_connection (upsResolveRuntime (attached ups transport) transport answers) transport answers.inventoryRc
  exact ⟨narrowed.trans refreshed, adds_trans _ _ _ _ narrowedCalls refreshedCalls⟩

def tried (ups : Handle) (now : Int) : Handle := { ups with lastReconnectAttempt := now }.record (.attempt now)

def opened (ups : Handle) (now : Int) : Handle :=
  { tried ups now with nextTransport := ups.nextTransport + 1 }.record (.connect ups.index ups.nextTransport)

def probed (ups : Handle) (now : Int) (claims : Bool) : Handle :=
  (opened ups now).record (.detect ups.index ups.nextTransport claims)

def reconnectDue (ups : Handle) (now : Int) : Prop :=
  ups.driver.connect = true ∧ reconnectIntervalSec ≤ now - ups.lastReconnectAttempt

-- Everything ups_ensure_transport can do.
inductive Ensured (ups : Handle) (answers : Answers) : Handle → Prop
  | kept (up : ups.transport.isSome = true) : Ensured ups answers ups
  | waiting (down : ups.transport = none) (early : ¬reconnectDue ups answers.now) : Ensured ups answers ups
  | refused (down : ups.transport = none) (due : reconnectDue ups answers.now) :
      Ensured ups answers (tried ups answers.now)
  | rejected (down : ups.transport = none) (due : reconnectDue ups answers.now) :
      Ensured ups answers ((probed ups answers.now false).disconnect ups.nextTransport)
  | adopted (down : ups.transport = none) (due : reconnectDue ups answers.now) (found : Handle)
      (claimed : found = opened ups answers.now ∨ found = probed ups answers.now true) :
      Ensured ups answers (adopt found ups.nextTransport answers)

theorem ensure_transport_cases (ups : Handle) (answers : Answers) :
    Ensured ups answers (upsEnsureTransport ups answers) := by
  rw [upsEnsureTransport]
  cases current : ups.transport with
  | some transport => exact .kept (by rw [current]; rfl)
  | none =>
    rw [Option.isNone_none, if_pos rfl, upsTryReconnect, if_neg (by rw [current]; exact Bool.false_ne_true)]
    split
    · rename_i missing
      apply Ensured.waiting current
      rintro ⟨present, _⟩
      rw [present] at missing
      cases missing
    split
    · rename_i early
      apply Ensured.waiting current
      rintro ⟨_, due⟩
      omega
    · rename_i present late
      have due : reconnectDue ups answers.now := by
        constructor
        · simpa using present
        · omega
      dsimp only
      split
      · exact .refused current due
      split
      · split
        · rename_i claims
          rw [claims]
          exact .adopted current due _ (Or.inr rfl)
        · rename_i silent
          rw [Bool.not_eq_true] at silent
          rw [silent]
          exact .rejected current due
      · exact .adopted current due _ (Or.inl rfl)

-- The calls that open, narrow and close a connection.
def Call.isConnection : Call → Bool
  | .command _ _ _ _ | .configRead _ _ _ | .configWrite _ _ _ _ => false
  | .read kind _ _ => kind == .inventory
  | _ => true

abbrev ConnectionCalls (before after : Handle) : Prop := Adds (fun call => call.isConnection = true) before after

theorem setup_is_connection (call : Call) (setup : call.isSetup = true) : call.isConnection = true := by
  cases call with
  | read kind transport rc => cases kind <;> first | rfl | cases setup
  | _ => first | rfl | cases setup

theorem disconnect_adds (ups : Handle) (transport : Nat) : ConnectionCalls ups (ups.disconnect transport) := by
  rw [Handle.disconnect]
  split
  · exact adds_record _ ups _ rfl
  · exact adds_nothing _ ups ups rfl

theorem adopt_adds (found : Handle) (transport : Nat) (answers : Answers) :
    ConnectionCalls found (adopt found transport answers) := by
  have attaches : ConnectionCalls found (attached found transport) :=
    adds_record _ { found with transport := some transport, consecutiveErrors := 0 } (.attach transport) rfl
  exact adds_trans _ _ _ _ attaches
    (adds_mono _ _ _ _ setup_is_connection (adopt_connection found transport answers).2)

theorem handle_error_adds (ups : Handle) : ConnectionCalls ups (upsHandleError ups) := by
  rw [upsHandleError]
  dsimp only
  split
  · cases ups.transport with
    | none => exact adds_record _ ups .detach rfl
    | some transport =>
      have closes := disconnect_adds
        { ups with transport := some transport, consecutiveErrors := ups.consecutiveErrors + 1 } transport
      exact adds_trans _ _ _ _ closes (adds_record _ _ .detach rfl)
  · exact adds_nothing _ ups _ rfl

theorem tried_adds (ups : Handle) (now : Int) : ConnectionCalls ups (tried ups now) :=
  adds_record _ { ups with lastReconnectAttempt := now } (.attempt now) rfl

theorem opened_adds (ups : Handle) (now : Int) : ConnectionCalls (tried ups now) (opened ups now) :=
  adds_record _ { tried ups now with nextTransport := ups.nextTransport + 1 } (.connect ups.index ups.nextTransport) rfl

theorem probed_adds (ups : Handle) (now : Int) (claims : Bool) : ConnectionCalls (tried ups now) (probed ups now claims) :=
  adds_trans _ _ _ _ (opened_adds ups now) (adds_record _ _ _ rfl)

theorem adopted_adds (ups : Handle) (now : Int) (found : Handle) (answers : Answers)
    (claimed : found = opened ups now ∨ found = probed ups now true) :
    ConnectionCalls (tried ups now) (adopt found ups.nextTransport answers) := by
  rcases claimed with rfl | rfl
  · exact adds_trans _ _ _ _ (opened_adds ups now) (adopt_adds _ _ answers)
  · exact adds_trans _ _ _ _ (probed_adds ups now true) (adopt_adds _ _ answers)

theorem ensure_adds (ups : Handle) (answers : Answers) : ConnectionCalls ups (upsEnsureTransport ups answers) := by
  have ensuring := ensure_transport_cases ups answers
  generalize upsEnsureTransport ups answers = next at ensuring ⊢
  cases ensuring with
  | kept _ => exact adds_nothing _ ups ups rfl
  | waiting _ _ => exact adds_nothing _ ups ups rfl
  | refused _ _ => exact tried_adds ups answers.now
  | rejected _ _ =>
    exact adds_trans _ _ _ _ (tried_adds ups answers.now)
      (adds_trans _ _ _ _ (probed_adds ups answers.now false) (disconnect_adds _ _))
  | adopted _ _ found claimed =>
    exact adds_trans _ _ _ _ (tried_adds ups answers.now) (adopted_adds ups answers.now found answers claimed)

-- A request that is due to reconnect logs the attempt first.
theorem ensure_attempts (ups : Handle) (answers : Answers) (down : ups.transport = none)
    (due : reconnectDue ups answers.now) : ConnectionCalls (tried ups answers.now) (upsEnsureTransport ups answers) := by
  have ensuring := ensure_transport_cases ups answers
  generalize upsEnsureTransport ups answers = next at ensuring ⊢
  cases ensuring with
  | kept up =>
    rw [down] at up
    cases up
  | waiting _ early => exact absurd due early
  | refused _ _ => exact adds_nothing _ _ _ rfl
  | rejected _ _ => exact adds_trans _ _ _ _ (probed_adds ups answers.now false) (disconnect_adds _ _)
  | adopted _ _ found claimed => exact adopted_adds ups answers.now found answers claimed

-- What a dispatched call adds once the transport is ensured.
theorem dispatch_adds (allowed : Call → Prop) (ups : Handle) (call : Nat → Int → Call) (counted : Bool) (answers : Answers)
    (connection : ∀ other, other.isConnection = true → allowed other) (inside : ∀ transport rc, allowed (call transport rc)) :
    Adds allowed (upsEnsureTransport ups answers) (dispatch ups true call counted answers).1 := by
  rw [dispatch, Bool.not_true, if_neg Bool.false_ne_true]
  dsimp only
  split
  · exact adds_nothing _ _ _ rfl
  · rename_i transport _
    have records := adds_record allowed (upsEnsureTransport ups answers) _ (inside transport answers.rc)
    split
    · exact records
    split
    · exact adds_trans _ _ _ _ records (adds_mono _ _ _ _ connection (handle_error_adds _))
    · exact records

-- Everything one request can do to the handle.
inductive Served (ups : Handle) (answers : Answers) : Handle → Prop
  | unsupported : Served ups answers ups
  | unreached (ensured : Handle) (ensuring : Ensured ups answers ensured) (down : ensured.transport = none) :
      Served ups answers ensured
  | called (ensured : Handle) (ensuring : Ensured ups answers ensured) (transport : Nat)
      (up : ensured.transport = some transport) (call : Call) (request : call.isRequest = true)
      (uncounted : call.counted? = none) : Served ups answers (ensured.record call)
  | succeeded (ensured : Handle) (ensuring : Ensured ups answers ensured) (transport : Nat)
      (up : ensured.transport = some transport) (call : Call) (request : call.isRequest = true)
      (counted : call.counted? = some true) : Served ups answers (upsClearErrors (ensured.record call))
  | failed (ensured : Handle) (ensuring : Ensured ups answers ensured) (transport : Nat)
      (up : ensured.transport = some transport) (call : Call) (request : call.isRequest = true)
      (counted : call.counted? = some false) : Served ups answers (upsHandleError (ensured.record call))

theorem dispatch_uncounted (ups : Handle) (present : Bool) (call : Nat → Int → Call) (answers : Answers)
    (request : ∀ transport rc, (call transport rc).isRequest = true)
    (uncounted : ∀ transport rc, (call transport rc).counted? = none) :
    Served ups answers (dispatch ups present call false answers).1 := by
  rw [dispatch]
  have ensuring := ensure_transport_cases ups answers
  split
  · exact .unsupported
  · dsimp only
    cases up : (upsEnsureTransport ups answers).transport with
    | none => exact .unreached _ ensuring up
    | some transport => exact .called _ ensuring transport up _ (request transport answers.rc) (uncounted transport answers.rc)

theorem dispatch_counted (ups : Handle) (present : Bool) (call : Nat → Int → Call) (answers : Answers)
    (request : ∀ transport rc, (call transport rc).isRequest = true)
    (counted : ∀ transport rc, (call transport rc).counted? = some (rc == 0)) :
    Served ups answers (dispatch ups present call true answers).1 := by
  rw [dispatch]
  have ensuring := ensure_transport_cases ups answers
  split
  · exact .unsupported
  · dsimp only
    cases up : (upsEnsureTransport ups answers).transport with
    | none => exact .unreached _ ensuring up
    | some transport =>
      have outcome := counted transport answers.rc
      dsimp only
      rw [if_neg (by decide)]
      split
      · rename_i failed
        rw [beq_eq_false_iff_ne.mpr failed] at outcome
        exact .failed _ ensuring transport up _ (request transport answers.rc) outcome
      · rename_i fine
        rw [beq_iff_eq.mpr (not_not.mp fine)] at outcome
        exact .succeeded _ ensuring transport up _ (request transport answers.rc) outcome

theorem serve_cases (ups : Handle) (request : Request) (answers : Answers) :
    Served ups answers (serve ups request answers).1 := by
  cases request with
  | readStatus => exact dispatch_counted ups _ _ answers (fun _ _ => rfl) (fun _ _ => rfl)
  | readTransferReason => exact dispatch_counted ups _ _ answers (fun _ _ => rfl) (fun _ _ => rfl)
  | readDynamic => exact dispatch_counted ups _ _ answers (fun _ _ => rfl) (fun _ _ => rfl)
  | readInventory => exact dispatch_uncounted ups _ _ answers (fun _ _ => rfl) (fun _ _ => rfl)
  | readThresholds => exact dispatch_uncounted ups _ _ answers (fun _ _ => rfl) (fun _ _ => rfl)
  | cmdExecute name off =>
    rw [serve, upsCmdExecute]
    cases upsFindCommand ups name with
    | none => exact .unsupported
    | some command => exact dispatch_uncounted ups _ _ answers (fun _ _ => rfl) (fun _ _ => rfl)
  | configRead reg => exact dispatch_counted ups _ _ answers (fun _ _ => rfl) (fun _ _ => rfl)
  | configWrite reg value =>
    rw [serve, upsConfigWrite, configWriteSeen]
    split
    · exact .unsupported
    · exact dispatch_uncounted ups _ _ answers (fun _ _ => rfl) (fun _ _ => rfl)

theorem handle_run_invariant (Inv : Handle → Prop)
    (serves : ∀ ups request answers, Inv ups → Inv (serve ups request answers).1) (start : Handle) (inv : Inv start)
    (requests : List (Request × Answers)) (final : Handle)
    (reached : Runs.run Handle.step start requests = some final) : Inv final := by
  apply Runs.run_invariant Handle.step start (fun _ ups => Inv ups) inv _ requests final reached
  intro _ ups taken next kept served
  cases served
  exact serves ups taken.1 taken.2 kept

-- The handle ups_connect returns is built for one driver of the list, after a log of
-- drivers that were opened and closed again.
def OpenedFrom (Log : List Call → Prop) (probes : List Probe) (ups : Handle) : Prop :=
  ∃ index transport probe before, probe ∈ probes ∧ probe.driver.connect = true ∧ Log before ∧
    ups = buildContext index probe transport
      (before ++ [.connect index transport, .detect index transport probe.answers.detects])

theorem opened_from_rest (Log : List Call → Prop) (probe : Probe) (rest : List Probe) (ups : Handle)
    (opened : OpenedFrom Log rest ups) : OpenedFrom Log (probe :: rest) ups := by
  obtain ⟨index, transport, other, before, member, facts⟩ := opened
  exact ⟨index, transport, other, before, List.mem_cons_of_mem probe member, facts⟩

theorem connect_loop_opens (type : ConnType) (Log : List Call → Prop)
    (closes : ∀ (index transport : Nat) (probe : Probe) (calls : List Call), Log calls →
      Log (calls ++ [.connect index transport, .detect index transport probe.answers.detects] ++
        closeProbe index probe.driver transport))
    (probes : List Probe) (index transport : Nat) (matched connected : Bool) (calls : List Call) (logged : Log calls)
    (ups : Handle) (found : (upsConnectLoop type index transport matched connected calls probes).handle = some ups) :
    OpenedFrom Log probes ups := by
  induction probes generalizing index transport matched connected calls with
  | nil => cases found
  | cons probe rest ih =>
    rw [upsConnectLoop] at found
    split at found
    · exact opened_from_rest Log probe rest ups (ih _ _ _ _ calls logged found)
    split at found
    · exact opened_from_rest Log probe rest ups (ih _ _ _ _ calls logged found)
    · rename_i _ usable
      have connects : probe.driver.connect = true := by
        cases connects : probe.driver.connect with
        | true => rfl
        | false => simp [connects] at usable
      have closed := closes index transport probe calls logged
      dsimp only at found
      split at found
      · exact opened_from_rest Log probe rest ups (ih _ _ _ _ _ closed found)
      split at found
      · cases found
      · cases found
        exact ⟨index, transport, probe, calls, List.mem_cons_self, connects, logged, rfl⟩

end AiriesUps.Ups
