import AiriesUps.Ups.HandleSteps

set_option autoImplicit false

namespace AiriesUps.Ups

-- What a log of calls says about recovery: the outcomes of the counted reads since the
-- last (re)connection, the latest first; the last attempt if no connection followed it;
-- whether there was an attempt since the last teardown.
structure History where
  reads : List Bool
  pending : Option Int
  attempted : Bool
deriving DecidableEq, Repr

def History.blank : History := { reads := [], pending := none, attempted := false }

def History.next (history : History) (call : Call) : History :=
  match call with
  | .attempt now => { history with pending := some now, attempted := true }
  | .attach _ => { history with reads := [], pending := none }
  | .detach => { history with attempted := false }
  | call =>
    match call.counted? with
    | some ok => { history with reads := ok :: history.reads }
    | none => history

def historyOf (calls : List Call) : History := calls.foldl History.next .blank

def LastFiveFailed (reads : List Bool) : Prop :=
  reads.take maxConsecutiveErrors = List.replicate maxConsecutiveErrors false

-- Consecutive attempts without a connection between them are two seconds apart; pending
-- is the attempt before the log.
def Spaced : Option Int → List Call → Prop
  | _, [] => True
  | pending, .attempt now :: rest =>
    (∀ earlier, pending = some earlier → reconnectIntervalSec ≤ now - earlier) ∧ Spaced (some now) rest
  | _, .attach _ :: rest => Spaced none rest
  | pending, _ :: rest => Spaced pending rest

-- The checks a request passes before the lock.
def accepts (ups : Handle) (refilled : Hid.ConfigReg) : Request → Bool
  | .readStatus => ups.driver.readStatus
  | .readTransferReason => ups.driver.readTransferReason
  | .readDynamic => ups.driver.readDynamic
  | .readInventory => ups.driver.readInventory
  | .readThresholds => ups.driver.readThresholds
  | .cmdExecute name off =>
    match upsFindCommand ups name with
    | some command => if off then command.executeOff else command.execute
    | none => false
  | .configRead _ => ups.driver.configRead
  | .configWrite pointer value => (configWriteRefusal ups.driver (ups.deref refilled pointer) value).isNone

def failures (reads : List Bool) : Nat := (reads.takeWhile fun ok => !ok).length

@[simp] theorem failures_nil : failures [] = 0 := rfl
@[simp] theorem failures_failed (reads : List Bool) : failures (false :: reads) = failures reads + 1 := rfl
@[simp] theorem failures_succeeded (reads : List Bool) : failures (true :: reads) = 0 := rfl

theorem failures_take (count : Nat) (reads : List Bool) :
    count ≤ failures reads ↔ reads.take count = List.replicate count false := by
  induction reads generalizing count with
  | nil => cases count <;> simp [List.replicate_succ]
  | cons ok rest ih =>
    cases count with
    | zero => simp
    | succ smaller =>
      cases ok with
      | true => simp [List.replicate_succ]
      | false => simp [List.replicate_succ, ih]

theorem history_append (before after : List Call) :
    historyOf (before ++ after) = after.foldl History.next (historyOf before) := List.foldl_append

theorem history_record (calls : List Call) (call : Call) : historyOf (calls ++ [call]) = (historyOf calls).next call :=
  history_append calls [call]

theorem history_setup (history : History) (setup : List Call) (all : ∀ call ∈ setup, call.isSetup = true) :
    setup.foldl History.next history = history := by
  induction setup generalizing history with
  | nil => rfl
  | cons call rest ih =>
    have same : history.next call = history := by
      have isSetup := all call List.mem_cons_self
      cases call with
      | resolveConfigRegs transport kept => rfl
      | read kind transport rc => cases kind <;> first | rfl | cases isSetup
      | _ => cases isSetup
    rw [List.foldl_cons, same]
    exact ih history fun other member => all other (List.mem_cons_of_mem call member)

theorem next_request (history : History) (call : Call) (request : call.isRequest = true) :
    history.next call =
      match call.counted? with
      | some ok => { history with reads := ok :: history.reads }
      | none => history := by
  cases call <;> first | rfl | cases request

theorem spaced_append (pending : Option Int) (before after : List Call) (history : History)
    (start : history.pending = pending) :
    Spaced pending (before ++ after) ↔
      Spaced pending before ∧ Spaced (before.foldl History.next history).pending after := by
  induction before generalizing pending history with
  | nil =>
    subst start
    simp only [List.nil_append, Spaced, true_and, List.foldl_nil]
  | cons call rest ih =>
    cases call with
    | attempt now =>
      rw [List.cons_append, Spaced, Spaced, and_assoc]
      exact and_congr_right fun _ => ih (some now) (history.next (.attempt now)) rfl
    | attach transport => exact ih none (history.next (.attach transport)) rfl
    | read kind transport rc => cases kind <;> exact ih pending _ start
    | _ => exact ih pending _ start

theorem spaced_record (calls : List Call) (call : Call) (spaced : Spaced none calls)
    (gap : ∀ now earlier, call = .attempt now → (historyOf calls).pending = some earlier →
      reconnectIntervalSec ≤ now - earlier) : Spaced none (calls ++ [call]) := by
  apply (spaced_append none calls [call] .blank rfl).mpr
  constructor
  · exact spaced
  · cases call with
    | attempt now => exact ⟨fun earlier same => gap now earlier rfl same, trivial⟩
    | _ => trivial

structure RecoveryInv (ups : Handle) : Prop where
  connects : ups.driver.connect = true
  count : ups.consecutiveErrors = failures (historyOf ups.calls).reads
  up : ups.transport.isSome = true →
    failures (historyOf ups.calls).reads < maxConsecutiveErrors ∧ (historyOf ups.calls).pending = none
  down : ups.transport = none → maxConsecutiveErrors ≤ failures (historyOf ups.calls).reads
  spaced : Spaced none ups.calls
  last : ∀ now, (historyOf ups.calls).pending = some now → ups.lastReconnectAttempt = now
  fresh : ups.transport = none → (historyOf ups.calls).attempted = false → ups.lastReconnectAttempt = 0

theorem recovery_of_history (before after : Handle) (inv : RecoveryInv before) (driver : after.driver = before.driver)
    (errors : after.consecutiveErrors = before.consecutiveErrors) (transport : after.transport = before.transport)
    (attempt : after.lastReconnectAttempt = before.lastReconnectAttempt)
    (history : historyOf after.calls = historyOf before.calls) (spaced : Spaced none after.calls) : RecoveryInv after := by
  constructor
  · rw [driver]
    exact inv.connects
  · rw [errors, history]
    exact inv.count
  · rw [transport, history]
    exact inv.up
  · rw [transport, history]
    exact inv.down
  · exact spaced
  · rw [history, attempt]
    exact inv.last
  · rw [transport, history, attempt]
    exact inv.fresh

theorem recovery_record (ups : Handle) (call : Call) (inv : RecoveryInv ups)
    (silent : (historyOf ups.calls).next call = historyOf ups.calls) (notAttempt : ∀ now, call ≠ .attempt now) :
    RecoveryInv (ups.record call) :=
  recovery_of_history ups _ inv rfl rfl rfl rfl ((history_record ups.calls call).trans silent)
    (spaced_record ups.calls call inv.spaced fun now _ same _ => absurd same (notAttempt now))

theorem spaced_setup (calls setup : List Call) (spaced : Spaced none calls) (all : ∀ call ∈ setup, call.isSetup = true) :
    Spaced none (calls ++ setup) := by
  induction setup generalizing calls with
  | nil =>
    rw [List.append_nil]
    exact spaced
  | cons call rest ih =>
    have extended := spaced_record calls call spaced (by
      intro now _ same
      rw [same] at all
      cases all (.attempt now) List.mem_cons_self)
    have tail := ih (calls ++ [call]) extended fun other member => all other (List.mem_cons_of_mem call member)
    rwa [List.append_assoc] at tail

theorem recovery_setup (before after : Handle) (inv : RecoveryInv before) (same : SameConnection before after)
    (setup : SetupCalls before after) : RecoveryInv after := by
  obtain ⟨added, calls, isSetup⟩ := setup
  apply recovery_of_history before after inv same.driver same.errors same.transport same.attempt
  · rw [calls, history_append, history_setup _ added isSetup]
  · rw [calls]
    exact spaced_setup before.calls added inv.spaced isSetup

theorem tried_recovery (ups : Handle) (now : Int) (inv : RecoveryInv ups) (down : ups.transport = none)
    (due : reconnectDue ups now) : RecoveryInv (tried ups now) := by
  have history : historyOf (tried ups now).calls = { historyOf ups.calls with pending := some now, attempted := true } :=
    history_record ups.calls (.attempt now)
  constructor
  · exact inv.connects
  · rw [history]
    exact inv.count
  · intro up
    change ups.transport.isSome = true at up
    rw [down] at up
    cases up
  · intro _
    rw [history]
    exact inv.down down
  · apply spaced_record ups.calls (.attempt now) inv.spaced
    intro other earlier same waiting
    cases same
    rw [← inv.last earlier waiting]
    exact due.2
  · intro other same
    rw [history] at same
    exact Option.some.inj same
  · intro _ unattempted
    rw [history] at unattempted
    cases unattempted

theorem attached_recovery (ups : Handle) (transport : Nat) (inv : RecoveryInv ups) : RecoveryInv (attached ups transport) := by
  have history : historyOf (attached ups transport).calls = { historyOf ups.calls with reads := [], pending := none } :=
    history_record ups.calls (.attach transport)
  constructor
  · exact inv.connects
  · rw [history]
    rfl
  · intro _
    rw [history]
    exact ⟨Nat.zero_lt_succ 4, rfl⟩
  · intro wrong
    cases wrong
  · exact spaced_record ups.calls (.attach transport) inv.spaced fun now _ same _ => by cases same
  · intro now same
    rw [history] at same
    cases same
  · intro wrong
    cases wrong

theorem opened_recovery (ups : Handle) (now : Int) (inv : RecoveryInv ups) (down : ups.transport = none)
    (due : reconnectDue ups now) : RecoveryInv (opened ups now) := by
  have opens := tried_recovery ups now inv down due
  have numbered : RecoveryInv { tried ups now with nextTransport := ups.nextTransport + 1 } :=
    recovery_of_history (tried ups now) _ opens rfl rfl rfl rfl rfl opens.spaced
  exact recovery_record _ (.connect ups.index ups.nextTransport) numbered rfl fun _ same => by cases same

theorem probed_recovery (ups : Handle) (now : Int) (claims : Bool) (inv : RecoveryInv ups) (down : ups.transport = none)
    (due : reconnectDue ups now) : RecoveryInv (probed ups now claims) :=
  recovery_record _ (.detect ups.index ups.nextTransport claims) (opened_recovery ups now inv down due) rfl
    fun _ same => by cases same

theorem disconnect_recovery (ups : Handle) (transport : Nat) (inv : RecoveryInv ups) :
    RecoveryInv (ups.disconnect transport) := by
  rw [Handle.disconnect]
  split
  · exact recovery_record ups (.disconnect ups.index transport) inv rfl fun _ same => by cases same
  · exact inv

theorem adopt_recovery (found : Handle) (transport : Nat) (answers : Answers) (inv : RecoveryInv found) :
    RecoveryInv (adopt found transport answers) := by
  obtain ⟨same, setup⟩ := adopt_connection found transport answers
  exact recovery_setup _ _ (attached_recovery found transport inv) same setup

theorem ensured_recovery (ups next : Handle) (answers : Answers) (inv : RecoveryInv ups)
    (ensuring : Ensured ups answers next) : RecoveryInv next := by
  cases ensuring with
  | kept _ => exact inv
  | waiting _ _ => exact inv
  | refused down due => exact tried_recovery ups answers.now inv down due
  | rejected down due => exact disconnect_recovery _ _ (probed_recovery ups answers.now false inv down due)
  | adopted down due found claimed =>
    rcases claimed with rfl | rfl
    · exact adopt_recovery _ _ answers (opened_recovery ups answers.now inv down due)
    · exact adopt_recovery _ _ answers (probed_recovery ups answers.now true inv down due)

theorem request_spaced (ups : Handle) (call : Call) (inv : RecoveryInv ups) (request : call.isRequest = true) :
    Spaced none (ups.calls ++ [call]) := by
  apply spaced_record ups.calls call inv.spaced
  intro now _ same
  rw [same] at request
  cases request

theorem succeeded_recovery (ups : Handle) (transport : Nat) (call : Call) (inv : RecoveryInv ups)
    (up : ups.transport = some transport) (request : call.isRequest = true) (counted : call.counted? = some true) :
    RecoveryInv (upsClearErrors (ups.record call)) := by
  have isUp : ups.transport.isSome = true := by rw [up]; rfl
  have history : historyOf (upsClearErrors (ups.record call)).calls =
      { historyOf ups.calls with reads := true :: (historyOf ups.calls).reads } := by
    change historyOf (ups.calls ++ [call]) = _
    rw [history_record, next_request _ call request, counted]
  constructor
  · exact inv.connects
  · rw [history]
    rfl
  · intro _
    rw [history]
    exact ⟨Nat.zero_lt_succ 4, (inv.up isUp).2⟩
  · intro down
    cases up.symm.trans down
  · exact request_spaced ups call inv request
  · rw [history]
    exact inv.last
  · intro down
    cases up.symm.trans down

-- The teardown after the last failure in a row leaves the handle due for a reconnect.
theorem torn_recovery (recorded closed : Handle) (connects : recorded.driver.connect = true)
    (many : maxConsecutiveErrors ≤ recorded.consecutiveErrors + 1)
    (errors : recorded.consecutiveErrors + 1 = failures (historyOf recorded.calls).reads)
    (quiet : (historyOf recorded.calls).pending = none) (driver : closed.driver = recorded.driver)
    (spaced : Spaced none closed.calls) (closedErrors : closed.consecutiveErrors = recorded.consecutiveErrors + 1)
    (same : historyOf closed.calls = historyOf recorded.calls) :
    RecoveryInv ({ closed with transport := none, lastReconnectAttempt := 0 }.record .detach) := by
  have after : historyOf (closed.calls ++ [.detach]) = { historyOf recorded.calls with attempted := false } := by
    rw [history_record, same]
    rfl
  constructor
  · change closed.driver.connect = true
    rw [driver]
    exact connects
  · change closed.consecutiveErrors = failures (historyOf (closed.calls ++ [.detach])).reads
    rw [after, closedErrors]
    exact errors
  · intro wrong
    cases wrong
  · intro _
    change maxConsecutiveErrors ≤ failures (historyOf (closed.calls ++ [.detach])).reads
    rw [after, ← errors]
    exact many
  · exact spaced_record closed.calls .detach spaced fun now _ same _ => by cases same
  · intro now waiting
    change (historyOf (closed.calls ++ [.detach])).pending = some now at waiting
    rw [after] at waiting
    cases quiet.symm.trans waiting
  · intro _ _
    rfl

theorem failed_recovery (ups : Handle) (transport : Nat) (call : Call) (inv : RecoveryInv ups)
    (up : ups.transport = some transport) (request : call.isRequest = true) (counted : call.counted? = some false) :
    RecoveryInv (upsHandleError (ups.record call)) := by
  have isUp : ups.transport.isSome = true := by rw [up]; rfl
  have history : historyOf (ups.record call).calls =
      { historyOf ups.calls with reads := false :: (historyOf ups.calls).reads } := by
    rw [record_calls, history_record, next_request _ call request, counted]
  have errors : (ups.record call).consecutiveErrors + 1 = failures (historyOf (ups.record call).calls).reads := by
    rw [history, failures_failed]
    exact congrArg (· + 1) inv.count
  have spaced := request_spaced ups call inv request
  have quiet : (historyOf (ups.record call).calls).pending = none := by
    rw [history]
    exact (inv.up isUp).2
  rw [upsHandleError]
  dsimp only
  split
  · rename_i many
    have torn := fun closed => torn_recovery (ups.record call) closed inv.connects many errors quiet
    rw [record_transport, up]
    dsimp only
    rw [Handle.disconnect]
    split
    · refine torn _ rfl (spaced_record _ _ spaced fun now _ same _ => by cases same) rfl ?_
      exact history_record _ _
    · exact torn _ rfl spaced rfl rfl
  · rename_i few
    constructor
    · exact inv.connects
    · exact errors
    · intro _
      constructor
      · rw [← errors]
        exact Nat.lt_of_not_ge few
      · exact quiet
    · intro down
      cases up.symm.trans down
    · exact spaced
    · intro now waiting
      cases quiet.symm.trans waiting
    · intro down
      cases up.symm.trans down

theorem serve_recovery (ups : Handle) (request : Request) (answers : Answers) (inv : RecoveryInv ups) :
    RecoveryInv (serve ups request answers).1 := by
  have served := serve_cases ups request answers
  generalize (serve ups request answers).1 = next at served ⊢
  cases served with
  | unsupported => exact inv
  | unreached _ ensuring _ => exact ensured_recovery ups _ answers inv ensuring
  | called ensured ensuring _ _ call isRequest uncounted =>
    apply recovery_record ensured call (ensured_recovery ups ensured answers inv ensuring)
    · rw [next_request _ call isRequest, uncounted]
    · rintro now rfl
      cases isRequest
  | succeeded ensured ensuring transport up call isRequest counted =>
    exact succeeded_recovery ensured transport call (ensured_recovery ups ensured answers inv ensuring) up isRequest counted
  | failed ensured ensuring transport up call isRequest counted =>
    exact failed_recovery ensured transport call (ensured_recovery ups ensured answers inv ensuring) up isRequest counted

theorem run_recovery (start : Handle) (inv : RecoveryInv start) (requests : List (Request × Answers)) (final : Handle)
    (reached : Runs.run Handle.step start requests = some final) : RecoveryInv final :=
  handle_run_invariant RecoveryInv serve_recovery start inv requests final reached

-- ups_connect logs no attempt before it stores the transport.
def Call.isProbe : Call → Bool
  | .connect _ _ | .detect _ _ _ | .disconnect _ _ => true
  | _ => false

def ProbeLog (calls : List Call) : Prop := ∀ call ∈ calls, call.isProbe = true

theorem probe_log_append (before after : List Call) (first : ProbeLog before) (second : ProbeLog after) :
    ProbeLog (before ++ after) := by
  intro call member
  rcases List.mem_append.mp member with earlier | later
  · exact first call earlier
  · exact second call later

theorem probe_log_history (calls : List Call) (probes : ProbeLog calls) :
    historyOf calls = .blank ∧ Spaced none calls := by
  induction calls using List.reverseRecOn with
  | nil => exact ⟨rfl, trivial⟩
  | append_singleton earlier call ih =>
    obtain ⟨blank, spaced⟩ := ih fun other member => probes other (List.mem_append_left _ member)
    have isProbe := probes call (List.mem_append_right _ List.mem_cons_self)
    constructor
    · rw [history_record, blank]
      cases call <;> first | rfl | cases isProbe
    · apply spaced_record earlier call spaced
      intro now _ same
      rw [same] at isProbe
      cases isProbe

theorem build_context_recovery (index : Nat) (probe : Probe) (transport : Nat) (calls : List Call)
    (connects : probe.driver.connect = true) (probes : ProbeLog calls) :
    RecoveryInv (buildContext index probe transport calls) := by
  obtain ⟨blank, spaced⟩ := probe_log_history calls probes
  have before : RecoveryInv (blankContext index probe.driver transport calls) := by
    have history : historyOf (blankContext index probe.driver transport calls).calls = .blank := by
      rw [blankContext, history_record, blank]
      rfl
    constructor
    · exact connects
    · rw [history]
      rfl
    · intro _
      rw [history]
      exact ⟨Nat.zero_lt_succ 4, rfl⟩
    · intro wrong
      cases wrong
    · exact spaced_record calls (.attach transport) spaced fun now _ same _ => by cases same
    · intro now waiting
      rw [history] at waiting
      cases waiting
    · intro _ _
      rfl
  obtain ⟨same, setup⟩ := resolve_runtime_connection _ transport probe.answers
  exact serve_recovery _ .readInventory _ (recovery_setup _ _ before same setup)

theorem opened_probe_log (index transport : Nat) (probe : Probe) (calls : List Call) (logged : ProbeLog calls) :
    ProbeLog (calls ++ [.connect index transport, .detect index transport probe.answers.detects]) :=
  probe_log_append calls _ logged (by simp [ProbeLog, Call.isProbe])

theorem connect_loop_recovery (type : ConnType) (probes : List Probe) (index transport : Nat) (matched connected : Bool)
    (calls : List Call) (logged : ProbeLog calls) (ups : Handle)
    (found : (upsConnectLoop type index transport matched connected calls probes).handle = some ups) : RecoveryInv ups := by
  have closes : ∀ (index transport : Nat) (probe : Probe) (calls : List Call), ProbeLog calls →
      ProbeLog (calls ++ [.connect index transport, .detect index transport probe.answers.detects] ++
        closeProbe index probe.driver transport) := by
    intro index transport probe calls logged
    have closed : ProbeLog (closeProbe index probe.driver transport) := by
      rw [closeProbe]
      split <;> simp [ProbeLog, Call.isProbe]
    exact probe_log_append _ _ (opened_probe_log index transport probe calls logged) closed
  obtain ⟨position, opened, probe, before, _, connects, log, rfl⟩ :=
    connect_loop_opens type ProbeLog closes probes index transport matched connected calls logged ups found
  exact build_context_recovery position probe opened _ connects (opened_probe_log position opened probe before log)

abbrev Grows (before after : Handle) : Prop := Adds (fun _ => True) before after

theorem dispatch_grows (ups : Handle) (call : Nat → Int → Call) (counted : Bool) (answers : Answers) :
    Grows (upsEnsureTransport ups answers) (dispatch ups true call counted answers).1 :=
  dispatch_adds _ ups call counted answers (fun _ _ => trivial) (fun _ _ => trivial)

theorem accepted_grows (ups : Handle) (request : Request) (answers : Answers) (accepted : accepts ups answers.refilled request = true) :
    Grows (upsEnsureTransport ups answers) (serve ups request answers).1 := by
  cases request with
  | cmdExecute name off =>
    rw [accepts] at accepted
    rw [serve, upsCmdExecute]
    cases found : upsFindCommand ups name with
    | none =>
      rw [found] at accepted
      cases accepted
    | some command =>
      rw [found] at accepted
      dsimp only at accepted ⊢
      rw [accepted]
      exact dispatch_grows ups _ _ answers
  | configWrite pointer value =>
    rw [accepts, Option.isNone_iff_eq_none] at accepted
    rw [serve, upsConfigWrite, configWriteSeen, accepted]
    exact dispatch_grows ups _ _ answers
  | readStatus =>
    rw [serve, upsReadStatus, show ups.driver.readStatus = true from accepted]
    exact dispatch_grows ups _ _ answers
  | readTransferReason =>
    rw [serve, upsReadTransferReason, show ups.driver.readTransferReason = true from accepted]
    exact dispatch_grows ups _ _ answers
  | readDynamic =>
    rw [serve, upsReadDynamic, show ups.driver.readDynamic = true from accepted]
    exact dispatch_grows ups _ _ answers
  | readInventory =>
    rw [serve, upsReadInventory, show ups.driver.readInventory = true from accepted]
    exact dispatch_grows ups _ _ answers
  | readThresholds =>
    rw [serve, upsReadThresholds, show ups.driver.readThresholds = true from accepted]
    exact dispatch_grows ups _ _ answers
  | configRead reg =>
    rw [serve, upsConfigRead, show ups.driver.configRead = true from accepted]
    exact dispatch_grows ups _ _ answers

-- The first request after a teardown attempts at once, whatever the clock.
def RetriesAtOnce (ups : Handle) (now : Int) : Prop :=
  ups.transport = none → (historyOf ups.calls).attempted = false →
    ∀ request answers, answers.now = now → accepts ups answers.refilled request = true →
      ∃ later, (serve ups request answers).1.calls = ups.calls ++ .attempt now :: later

theorem retries_at_once (ups : Handle) (now : Int) (inv : RecoveryInv ups) (clock : reconnectIntervalSec ≤ now) :
    RetriesAtOnce ups now := by
  intro down unattempted request answers same accepted
  subst same
  have due : reconnectDue ups answers.now := by
    refine ⟨inv.connects, ?_⟩
    rw [inv.fresh down unattempted]
    omega
  have attempts : Grows (tried ups answers.now) (upsEnsureTransport ups answers) :=
    adds_mono _ _ _ _ (fun _ _ => trivial) (ensure_attempts ups answers down due)
  obtain ⟨later, calls, _⟩ := adds_trans _ _ _ _ attempts (accepted_grows ups request answers accepted)
  exact ⟨later, by rw [calls]; exact List.append_assoc _ _ _⟩

theorem recovery_follows_the_reads (type : ConnType) (probes : List Probe) (ups : Handle)
    (connected : (Handle.upsConnect type probes).handle = some ups) (requests : List (Request × Answers)) (final : Handle)
    (reached : Runs.run Handle.step ups requests = some final) :
    (final.transport = none ↔ LastFiveFailed (historyOf final.calls).reads) ∧ Spaced none final.calls ∧
      ∀ now, reconnectIntervalSec ≤ now → RetriesAtOnce final now := by
  have inv := run_recovery ups (connect_loop_recovery type probes 0 0 false false [] (by intro call member; cases member)
    ups connected) requests final reached
  refine ⟨?_, inv.spaced, fun now clock => retries_at_once final now inv clock⟩
  rw [LastFiveFailed, ← failures_take]
  constructor
  · exact inv.down
  · intro failed
    by_contra up
    exact absurd failed (Nat.not_le.mpr (inv.up (Option.isSome_iff_ne_none.mpr up)).1)

theorem torn_down_retries :
    ∃ ups final, (Handle.upsConnect .serial [serialProbe true]).handle = some ups ∧
      Runs.run Handle.step ups (failingReads 5 200) = some final ∧ final.transport = none ∧
      LastFiveFailed (historyOf final.calls).reads ∧ RetriesAtOnce final 200 := by
  refine ⟨_, _, rfl, rfl, rfl, ?_, ?_⟩
  · exact (recovery_follows_the_reads .serial [serialProbe true] _ rfl (failingReads 5 200) _ rfl).1.mp rfl
  · exact (recovery_follows_the_reads .serial [serialProbe true] _ rfl (failingReads 5 200) _ rfl).2.2 200 (by decide)

-- One second after the epoch the zero that should allow an immediate retry does not.
theorem early_clock_delays_the_retry :
    ∃ ups final, (Handle.upsConnect .serial [serialProbe true]).handle = some ups ∧
      Runs.run Handle.step ups (failingReads 5 1) = some final ∧ ¬RetriesAtOnce final 1 := by
  refine ⟨_, _, rfl, rfl, ?_⟩
  intro retries
  obtain ⟨later, calls⟩ := retries rfl rfl .readStatus (answersAt 1 0) rfl rfl
  exact absurd (List.self_eq_append_right.mp calls) (List.cons_ne_nil _ _)

end AiriesUps.Ups
