import AiriesUps.Lib.Custody
import AiriesUps.Ups.HandleSteps

set_option autoImplicit false

namespace AiriesUps.Ups

open Custody (Alternates acquired live AtMostOneLive ReleasedOnce)

def Call.custody? : Call → Option (Custody.Event Nat Nat)
  | .connect driver transport => some (.acquire driver transport)
  | .disconnect driver transport => some (.release driver transport)
  | _ => none

def custody (calls : List Call) : List (Custody.Event Nat Nat) := calls.filterMap Call.custody?

theorem custody_append (before after : List Call) : custody (before ++ after) = custody before ++ custody after :=
  List.filterMap_append

theorem request_custody (call : Call) (request : call.isRequest = true) : call.custody? = none := by
  cases call <;> first | rfl | cases request

theorem setup_custody (setup : List Call) (all : ∀ call ∈ setup, call.isSetup = true) : custody setup = [] := by
  apply List.filterMap_eq_nil_iff.mpr
  intro call member
  have isSetup := all call member
  cases call <;> first | rfl | cases isSetup

-- A log with its next transport number: what was opened before is open now or was closed.
structure Kept (calls : List Call) (held : Option (Nat × Nat)) (next : Nat) : Prop where
  log : Alternates none (custody calls) held
  fresh : (acquired (custody calls)).Nodup
  below : ∀ transport ∈ acquired (custody calls), transport < next

def Handle.held (ups : Handle) : Option (Nat × Nat) := ups.transport.map fun transport => (ups.index, transport)

structure CustodyInv (ups : Handle) : Prop where
  disconnects : ups.driver.disconnect = true
  kept : Kept ups.calls ups.held ups.nextTransport

theorem kept_neutral (calls added : List Call) (held : Option (Nat × Nat)) (next : Nat) (kept : Kept calls held next)
    (neutral : custody added = []) : Kept (calls ++ added) held next := by
  have same : custody (calls ++ added) = custody calls := by rw [custody_append, neutral, List.append_nil]
  constructor
  · rw [same]
    exact kept.log
  · rw [same]
    exact kept.fresh
  · rw [same]
    exact kept.below

theorem kept_open (calls : List Call) (owner next : Nat) (kept : Kept calls none next) :
    Kept (calls ++ [.connect owner next]) (some (owner, next)) (next + 1) := by
  have extended : custody (calls ++ [.connect owner next]) = custody calls ++ [.acquire owner next] := custody_append _ _
  have grown : acquired (custody calls ++ [.acquire owner next]) = acquired (custody calls) ++ [next] :=
    Custody.acquired_append _ _
  constructor
  · rw [extended]
    exact Custody.alternates_append _ _ _ _ _ kept.log (.acquire owner next [] _ (.done _))
  · rw [extended, grown, List.nodup_append]
    refine ⟨kept.fresh, List.nodup_singleton next, ?_⟩
    intro earlier member last isNext same
    rw [List.mem_singleton.mp isNext] at same
    exact absurd (kept.below earlier member) (by omega)
  · rw [extended, grown]
    intro transport member
    rcases List.mem_append.mp member with earlier | last
    · exact Nat.lt_succ_of_lt (kept.below transport earlier)
    · rw [List.mem_singleton.mp last]
      exact Nat.lt_succ_self next

theorem kept_close (calls : List Call) (owner transport next : Nat) (kept : Kept calls (some (owner, transport)) next) :
    Kept (calls ++ [.disconnect owner transport]) none next := by
  have extended : custody (calls ++ [.disconnect owner transport]) = custody calls ++ [.release owner transport] :=
    custody_append _ _
  have same : acquired (custody calls ++ [.release owner transport]) = acquired (custody calls) := by
    rw [Custody.acquired_append]
    exact List.append_nil _
  constructor
  · rw [extended]
    exact Custody.alternates_append _ _ _ _ _ kept.log (.release owner transport [] none (.done none))
  · rw [extended, same]
    exact kept.fresh
  · rw [extended, same]
    exact kept.below

theorem kept_opened (ups : Handle) (now : Int) (down : ups.transport = none)
    (kept : Kept ups.calls ups.held ups.nextTransport) :
    Kept (opened ups now).calls (some (ups.index, ups.nextTransport)) (ups.nextTransport + 1) := by
  rw [Handle.held, down] at kept
  exact kept_open _ ups.index ups.nextTransport (kept_neutral ups.calls [.attempt now] none ups.nextTransport kept rfl)

theorem same_connection_custody (before after : Handle) (same : SameConnection before after)
    (setup : SetupCalls before after) (inv : CustodyInv before) : CustodyInv after := by
  obtain ⟨added, calls, isSetup⟩ := setup
  constructor
  · rw [same.driver]
    exact inv.disconnects
  · rw [Handle.held, same.transport, same.index, same.next, calls]
    exact kept_neutral before.calls added _ _ inv.kept (setup_custody added isSetup)

theorem adopt_kept (found : Handle) (transport next : Nat) (answers : Answers) (number : found.nextTransport = next)
    (kept : Kept found.calls (some (found.index, transport)) next) (disconnects : found.driver.disconnect = true) :
    CustodyInv (adopt found transport answers) := by
  obtain ⟨same, setup⟩ := adopt_connection found transport answers
  have attachedKept : Kept (attached found transport).calls (some (found.index, transport)) found.nextTransport := by
    rw [number]
    exact kept_neutral found.calls [.attach transport] _ next kept rfl
  exact same_connection_custody (attached found transport) _ same setup ⟨disconnects, attachedKept⟩

theorem ensured_custody (ups next : Handle) (answers : Answers) (inv : CustodyInv ups)
    (ensuring : Ensured ups answers next) : CustodyInv next := by
  cases ensuring with
  | kept _ => exact inv
  | waiting _ _ => exact inv
  | refused _ _ => exact ⟨inv.disconnects, kept_neutral ups.calls [.attempt answers.now] _ _ inv.kept rfl⟩
  | rejected down _ =>
    have open_ := kept_neutral _ [.detect ups.index ups.nextTransport false] _ _
      (kept_opened ups answers.now down inv.kept) rfl
    have closes : (probed ups answers.now false).disconnect ups.nextTransport =
        (probed ups answers.now false).record (.disconnect ups.index ups.nextTransport) := if_pos inv.disconnects
    rw [closes]
    constructor
    · exact inv.disconnects
    · have nothing : ((probed ups answers.now false).record (.disconnect ups.index ups.nextTransport)).held = none := by
        change ups.transport.map _ = none
        rw [down]
        rfl
      rw [nothing]
      exact kept_close _ ups.index ups.nextTransport _ open_
  | adopted down _ found claimed =>
    have open_ := kept_opened ups answers.now down inv.kept
    rcases claimed with rfl | rfl
    · exact adopt_kept (opened ups answers.now) ups.nextTransport _ answers rfl open_ inv.disconnects
    · exact adopt_kept (probed ups answers.now true) ups.nextTransport _ answers rfl
        (kept_neutral _ [.detect ups.index ups.nextTransport true] _ _ open_ rfl) inv.disconnects

theorem record_custody (ups : Handle) (call : Call) (inv : CustodyInv ups) (neutral : call.custody? = none) :
    CustodyInv (ups.record call) :=
  ⟨inv.disconnects, kept_neutral ups.calls [call] _ _ inv.kept (by rw [custody, List.filterMap_cons, neutral]; rfl)⟩

theorem handle_error_custody (ups : Handle) (inv : CustodyInv ups) : CustodyInv (upsHandleError ups) := by
  rw [upsHandleError]
  dsimp only
  split
  · cases current : ups.transport with
    | none =>
      have kept := inv.kept
      rw [Handle.held, current] at kept
      exact ⟨inv.disconnects, kept_neutral ups.calls [.detach] none _ kept rfl⟩
    | some transport =>
      have kept := inv.kept
      rw [Handle.held, current] at kept
      have closes : ({ ups with consecutiveErrors := ups.consecutiveErrors + 1 } : Handle).disconnect transport =
          ({ ups with consecutiveErrors := ups.consecutiveErrors + 1 } : Handle).record (.disconnect ups.index transport) :=
        if_pos inv.disconnects
      dsimp only
      rw [← current, closes]
      exact ⟨inv.disconnects, kept_neutral _ [.detach] none _ (kept_close ups.calls ups.index transport _ kept) rfl⟩
  · exact ⟨inv.disconnects, inv.kept⟩

theorem serve_custody (ups : Handle) (request : Request) (answers : Answers) (inv : CustodyInv ups) :
    CustodyInv (serve ups request answers).1 := by
  have served := serve_cases ups request answers
  generalize (serve ups request answers).1 = next at served ⊢
  cases served with
  | unsupported => exact inv
  | unreached _ ensuring _ => exact ensured_custody ups _ answers inv ensuring
  | called ensured ensuring _ _ call isRequest _ =>
    exact record_custody ensured call (ensured_custody ups ensured answers inv ensuring) (request_custody call isRequest)
  | succeeded ensured ensuring _ _ call isRequest _ =>
    obtain ⟨disconnects, kept⟩ :=
      record_custody ensured call (ensured_custody ups ensured answers inv ensuring) (request_custody call isRequest)
    exact ⟨disconnects, kept⟩
  | failed ensured ensuring _ _ call isRequest _ =>
    exact handle_error_custody _
      (record_custody ensured call (ensured_custody ups ensured answers inv ensuring) (request_custody call isRequest))

theorem run_custody (start : Handle) (inv : CustodyInv start) (requests : List (Request × Answers)) (final : Handle)
    (reached : Runs.run Handle.step start requests = some final) : CustodyInv final :=
  handle_run_invariant CustodyInv serve_custody start inv requests final reached

theorem close_custody (ups : Handle) (inv : CustodyInv ups) : Kept (upsClose ups) none ups.nextTransport := by
  rw [upsClose]
  have kept := inv.kept
  rw [Handle.held] at kept
  cases current : ups.transport with
  | none =>
    rw [current] at kept
    exact kept
  | some transport =>
    rw [current] at kept
    have closes : ups.disconnect transport = ups.record (.disconnect ups.index transport) := if_pos inv.disconnects
    dsimp only
    rw [closes]
    exact kept_close ups.calls ups.index transport _ kept

theorem build_context_custody (index : Nat) (probe : Probe) (transport : Nat) (calls : List Call)
    (disconnects : probe.driver.disconnect = true) (kept : Kept calls (some (index, transport)) (transport + 1)) :
    CustodyInv (buildContext index probe transport calls) := by
  rw [buildContext]
  obtain ⟨same, setup⟩ := resolve_runtime_connection
    (blankContext index probe.driver transport calls) transport probe.answers
  exact serve_custody _ .readInventory _ (same_connection_custody _ _ same setup
    ⟨disconnects, kept_neutral calls [.attach transport] _ _ kept rfl⟩)

-- What ups_connect leaves: nothing open after a failure, one transport in the handle else.
structure OutcomeKept (outcome : Outcome) : Prop where
  failed : outcome.handle = none → ∃ next, Kept outcome.calls none next
  opened : ∀ ups, outcome.handle = some ups → CustodyInv ups ∧ outcome.calls = ups.calls

theorem outcome_kept_failed (status : Int) (calls : List Call) (next : Nat) (kept : Kept calls none next) :
    OutcomeKept { status := status, handle := none, calls := calls } := by
  constructor
  · intro _
    exact ⟨next, kept⟩
  · intro ups wrong
    cases wrong

theorem close_probe_kept (index : Nat) (driver : UpsDriver) (transport : Nat) (calls : List Call)
    (disconnects : driver.disconnect = true) (kept : Kept calls (some (index, transport)) (transport + 1)) :
    Kept (calls ++ closeProbe index driver transport) none (transport + 1) := by
  rw [closeProbe, if_pos disconnects]
  exact kept_close calls index transport _ kept

theorem connect_loop_custody (type : ConnType) (probes : List Probe)
    (disconnects : ∀ probe ∈ probes, probe.driver.connect = true → probe.driver.disconnect = true) (index transport : Nat)
    (matched connected : Bool) (calls : List Call) (kept : Kept calls none transport) :
    OutcomeKept (upsConnectLoop type index transport matched connected calls probes) := by
  induction probes generalizing index transport matched connected calls with
  | nil => exact outcome_kept_failed _ calls transport kept
  | cons probe rest ih =>
    have later := fun other member => disconnects other (List.mem_cons_of_mem probe member)
    rw [upsConnectLoop]
    split
    · exact ih later (index + 1) transport matched connected calls kept
    split
    · exact ih later (index + 1) transport true connected calls kept
    · rename_i _ usable
      have closes : probe.driver.disconnect = true := by
        apply disconnects probe List.mem_cons_self
        cases connects : probe.driver.connect with
        | true => rfl
        | false =>
          rw [connects] at usable
          exact absurd rfl usable
      have openLog := kept_neutral _ [.detect index transport probe.answers.detects] _ _
        (kept_open calls index transport kept) rfl
      rw [List.append_assoc] at openLog
      dsimp only
      split
      · exact ih later (index + 1) (transport + 1) true true _ (close_probe_kept index probe.driver transport _ closes openLog)
      split
      · exact outcome_kept_failed _ _ _ (close_probe_kept index probe.driver transport _ closes openLog)
      · constructor
        · intro wrong
          cases wrong
        · intro ups same
          cases same
          exact ⟨build_context_custody index probe transport _ closes openLog, rfl⟩

theorem connect_custody (type : ConnType) (probes : List Probe)
    (disconnects : ∀ probe ∈ probes, probe.driver.connect = true → probe.driver.disconnect = true) :
    OutcomeKept (Handle.upsConnect type probes) :=
  connect_loop_custody type probes disconnects 0 0 false false []
    ⟨.done none, List.nodup_nil, by intro transport member; cases member⟩

-- A closed log: never two transports open, each closed once by its driver, none open at the end.
structure Settled (calls : List Call) : Prop where
  single : AtMostOneLive (custody calls)
  once : ReleasedOnce (custody calls)
  closed : live [] (custody calls) = []

theorem kept_settled (calls : List Call) (next : Nat) (kept : Kept calls none next) : Settled calls :=
  ⟨Custody.at_most_one_of_alternates none _ kept.log, Custody.released_once_of_alternates _ kept.log kept.fresh,
    Custody.live_of_alternates none none _ kept.log⟩

theorem transports_disconnected_once (type : ConnType) (probes : List Probe)
    (disconnects : ∀ probe ∈ probes, probe.driver.connect = true → probe.driver.disconnect = true) :
    ((Handle.upsConnect type probes).handle = none → Settled (Handle.upsConnect type probes).calls) ∧
      ∀ ups, (Handle.upsConnect type probes).handle = some ups → ∀ requests final,
        Runs.run Handle.step ups requests = some final → Settled (upsClose final) := by
  have outcome := connect_custody type probes disconnects
  constructor
  · intro failed
    obtain ⟨next, kept⟩ := outcome.failed failed
    exact kept_settled _ next kept
  · intro ups connected requests final reached
    have inv := run_custody ups (outcome.opened ups connected).1 requests final reached
    exact kept_settled _ final.nextTransport (close_custody final inv)

-- Five failed reads tear the transport down, and the sixth reconnects.
theorem reconnected_transports_settled :
    ∃ ups final, (Handle.upsConnect .serial [serialProbe true]).handle = some ups ∧
      Runs.run Handle.step ups (failingReads 6 200) = some final ∧ final.nextTransport = 2 ∧ Settled (upsClose final) :=
  ⟨_, _, rfl, rfl, rfl, (transports_disconnected_once .serial [serialProbe true] (by decide)).2 _ rfl (failingReads 6 200) _ rfl⟩

-- ups_close calls disconnect only where the driver has one.
theorem missing_disconnect_leaves_transport_open :
    ∃ ups, (Handle.upsConnect .serial [serialProbe false]).handle = some ups ∧
      ¬Custody.ReleasedOnce (custody (upsClose ups)) := by
  refine ⟨_, rfl, ?_⟩
  intro released
  exact absurd (released 0 0 (by decide)).1 (by decide)

end AiriesUps.Ups
