import AiriesUps.Lib.Runs
import AiriesUps.Lib.Sequences

set_option autoImplicit false

namespace AiriesUps.Ups

def upsMbMinGapMs : Nat := 50

def nanosPerMs : Nat := 1000000

-- CLOCK_MONOTONIC in nanoseconds, as monotonic_ms gives it.
def monotonicMs (now : Nat) : BitVec 64 := BitVec.ofNat 64 (now / nanosPerMs)

-- The clock after pace; extra is what nanosleep sleeps beyond the time asked for.
def pace (lastOpMs : BitVec 64) (now extra : Nat) : Nat :=
  if lastOpMs = 0 then now
  else
    let elapsed := monotonicMs now - lastOpMs
    if elapsed.toNat ≥ upsMbMinGapMs then now
    else now + (upsMbMinGapMs - elapsed.toNat) * nanosPerMs + extra

-- ups_mb_t, with a number that tells the transports of the device apart.
structure MbTransport where
  id : Nat
  lastOpMs : BitVec 64
deriving DecidableEq, Repr

-- ups_mb_read, ups_mb_write and ups_mb_write_n differ in the call of libmodbus only.
inductive MbOp where
  | read
  | write
  | writeN
deriving DecidableEq, Repr

-- One request to the device: by which transport, when it started and ended on the
-- clock, and what last_op_ms was set to after it.
structure MbRequest where
  op : MbOp
  transport : Nat
  start : Nat
  finish : Nat
  recorded : BitVec 64
deriving DecidableEq, Repr

-- The serial device: at most one transport is open on it at a time.
structure SerialLine where
  now : Nat
  transport : Option MbTransport
  nextTransport : Nat
  requests : List MbRequest
deriving DecidableEq, Repr

def SerialLine.start (now : Nat) : SerialLine := { now := now, transport := none, nextTransport := 0, requests := [] }

-- How long the parts of one operation take: up to the first look at the clock, beyond the
-- sleep, up to the request, the request itself, and up to the second look at the clock.
structure OpTiming where
  before : Nat
  extra : Nat
  setup : Nat
  duration : Nat
  after : Nat
deriving DecidableEq, Repr

-- ups_mb_new (by the connect of a probe, or a reconnect), an operation, ups_mb_free, and time
-- that passes between them.
inductive LineLabel where
  | opened (succeeds : Bool)
  | request (op : MbOp) (timing : OpTiming)
  | freed
  | elapse (time : Nat)
deriving DecidableEq, Repr

def MbTransport.perform (transport : MbTransport) (op : MbOp) (timing : OpTiming) (now : Nat) : MbRequest :=
  let start := pace transport.lastOpMs (now + timing.before) timing.extra + timing.setup
  { op := op, transport := transport.id, start := start, finish := start + timing.duration
    recorded := monotonicMs (start + timing.duration + timing.after) }

def SerialLine.step : Runs.Step SerialLine LineLabel
  | state, .opened succeeds =>
    match state.transport with
    | some _ => none
    | none =>
      if succeeds then
        some { state with transport := some { id := state.nextTransport, lastOpMs := 0 }
                          nextTransport := state.nextTransport + 1 }
      else some state
  | state, .request op timing =>
    match state.transport with
    | none => none
    | some transport =>
      let request := transport.perform op timing state.now
      some { state with now := request.finish + timing.after
                        transport := some { transport with lastOpMs := request.recorded }
                        requests := state.requests ++ [request] }
  | state, .freed =>
    match state.transport with
    | none => none
    | some _ => some { state with transport := none }
  | state, .elapse time => some { state with now := state.now + time }

-- The second request starts 50 ms after the first one ended, on the clock in milliseconds.
def Gap (pair : MbRequest × MbRequest) : Prop :=
  pair.1.finish / nanosPerMs + upsMbMinGapMs ≤ pair.2.start / nanosPerMs

instance (pair : MbRequest × MbRequest) : Decidable (Gap pair) := inferInstanceAs (Decidable (_ ≤ _))

def GapsKept (requests : List MbRequest) : Prop := ∀ pair ∈ Sequences.pairs requests, Gap pair

-- Both requests went through one transport, and the clock did not read 0 after the first.
def SameTransport (pair : MbRequest × MbRequest) : Prop :=
  pair.1.transport = pair.2.transport ∧ pair.1.recorded ≠ 0

theorem pace_gap (readAt now extra : Nat) (later : readAt ≤ now) (set : monotonicMs readAt ≠ 0) :
    readAt / nanosPerMs + upsMbMinGapMs ≤ pace (monotonicMs readAt) now extra / nanosPerMs := by
  have order : readAt / nanosPerMs ≤ now / nanosPerMs := Nat.div_le_div_right later
  have elapsed : (monotonicMs now - monotonicMs readAt).toNat ≤ now / nanosPerMs - readAt / nanosPerMs := by
    rw [monotonicMs, monotonicMs, BitVec.toNat_sub, BitVec.toNat_ofNat, BitVec.toNat_ofNat]
    omega
  rw [pace, if_neg set]
  dsimp only
  split
  · omega
  · have slept : (now + (upsMbMinGapMs - (monotonicMs now - monotonicMs readAt).toNat) * nanosPerMs) / nanosPerMs =
        now / nanosPerMs + (upsMbMinGapMs - (monotonicMs now - monotonicMs readAt).toNat) :=
      Nat.add_mul_div_right _ _ (by decide)
    have longer := Nat.div_le_div_right (c := nanosPerMs) (Nat.le_add_right
      (now + (upsMbMinGapMs - (monotonicMs now - monotonicMs readAt).toNat) * nanosPerMs) extra)
    omega

-- What last_op_ms of the open transport says about the last request, where that was its own.
structure SerialLine.Tracked (state : SerialLine) : Prop where
  numbered : ∀ request ∈ state.requests, request.transport < state.nextTransport
  held : ∀ transport, state.transport = some transport → transport.id < state.nextTransport
  recorded : ∀ transport last, state.transport = some transport → state.requests.getLast? = some last →
    last.transport = transport.id → last.recorded = transport.lastOpMs ∧
      ∃ readAt, last.finish ≤ readAt ∧ readAt ≤ state.now ∧ transport.lastOpMs = monotonicMs readAt
  paced : ∀ pair ∈ Sequences.pairs state.requests, SameTransport pair → Gap pair

theorem request_gap (state : SerialLine) (transport : MbTransport) (last : MbRequest) (op : MbOp) (timing : OpTiming)
    (tracked : state.Tracked) (found : state.transport = some transport) (ended : state.requests.getLast? = some last)
    (same : SameTransport (last, transport.perform op timing state.now)) :
    Gap (last, transport.perform op timing state.now) := by
  obtain ⟨own, set⟩ := same
  obtain ⟨recorded, readAt, finished, past, value⟩ := tracked.recorded transport last found ended own
  rw [recorded, value] at set
  have waited := pace_gap readAt (state.now + timing.before) timing.extra (by omega) set
  have first := Nat.div_le_div_right (c := nanosPerMs) finished
  have second := Nat.div_le_div_right (c := nanosPerMs)
    (Nat.le_add_right (pace transport.lastOpMs (state.now + timing.before) timing.extra) timing.setup)
  rw [← value] at waited
  rw [Gap, MbTransport.perform]
  dsimp only
  omega

theorem pairs_getLast (requests : List MbRequest) (next : MbRequest) (pair : MbRequest × MbRequest)
    (member : pair ∈ Sequences.pairs (requests ++ [next])) :
    pair ∈ Sequences.pairs requests ∨ ∃ last, requests.getLast? = some last ∧ pair = (last, next) := by
  induction requests using List.reverseRecOn with
  | nil => cases member
  | append_singleton earlier last _ =>
    rw [Sequences.pairs_concat, List.mem_append, List.mem_singleton] at member
    rcases member with old | new
    · exact Or.inl old
    · exact Or.inr ⟨last, List.getLast?_concat, new⟩

theorem tracked_opened (state : SerialLine) (tracked : state.Tracked) :
    SerialLine.Tracked { state with transport := some { id := state.nextTransport, lastOpMs := 0 }
                                    nextTransport := state.nextTransport + 1 } := by
  refine ⟨?_, ?_, ?_, tracked.paced⟩
  · intro request member
    exact Nat.lt_succ_of_lt (tracked.numbered request member)
  · intro transport found
    cases found
    exact Nat.lt_succ_self _
  · intro transport last found ended own
    cases found
    have old := tracked.numbered last (List.mem_of_getLast? ended)
    rw [own] at old
    exact absurd old (Nat.lt_irrefl _)

theorem tracked_request (state : SerialLine) (transport : MbTransport) (op : MbOp) (timing : OpTiming)
    (tracked : state.Tracked) (isOpen : state.transport = some transport) :
    SerialLine.Tracked
      { state with now := (transport.perform op timing state.now).finish + timing.after
                   transport := some { transport with lastOpMs := (transport.perform op timing state.now).recorded }
                   requests := state.requests ++ [transport.perform op timing state.now] } := by
  have inside := tracked.held transport isOpen
  refine ⟨?_, ?_, ?_, ?_⟩
  · intro request member
    rcases List.mem_append.mp member with old | new
    · exact tracked.numbered request old
    · rw [List.mem_singleton.mp new]
      exact inside
  · intro other found
    cases found
    exact inside
  · intro other last found ended _
    cases found
    rw [List.getLast?_concat, Option.some.injEq] at ended
    subst ended
    exact ⟨rfl, _, Nat.le_add_right _ _, Nat.le_refl _, rfl⟩
  · intro pair member same
    rcases pairs_getLast state.requests _ pair member with old | ⟨last, ended, rfl⟩
    · exact tracked.paced pair old same
    · exact request_gap state transport last op timing tracked isOpen ended same

theorem tracked_step (state next : SerialLine) (label : LineLabel) (tracked : state.Tracked)
    (taken : state.step label = some next) : next.Tracked := by
  cases label with
  | opened succeeds =>
    rw [SerialLine.step] at taken
    split at taken
    · cases taken
    split at taken <;> cases taken
    · exact tracked_opened state tracked
    · exact tracked
  | request op timing =>
    rw [SerialLine.step] at taken
    split at taken <;> cases taken
    exact tracked_request state _ op timing tracked ‹_›
  | freed =>
    rw [SerialLine.step] at taken
    split at taken <;> cases taken
    exact ⟨tracked.numbered, (fun _ found => by cases found), (fun _ _ found => by cases found), tracked.paced⟩
  | elapse time =>
    cases taken
    refine ⟨tracked.numbered, tracked.held, ?_, tracked.paced⟩
    intro transport last found ended own
    obtain ⟨recorded, readAt, finished, past, value⟩ := tracked.recorded transport last found ended own
    exact ⟨recorded, readAt, finished, Nat.le_add_right_of_le past, value⟩

theorem same_transport_paced (now : Nat) (labels : List LineLabel) (final : SerialLine)
    (reached : Runs.run SerialLine.step (.start now) labels = some final) :
    ∀ pair ∈ Sequences.pairs final.requests, SameTransport pair → Gap pair := by
  have start : (SerialLine.start now).Tracked :=
    ⟨fun _ member => (List.not_mem_nil member).elim, fun _ found => (Option.some_ne_none _ found.symm).elim,
      fun _ _ found => (Option.some_ne_none _ found.symm).elim, fun _ member => (List.not_mem_nil member).elim⟩
  have tracked := Runs.run_invariant SerialLine.step (.start now) (fun _ state => state.Tracked) start
    (fun _ state label next inv taken => tracked_step state next label inv taken) labels final reached
  exact tracked.paced

-- Ten milliseconds for the request, one to open or close the port, no other delay.
def plainTiming : OpTiming := { before := 0, extra := 0, setup := 0, duration := 10000000, after := 0 }

-- The probe of the first serial driver, the probe of the second one, and a read
-- through the transport that stays open.
def autoDetect : List LineLabel :=
  [.opened true, .elapse 1000000, .request .read plainTiming, .freed, .elapse 1000000,
    .opened true, .elapse 1000000, .request .read plainTiming, .request .read plainTiming]

theorem probes_unpaced : ¬GapsKept (Runs.final SerialLine.step (.start 1000000000) autoDetect).requests := by
  intro kept
  exact absurd (kept _ List.mem_cons_self) (by decide)

theorem probe_reads_paced :
    (Runs.run SerialLine.step (.start 1000000000) autoDetect).isSome = true ∧
      ∀ pair ∈ Sequences.pairs (Runs.final SerialLine.step (.start 1000000000) autoDetect).requests,
        SameTransport pair → Gap pair := by
  have completes : (Runs.run SerialLine.step (.start 1000000000) autoDetect).isSome = true := by decide
  exact ⟨completes, same_transport_paced 1000000000 autoDetect _ (Runs.run_final _ _ _ completes)⟩

end AiriesUps.Ups
