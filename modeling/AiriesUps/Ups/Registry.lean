import AiriesUps.Lib.Runs

set_option autoImplicit false

namespace AiriesUps.Ups

-- The calls that go to the driver under cmd_mutex.
inductive Op where
  | readStatus
  | readTransferReason
  | readDynamic
  | readInventory
  | readThresholds
  | command (name : String) (off : Bool)
  | configRead (register : String)
  | configWrite (register : String) (value : Nat)
deriving DecidableEq, Repr

-- The reads whose failures ups_handle_error counts.
def Op.counted : Op → Bool
  | .readStatus | .readTransferReason | .readDynamic | .configRead _ => true
  | _ => false

-- ups_driver_t: which functions it has. accepts is what a public function checks
-- before it takes the lock: the driver's function, the descriptor, the value.
structure Driver where
  hasConnect : Bool
  hasDetect : Bool
  hasDisconnect : Bool
  hasGetTopology : Bool
  hasResolveCaps : Bool
  hasResolveRegs : Bool
  accepts : Op → Bool

inductive DriverOp where
  | op (op : Op)
  | detect
  | resolveCaps
  | resolveConfigRegs
  | getTopology
deriving DecidableEq, Repr

-- One call into the driver. The transport is none for NULL.
structure Invocation where
  op : DriverOp
  transport : Option Nat
  connected : Bool
deriving DecidableEq, Repr

def Invocation.Sound (invocation : Invocation) : Prop :=
  invocation.transport.isSome = true ∧ invocation.connected = true

instance (invocation : Invocation) : Decidable invocation.Sound := by
  unfold Invocation.Sound
  infer_instance

inductive Phase where
  | ensuring
  | connecting
  | detecting (transport : Nat)
  | rejecting (transport : Nat)
  | adopting (transport : Nat)
  | resolvingCaps (transport : Nat)
  | resolvingRegs (transport : Nat)
  | refreshing (transport : Nat)
  | invoking
  | failed
  | disconnecting
  | clearing
  | leaving
deriving DecidableEq, Repr

structure Holder where
  thread : Nat
  op : Op
  phase : Phase
deriving DecidableEq, Repr

-- struct ups as the threads share it. live are the transports that are connected,
-- whoever points to them. loaded are the calls of ups_topology that have read
-- ups->transport and not yet called the driver: they take no lock. closed is set once
-- ups_close has run, which leaves ups->transport as it was.
structure Registry where
  transport : Option Nat
  consecutiveErrors : Nat
  lastReconnectAttempt : Int
  live : List Nat
  nextTransport : Nat
  holder : Option Holder
  loaded : List (Nat × Option Nat)
  closed : Bool
  log : List Invocation
deriving DecidableEq, Repr

def maxConsecutiveErrors : Nat := 5

def reconnectIntervalSec : Int := 2

def isLive (live : List Nat) (transport : Option Nat) : Bool :=
  match transport with
  | some id => live.contains id
  | none => false

def Registry.invoke (state : Registry) (op : DriverOp) (transport : Option Nat) : Registry :=
  { state with log := state.log ++ [{ op := op, transport := transport, connected := isLive state.live transport }] }

def Registry.addTransport (state : Registry) : Registry :=
  { state with live := state.nextTransport :: state.live, nextTransport := state.nextTransport + 1 }

def Registry.disconnect (state : Registry) (id : Nat) : Registry := { state with live := state.live.erase id }

def Registry.goto (state : Registry) (holder : Holder) (phase : Phase) : Registry :=
  { state with holder := some { holder with phase := phase } }

def tryReconnect (driver : Driver) (state : Registry) (holder : Holder) (now : Int) : Registry :=
  if !driver.hasConnect then state.goto holder .leaving
  else if now - state.lastReconnectAttempt < reconnectIntervalSec then state.goto holder .leaving
  else { state with lastReconnectAttempt := now }.goto holder .connecting

def handleError (driver : Driver) (state : Registry) (holder : Holder) : Registry :=
  let counted := { state with consecutiveErrors := state.consecutiveErrors + 1 }
  if counted.consecutiveErrors ≥ maxConsecutiveErrors then
    counted.goto holder (if state.transport.isSome && driver.hasDisconnect then .disconnecting else .clearing)
  else counted.goto holder .leaving

-- One step of the thread inside cmd_mutex; ok is the outcome of the driver's function
-- (or of the allocation), now the clock.
def advance (driver : Driver) (state : Registry) (holder : Holder) (ok : Bool) (now : Int) : Registry :=
  match holder.phase with
  | .ensuring =>
    if state.transport.isSome then state.goto holder .invoking else tryReconnect driver state holder now
  | .connecting =>
    if ok then
      state.addTransport.goto holder
        (if driver.hasDetect then .detecting state.nextTransport else .adopting state.nextTransport)
    else state.goto holder .leaving
  | .detecting id => (state.invoke .detect id).goto holder (if ok then .adopting id else .rejecting id)
  | .rejecting id => (if driver.hasDisconnect then state.disconnect id else state).goto holder .leaving
  | .adopting id => { state with transport := some id, consecutiveErrors := 0 }.goto holder (.resolvingCaps id)
  | .resolvingCaps id =>
    (if driver.hasResolveCaps then state.invoke .resolveCaps id else state).goto holder (.resolvingRegs id)
  | .resolvingRegs id =>
    (if driver.hasResolveRegs && ok then state.invoke .resolveConfigRegs id else state).goto holder (.refreshing id)
  | .refreshing id =>
    (if driver.accepts .readInventory then state.invoke (.op .readInventory) id else state).goto holder .invoking
  | .invoking =>
    let called := state.invoke (.op holder.op) state.transport
    if holder.op.counted then
      if ok then { called with consecutiveErrors := 0 }.goto holder .leaving else called.goto holder .failed
    else called.goto holder .leaving
  | .failed => handleError driver state holder
  | .disconnecting =>
    (match state.transport with
      | some id => state.disconnect id
      | none => state).goto holder .clearing
  | .clearing => { state with transport := none, lastReconnectAttempt := 0 }.goto holder .leaving
  | .leaving => { state with holder := none }

inductive UpsLabel where
  | call (thread : Nat) (op : Op)
  | advance (ok : Bool) (now : Int)
  | topology (thread : Nat)
  | getTopology (thread : Nat)
  | close (thread : Nat)
deriving DecidableEq, Repr

def Registry.free (state : Registry) (thread : Nat) : Bool :=
  state.loaded.all (fun entry => entry.1 != thread) &&
    match state.holder with
    | some holder => holder.thread != thread
    | none => true

-- It takes no lock either. What is called after it finds the freed handle as it was left.
def Registry.upsClose (driver : Driver) (state : Registry) : Registry :=
  match state.transport with
  | some id => { (if driver.hasDisconnect then state.disconnect id else state) with closed := true }
  | none => { state with closed := true }

def Registry.step (driver : Driver) : Runs.Step Registry UpsLabel
  | state, .call thread op =>
    if state.holder.isNone && state.free thread && driver.accepts op then
      some { state with holder := some { thread := thread, op := op, phase := .ensuring } }
    else none
  | state, .advance ok now => state.holder.map fun holder => advance driver state holder ok now
  | state, .topology thread =>
    if driver.hasGetTopology && state.free thread then
      some { state with loaded := (thread, state.transport) :: state.loaded }
    else none
  | state, .getTopology thread =>
    (state.loaded.find? fun entry => entry.1 == thread).map fun entry =>
      { state.invoke .getTopology entry.2 with loaded := state.loaded.erase entry }
  | state, .close thread => if state.free thread then some (state.upsClose driver) else none

-- One driver of the list ups_connect goes through, what its functions answer, and
-- whether the handle and the buffer of the resolved registers can be allocated.
structure Attempt where
  driver : Driver
  connects : Bool
  detects : Bool
  allocates : Bool
  resolves : Bool

def openHandle (driver : Driver) (resolves : Bool) (state : Registry) (id : Nat) : Registry :=
  let resolved := if driver.hasResolveCaps then state.invoke .resolveCaps id else state
  let narrowed := if driver.hasResolveRegs && resolves then resolved.invoke .resolveConfigRegs id else resolved
  let read := if driver.accepts .readInventory then narrowed.invoke (.op .readInventory) id else narrowed
  { read with transport := some id }

def connectLoop : Registry → List Attempt → Option (Driver × Registry)
  | _, [] => none
  | state, attempt :: rest =>
    if !(attempt.driver.hasConnect && attempt.driver.hasDetect) || !attempt.connects then connectLoop state rest
    else
      let id := state.nextTransport
      let probed := state.addTransport.invoke .detect id
      if attempt.detects then
        if attempt.allocates then some (attempt.driver, openHandle attempt.driver attempt.resolves probed id) else none
      else connectLoop (if attempt.driver.hasDisconnect then probed.disconnect id else probed) rest

def Registry.blank : Registry :=
  { transport := none, consecutiveErrors := 0, lastReconnectAttempt := 0, live := [], nextTransport := 0
    holder := none, loaded := [], closed := false, log := [] }

def upsConnect (attempts : List Attempt) : Option (Driver × Registry) := connectLoop .blank attempts

end AiriesUps.Ups
