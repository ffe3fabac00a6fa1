import Mathlib.Logic.Function.Basic
import AiriesUps.Shutdown.Async

set_option autoImplicit false

namespace AiriesUps.Daemon

inductive Object where
  | monitor
  | fastLoop
  | weather
  | ups
  | shutdown
  | sse
deriving DecidableEq, Repr

-- The threads besides main and the workflow workers; a handler is one request
-- of the API server, on the connection thread that serves it.
inductive Thread where
  | slow
  | fast
  | weather
  | handler (index : Nat)
deriving DecidableEq, Repr

-- The objects a thread holds pointers to, or finds through the ones it holds.
def Thread.reach : Thread → List Object
  | .slow => [.monitor, .fastLoop, .ups, .shutdown, .sse]
  | .fast => [.fastLoop, .monitor, .ups, .sse]
  | .weather => [.weather, .monitor, .ups, .sse]
  | .handler _ => [.monitor, .ups, .shutdown, .sse, .weather]

-- The pointer a thread loads anew each time: mon->fast_loop, route_ctx.weather.
def Thread.loaded : Thread → Option Object
  | .slow => some .fastLoop
  | .handler _ => some .weather
  | .fast | .weather => none

-- emit_event goes through the monitor to the event callbacks, the broadcaster's among them.
def workerReach : List Object := [.shutdown, .monitor, .ups, .sse]

-- shutdown_check_trigger in the poll callback, handle_cmd in a request.
def Thread.startsWorkflows : Thread → Bool
  | .slow | .handler _ => true
  | .fast | .weather => false

-- Where a thread is: at its loop condition, in an iteration (or a request), with
-- a loaded pointer in hand, inside its call of shutdown_start_async, over.
inductive Pc where
  | check
  | body
  | holding (object : Object)
  | starting (caller : Nat)
  | ended
deriving DecidableEq, Repr

-- Where main is in its teardown; each is reached by the call or store named.
inductive MainPc where
  | serving
  | weatherStopping
  | weatherJoined
  | weatherFreed
  | sseShut
  | apiStopped
  | monitorStopping
  | fastStopping
  | fastJoined
  | fastFreed
  | fastCleared
  | slowJoined
  | monitorFreed
  | upsClosed
  | workerCaptured
  | workerJoined
  | shutdownFreed
  | sseDestroyed
deriving DecidableEq, Repr

def MainPc.rank : MainPc → Nat
  | .serving => 0
  | .weatherStopping => 1
  | .weatherJoined => 2
  | .weatherFreed => 3
  | .sseShut => 4
  | .apiStopped => 5
  | .monitorStopping => 6
  | .fastStopping => 7
  | .fastJoined => 8
  | .fastFreed => 9
  | .fastCleared => 10
  | .slowJoined => 11
  | .monitorFreed => 12
  | .upsClosed => 13
  | .workerCaptured => 14
  | .workerJoined => 15
  | .shutdownFreed => 16
  | .sseDestroyed => 17

def MainPc.past (main stage : MainPc) : Bool := decide (stage.rank ≤ main.rank)

-- What exists besides the monitor: weather_create and fast_loop_start may give none.
structure Setup where
  weather : Bool
  fastLoop : Bool
deriving DecidableEq, Repr

inductive Actor where
  | main
  | thread (thread : Thread)
  | caller (index : Nat)
  | worker (index : Nat)
deriving DecidableEq, Repr

-- One access to an object, and whether the object had been freed before it.
structure Use where
  actor : Actor
  object : Object
  freed : Bool
deriving DecidableEq, Repr

def MainPc.freed (main : MainPc) (setup : Setup) : Object → Bool
  | .weather => setup.weather && main.past .weatherFreed
  | .fastLoop => setup.fastLoop && main.past .fastFreed
  | .monitor => main.past .monitorFreed
  | .ups => main.past .upsClosed
  | .shutdown => main.past .shutdownFreed
  | .sse => main.past .sseDestroyed

structure State where
  setup : Setup
  main : MainPc
  pcs : Thread → Pc
  opened : Nat
  monitorRunning : Bool
  fastRunning : Bool
  weatherRunning : Bool
  fastLoopSet : Bool
  async : Shutdown.Async
  uses : List Use

def State.initial (setup : Setup) : State :=
  { setup
    main := .serving
    pcs := fun thread =>
      match thread with
      | .slow => .body
      | .fast => if setup.fastLoop then .check else .ended
      | .weather => if setup.weather then .body else .ended
      | .handler _ => .ended
    opened := 0
    monitorRunning := true
    fastRunning := setup.fastLoop
    weatherRunning := setup.weather
    fastLoopSet := setup.fastLoop
    async := .initial
    uses := [] }

namespace State

def isFreed (state : State) (object : Object) : Bool := state.main.freed state.setup object

def use (state : State) (actor : Actor) (object : Object) : State :=
  { state with uses := state.uses ++ [{ actor, object, freed := state.isFreed object }] }

def useIf (state : State) (present : Bool) (actor : Actor) (object : Object) : State :=
  { state with uses := if present then (state.use actor object).uses else state.uses }

def goto (state : State) (thread : Thread) (pc : Pc) : State :=
  { state with pcs := Function.update state.pcs thread pc }

def openRequest (state : State) : State :=
  { state.goto (.handler state.opened) .body with opened := state.opened + 1 }

-- The API server takes requests until MHD_stop_daemon has returned.
def accepting (state : State) : Bool := !state.main.past .apiStopped

def loopFlag (state : State) : Thread → Option (Object × Bool)
  | .slow => some (.monitor, state.monitorRunning)
  | .fast => some (.fastLoop, state.fastRunning)
  | .weather => some (.weather, state.weatherRunning)
  | .handler _ => none

-- Whether the pointer a thread loads is there; mon->fast_loop is read from the monitor.
def load (state : State) (thread : Thread) : Option State :=
  match thread with
  | .slow =>
    let read := state.use (.thread .slow) .monitor
    some (if state.fastLoopSet then read.goto .slow (.holding .fastLoop) else read)
  | .handler index =>
    some (if state.setup.weather then state.goto (.handler index) (.holding .weather) else state)
  | .fast | .weather => none

-- The next step of main's teardown, from its loop to sse_broadcaster_destroy.
def mainStep (state : State) : Option State :=
  match state.main with
  | .serving =>
    some { state.useIf state.setup.weather .main .weather with weatherRunning := false, main := .weatherStopping }
  | .weatherStopping =>
    if state.pcs .weather = .ended then
      some { state.useIf state.setup.weather .main .weather with main := .weatherJoined }
    else none
  | .weatherJoined => some { state with main := .weatherFreed }
  | .weatherFreed => some { state.use .main .sse with main := .sseShut }
  | .sseShut =>
    if ∀ index, index < state.opened → state.pcs (.handler index) = .ended then some { state with main := .apiStopped }
    else none
  | .apiStopped => some { state.use .main .monitor with monitorRunning := false, main := .monitorStopping }
  | .monitorStopping =>
    some { (state.use .main .monitor).useIf state.setup.fastLoop .main .fastLoop with
      fastRunning := false
      main := .fastStopping }
  | .fastStopping =>
    if state.pcs .fast = .ended then
      some { state.useIf state.setup.fastLoop .main .fastLoop with main := .fastJoined }
    else none
  | .fastJoined => some { state with main := .fastFreed }
  | .fastFreed => some { state.use .main .monitor with fastLoopSet := false, main := .fastCleared }
  | .fastCleared =>
    if state.pcs .slow = .ended then some { state.use .main .monitor with main := .slowJoined } else none
  | .slowJoined => some { state.use .main .monitor with main := .monitorFreed }
  | .monitorFreed => some { state.use .main .ups with main := .upsClosed }
  | .upsClosed =>
    (state.async.step .freeLock).map fun async =>
      { state.use .main .shutdown with async := async, main := .workerCaptured }
  | .workerCaptured => (state.async.step .freeJoin).map fun async => { state with async := async, main := .workerJoined }
  | .workerJoined =>
    (state.async.step .freeMgr).map fun async =>
      { state.use .main .shutdown with async := async, main := .shutdownFreed }
  | .shutdownFreed => some { state.use .main .sse with main := .sseDestroyed }
  | .sseDestroyed => none

theorem goto_self (state : State) (thread : Thread) (pc : Pc) : (state.goto thread pc).pcs thread = pc :=
  Function.update_self _ _ _

theorem goto_other (state : State) (thread other : Thread) (pc : Pc) (differs : other ≠ thread) :
    (state.goto thread pc).pcs other = state.pcs other :=
  Function.update_of_ne differs _ _

end State

def workflowActor : Shutdown.Label → Option Actor
  | .lockStart caller _ _ | .joinPrior caller | .create caller _ | .publish caller | .spawnFailed caller _ =>
    some (.caller caller)
  | .workerStart worker | .workerRow worker _ | .workerFinish worker _ | .workerExit worker => some (.worker worker)
  | .call _ | .freeLock | .freeJoin | .freeMgr => none

def locksManager : Shutdown.Label → Bool
  | .lockStart _ _ _ | .publish _ | .spawnFailed _ _ | .workerStart _ | .workerRow _ _ | .workerFinish _ _ => true
  | _ => false

-- worker_main has not yet left its last lock section.
def inBody (worker : Shutdown.Worker) : Bool := worker.pc = .created || worker.pc = .running

inductive Label where
  | main
  | check (thread : Thread)
  | next (thread : Thread)
  | openRequest
  | touch (thread : Thread) (object : Object)
  | load (thread : Thread)
  | follow (thread : Thread)
  | release (thread : Thread)
  | startAsync (thread : Thread) (dryRun : Bool)
  | started (thread : Thread)
  | closeRequest (index : Nat)
  | workflow (label : Shutdown.Label)
  | workerTouch (worker : Nat) (object : Object)
deriving DecidableEq, Repr

-- One step of one thread. In its body a thread uses its objects in any order and
-- number, which covers every branch of its iteration.
def step : Runs.Step State Label
  | state, .main => state.mainStep
  | state, .check thread =>
    match state.pcs thread, state.loopFlag thread with
    | .check, some (object, running) =>
      some ((state.use (.thread thread) object).goto thread (if running then .body else .ended))
    | _, _ => none
  | state, .next thread =>
    match state.pcs thread, state.loopFlag thread with
    | .body, some _ => some (state.goto thread .check)
    | _, _ => none
  | state, .openRequest => if state.accepting then some state.openRequest else none
  | state, .touch thread object =>
    if state.pcs thread = .body ∧ object ∈ thread.reach ∧ thread.loaded ≠ some object then
      some (state.use (.thread thread) object)
    else none
  | state, .load thread => if state.pcs thread = .body then state.load thread else none
  | state, .follow thread =>
    match state.pcs thread with
    | .holding object => some (state.use (.thread thread) object)
    | _ => none
  | state, .release thread =>
    match state.pcs thread with
    | .holding _ => some (state.goto thread .body)
    | _ => none
  | state, .startAsync thread dryRun =>
    if state.pcs thread = .body ∧ thread.startsWorkflows = true then
      (state.async.step (.call dryRun)).map fun async =>
        { state.goto thread (.starting state.async.callers.length) with async := async }
    else none
  | state, .started thread =>
    match state.pcs thread with
    | .starting caller =>
      match state.async.callers[caller]? with
      | some entry => if entry.pc.isReturned then some (state.goto thread .body) else none
      | none => none
    | _ => none
  | state, .closeRequest index =>
    if state.pcs (.handler index) = .body then some (state.goto (.handler index) .ended) else none
  | state, .workflow label =>
    match workflowActor label with
    | some actor =>
      (state.async.step label).map fun async => { state.useIf (locksManager label) actor .shutdown with async := async }
    | none => none
  | state, .workerTouch worker object =>
    match state.async.workers[worker]? with
    | some entry =>
      if entry.pc = .running ∧ object ∈ workerReach then some (state.use (.worker worker) object) else none
    | none => none

-- The object can still be used: by a thread that is not over, by a request the
-- API server may still take, or by a workflow worker in its body.
def State.reachable (state : State) (object : Object) : Prop :=
  (∃ thread, state.pcs thread ≠ .ended ∧ object ∈ thread.reach) ∨
    (state.accepting = true ∧ object ∈ (Thread.handler state.opened).reach) ∨
    ∃ worker ∈ state.async.workers, inBody worker = true ∧ object ∈ workerReach

-- Nothing was used after its free, and nothing that has been freed can be reached.
structure Safe (state : State) : Prop where
  usesLive : ∀ use ∈ state.uses, use.freed = false
  unreachable : ∀ object, state.isFreed object = true → ¬state.reachable object

end AiriesUps.Daemon
