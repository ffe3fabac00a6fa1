import AiriesUps.Lib.Runs
import AiriesUps.Lib.Tables
import AiriesUps.Shutdown.Result

set_option autoImplicit false

namespace AiriesUps.Shutdown

inductive WorkflowState where
  | idle
  | running
  | completed
deriving DecidableEq, Repr

-- The fields of struct shutdown_mgr that state_lock guards. A thread handle is
-- the position of the thread in the list of workers created so far, and 0 in a new
-- manager. workflowId is the uint64_t as long as there are fewer than 2^64 starts.
structure Manager where
  worker : Nat
  workerStarted : Bool
  state : WorkflowState
  workflowId : Nat
  activeDryRun : Bool
  startedAt : Int
  finishedAt : Int
  currentPhase : String
  currentTarget : String
  snapshot : Option Result
deriving DecidableEq, Repr

-- shutdown_create: calloc, state = SHUTDOWN_IDLE
def Manager.created : Manager :=
  { worker := 0, workerStarted := false, state := .idle, workflowId := 0, activeDryRun := false
    startedAt := 0, finishedAt := 0, currentPhase := "", currentTarget := "", snapshot := none }

-- CUTILS_OK, -EALREADY with *out_id, CUTILS_ERR
inductive StartResult where
  | ok
  | already (workflowId : Nat)
  | err
deriving DecidableEq, Repr

-- Where one call of shutdown_start_async is: before its lock section, after it
-- with the captured prior handle, after the join, after pthread_create.
inductive CallerPc where
  | entered
  | accepted (prior : Nat) (priorValid : Bool)
  | joined
  | spawned (newt : Nat)
  | spawnFailed
  | returned (result : StartResult)
deriving DecidableEq, Repr

structure Caller where
  dryRun : Bool
  workflowId : Nat
  pc : CallerPc
deriving DecidableEq, Repr

-- Where worker_main is: created, after its read of active_dry_run, after the
-- section that sets SHUTDOWN_COMPLETED, and exited.
inductive WorkerPc where
  | created
  | running
  | finished
  | exited
deriving DecidableEq, Repr

-- workflowId and requestedDry are those of the call that created the thread;
-- dryRun is the value the thread itself read. joins counts pthread_join calls.
structure Worker where
  workflowId : Nat
  requestedDry : Bool
  dryRun : Bool
  result : Result
  pc : WorkerPc
  joins : Nat
deriving DecidableEq, Repr

def Caller.newWorker (entry : Caller) : Worker :=
  { workflowId := entry.workflowId, requestedDry := entry.dryRun, dryRun := false, result := .empty
    pc := .created, joins := 0 }

inductive FreePc where
  | notCalled
  | captured (prior : Nat) (priorValid : Bool)
  | joined
  | freed
deriving DecidableEq, Repr

structure Async where
  mgr : Manager
  callers : List Caller
  workers : List Worker
  free : FreePc
deriving DecidableEq, Repr

def Async.initial : Async := { mgr := .created, callers := [], workers := [], free := .notCalled }

def Caller.goto (pc : CallerPc) (entry : Caller) : Caller := { entry with pc := pc }

def Async.setPc (state : Async) (caller : Nat) (pc : CallerPc) : Async :=
  { state with callers := state.callers.modify caller (Caller.goto pc) }

def Async.setWorker (state : Async) (worker : Nat) (change : Worker → Worker) : Async :=
  { state with workers := state.workers.modify worker change }

def Caller.accept (workflowId prior : Nat) (priorValid : Bool) (entry : Caller) : Caller :=
  { entry with workflowId := workflowId, pc := .accepted prior priorValid }

def lockStart (state : Async) (caller : Nat) (entry : Caller) (now : Int) (allocated : Bool) : Async :=
  if state.mgr.state = .running then
    state.setPc caller (.returned (.already state.mgr.workflowId))
  else
    let mgr := { state.mgr with
      workerStarted := false
      snapshot := if allocated then some .empty else none
      state := .running
      activeDryRun := entry.dryRun
      workflowId := state.mgr.workflowId + 1
      startedAt := now
      finishedAt := 0
      currentPhase := ""
      currentTarget := "" }
    { state with
      mgr := mgr
      callers := state.callers.modify caller
        (Caller.accept mgr.workflowId state.mgr.worker state.mgr.workerStarted) }

-- pthread_join(prior, NULL) under `if (prior_valid)`; it returns once the thread has exited.
def joinHandle (state : Async) (prior : Nat) (priorValid : Bool) : Option Async :=
  if priorValid then
    match state.workers[prior]? with
    | some worker =>
      if worker.pc = .exited then some (state.setWorker prior fun entry => { entry with joins := entry.joins + 1 })
      else none
    | none => some state
  else some state

-- The mirror of result_append: only while RUNNING and with a snapshot.
def mirrorRow (mgr : Manager) (row : StepResult) : Manager :=
  match mgr.snapshot with
  | some snapshot =>
    if mgr.state = .running then
      { mgr with snapshot := some (resultAppendTo snapshot row), currentPhase := row.phase, currentTarget := row.target }
    else mgr
  | none => mgr

inductive Label where
  | call (dryRun : Bool)
  | lockStart (caller : Nat) (now : Int) (allocated : Bool)
  | joinPrior (caller : Nat)
  | create (caller : Nat) (ok : Bool)
  | publish (caller : Nat)
  | spawnFailed (caller : Nat) (now : Int)
  | workerStart (worker : Nat)
  | workerRow (worker : Nat) (row : StepResult)
  | workerFinish (worker : Nat) (now : Int)
  | workerExit (worker : Nat)
  | freeLock
  | freeJoin
  | freeMgr
deriving DecidableEq, Repr

def CallerPc.isReturned : CallerPc → Bool
  | .returned _ => true
  | _ => false

-- One atomic step of one thread. shutdown_free is called once every call of
-- shutdown_start_async has returned, and none starts after that.
def Async.step : Runs.Step Async Label
  | state, .call dryRun =>
    if state.free = .notCalled then
      some { state with callers := state.callers ++ [{ dryRun := dryRun, workflowId := 0, pc := .entered }] }
    else none
  | state, .lockStart caller now allocated =>
    match state.callers[caller]? with
    | some entry => if entry.pc = .entered then some (lockStart state caller entry now allocated) else none
    | none => none
  | state, .joinPrior caller =>
    match state.callers[caller]? with
    | some ⟨_, _, .accepted prior priorValid⟩ =>
      (joinHandle state prior priorValid).map fun next => next.setPc caller .joined
    | _ => none
  | state, .create caller ok =>
    match state.callers[caller]? with
    | some ⟨dryRun, workflowId, .joined⟩ =>
      if ok then
        let entry : Caller := { dryRun := dryRun, workflowId := workflowId, pc := .joined }
        some ({ state with workers := state.workers ++ [entry.newWorker] }.setPc caller (.spawned state.workers.length))
      else some (state.setPc caller .spawnFailed)
    | _ => none
  | state, .publish caller =>
    match state.callers[caller]? with
    | some ⟨_, _, .spawned newt⟩ =>
      some ({ state with mgr := { state.mgr with worker := newt, workerStarted := true } }.setPc caller (.returned .ok))
    | _ => none
  | state, .spawnFailed caller now =>
    match state.callers[caller]? with
    | some ⟨_, _, .spawnFailed⟩ =>
      some ({ state with mgr := { state.mgr with state := .idle, finishedAt := now } }.setPc caller (.returned .err))
    | _ => none
  | state, .workerStart worker =>
    match state.workers[worker]? with
    | some entry =>
      if entry.pc = .created then
        some (state.setWorker worker fun entry => { entry with dryRun := state.mgr.activeDryRun, pc := .running })
      else none
    | none => none
  | state, .workerRow worker row =>
    match state.workers[worker]? with
    | some entry =>
      if entry.pc = .running then
        some ({ state with mgr := mirrorRow state.mgr row }.setWorker worker fun entry =>
          { entry with result := resultAppendTo entry.result row })
      else none
    | none => none
  | state, .workerFinish worker now =>
    match state.workers[worker]? with
    | some entry =>
      if entry.pc = .running then
        some ({ state with mgr := { state.mgr with state := .completed, finishedAt := now } }.setWorker worker fun entry =>
          { entry with pc := .finished })
      else none
    | none => none
  | state, .workerExit worker =>
    match state.workers[worker]? with
    | some entry =>
      if entry.pc = .finished then some (state.setWorker worker fun entry => { entry with pc := .exited }) else none
    | none => none
  | state, .freeLock =>
    if state.free = .notCalled ∧ ∀ entry ∈ state.callers, entry.pc.isReturned = true then
      some { state with
        mgr := { state.mgr with workerStarted := false }
        free := .captured state.mgr.worker state.mgr.workerStarted }
    else none
  | state, .freeJoin =>
    match state.free with
    | .captured prior priorValid =>
      (joinHandle state prior priorValid).map fun next => { next with free := .joined }
    | _ => none
  | state, .freeMgr =>
    if state.free = .joined then some { state with free := .freed } else none

-- Everything a step can do, with the branch conditions it was taken under.
inductive Stepped (state : Async) : Label → Async → Prop where
  | call (dryRun : Bool) (notCalled : state.free = .notCalled) :
      Stepped state (.call dryRun)
        { state with callers := state.callers ++ [{ dryRun := dryRun, workflowId := 0, pc := .entered }] }
  | rejected (caller : Nat) (entry : Caller) (now : Int) (allocated : Bool)
      (found : state.callers[caller]? = some entry) (entered : entry.pc = .entered)
      (running : state.mgr.state = .running) :
      Stepped state (.lockStart caller now allocated)
        (state.setPc caller (.returned (.already state.mgr.workflowId)))
  | accepted (caller : Nat) (entry : Caller) (now : Int) (allocated : Bool)
      (found : state.callers[caller]? = some entry) (entered : entry.pc = .entered)
      (free : state.mgr.state ≠ .running) :
      Stepped state (.lockStart caller now allocated) (lockStart state caller entry now allocated)
  | joined (caller : Nat) (entry : Caller) (prior : Nat) (priorValid : Bool) (joined : Async)
      (found : state.callers[caller]? = some entry) (accepted : entry.pc = .accepted prior priorValid)
      (handled : joinHandle state prior priorValid = some joined) :
      Stepped state (.joinPrior caller) (joined.setPc caller .joined)
  | spawned (caller : Nat) (entry : Caller) (found : state.callers[caller]? = some entry)
      (joined : entry.pc = .joined) :
      Stepped state (.create caller true)
        ({ state with workers := state.workers ++ [entry.newWorker] }.setPc caller (.spawned state.workers.length))
  | notSpawned (caller : Nat) (entry : Caller) (found : state.callers[caller]? = some entry)
      (joined : entry.pc = .joined) :
      Stepped state (.create caller false) (state.setPc caller .spawnFailed)
  | published (caller : Nat) (entry : Caller) (newt : Nat) (found : state.callers[caller]? = some entry)
      (spawned : entry.pc = .spawned newt) :
      Stepped state (.publish caller)
        ({ state with mgr := { state.mgr with worker := newt, workerStarted := true } }.setPc caller (.returned .ok))
  | failed (caller : Nat) (entry : Caller) (now : Int) (found : state.callers[caller]? = some entry)
      (spawnFailed : entry.pc = .spawnFailed) :
      Stepped state (.spawnFailed caller now)
        ({ state with mgr := { state.mgr with state := .idle, finishedAt := now } }.setPc caller (.returned .err))
  | workerStart (index : Nat) (worker : Worker) (found : state.workers[index]? = some worker)
      (created : worker.pc = .created) :
      Stepped state (.workerStart index)
        (state.setWorker index fun entry => { entry with dryRun := state.mgr.activeDryRun, pc := .running })
  | workerRow (index : Nat) (row : StepResult) (worker : Worker) (found : state.workers[index]? = some worker)
      (running : worker.pc = .running) :
      Stepped state (.workerRow index row)
        ({ state with mgr := mirrorRow state.mgr row }.setWorker index fun entry =>
          { entry with result := resultAppendTo entry.result row })
  | workerFinish (index : Nat) (now : Int) (worker : Worker) (found : state.workers[index]? = some worker)
      (running : worker.pc = .running) :
      Stepped state (.workerFinish index now)
        ({ state with mgr := { state.mgr with state := .completed, finishedAt := now } }.setWorker index fun entry =>
          { entry with pc := .finished })
  | workerExit (index : Nat) (worker : Worker) (found : state.workers[index]? = some worker)
      (finished : worker.pc = .finished) :
      Stepped state (.workerExit index) (state.setWorker index fun entry => { entry with pc := .exited })
  | freeLock (notCalled : state.free = .notCalled) (returned : ∀ entry ∈ state.callers, entry.pc.isReturned = true) :
      Stepped state .freeLock
        { state with
          mgr := { state.mgr with workerStarted := false }
          free := .captured state.mgr.worker state.mgr.workerStarted }
  | freeJoin (prior : Nat) (priorValid : Bool) (joined : Async) (captured : state.free = .captured prior priorValid)
      (handled : joinHandle state prior priorValid = some joined) :
      Stepped state .freeJoin { joined with free := .joined }
  | freeMgr (joined : state.free = .joined) : Stepped state .freeMgr { state with free := .freed }

theorem step_cases (state next : Async) (label : Label) (taken : state.step label = some next) :
    Stepped state label next := by
  cases label with
  | call dryRun =>
    simp only [Async.step, Option.ite_none_right_eq_some, Option.some.injEq] at taken
    obtain ⟨notCalled, rfl⟩ := taken
    exact .call dryRun notCalled
  | lockStart caller now allocated =>
    simp only [Async.step] at taken
    split at taken
    · rename_i entry found
      simp only [Option.ite_none_right_eq_some, Option.some.injEq] at taken
      obtain ⟨entered, rfl⟩ := taken
      by_cases running : state.mgr.state = .running
      · rw [lockStart, if_pos running]
        exact .rejected caller entry now allocated found entered running
      · exact .accepted caller entry now allocated found entered running
    · cases taken
  | joinPrior caller =>
    simp only [Async.step] at taken
    split at taken
    · rename_i dryRun workflowId prior priorValid found
      obtain ⟨joined, handled, rfl⟩ := Option.map_eq_some_iff.mp taken
      exact .joined caller _ prior priorValid joined found rfl handled
    · cases taken
  | create caller ok =>
    simp only [Async.step] at taken
    split at taken
    · rename_i dryRun workflowId found
      cases ok with
      | true =>
        cases taken
        exact .spawned caller _ found rfl
      | false =>
        cases taken
        exact .notSpawned caller _ found rfl
    · cases taken
  | publish caller =>
    simp only [Async.step] at taken
    split at taken
    · rename_i dryRun workflowId newt found
      cases taken
      exact .published caller _ newt found rfl
    · cases taken
  | spawnFailed caller now =>
    simp only [Async.step] at taken
    split at taken
    · rename_i dryRun workflowId found
      cases taken
      exact .failed caller _ now found rfl
    · cases taken
  | workerStart index =>
    simp only [Async.step] at taken
    split at taken
    · rename_i worker found
      simp only [Option.ite_none_right_eq_some, Option.some.injEq] at taken
      obtain ⟨created, rfl⟩ := taken
      exact .workerStart index worker found created
    · cases taken
  | workerRow index row =>
    simp only [Async.step] at taken
    split at taken
    · rename_i worker found
      simp only [Option.ite_none_right_eq_some, Option.some.injEq] at taken
      obtain ⟨running, rfl⟩ := taken
      exact .workerRow index row worker found running
    · cases taken
  | workerFinish index now =>
    simp only [Async.step] at taken
    split at taken
    · rename_i worker found
      simp only [Option.ite_none_right_eq_some, Option.some.injEq] at taken
      obtain ⟨running, rfl⟩ := taken
      exact .workerFinish index now worker found running
    · cases taken
  | workerExit index =>
    simp only [Async.step] at taken
    split at taken
    · rename_i worker found
      simp only [Option.ite_none_right_eq_some, Option.some.injEq] at taken
      obtain ⟨finished, rfl⟩ := taken
      exact .workerExit index worker found finished
    · cases taken
  | freeLock =>
    simp only [Async.step, Option.ite_none_right_eq_some, Option.some.injEq] at taken
    obtain ⟨⟨notCalled, returned⟩, rfl⟩ := taken
    exact .freeLock notCalled returned
  | freeJoin =>
    simp only [Async.step] at taken
    split at taken
    · rename_i prior priorValid captured
      obtain ⟨joined, handled, rfl⟩ := Option.map_eq_some_iff.mp taken
      exact .freeJoin prior priorValid joined captured handled
    · cases taken
  | freeMgr =>
    simp only [Async.step, Option.ite_none_right_eq_some, Option.some.injEq] at taken
    obtain ⟨joined, rfl⟩ := taken
    exact .freeMgr joined

theorem join_handle_spec (state next : Async) (prior : Nat) (priorValid : Bool)
    (taken : joinHandle state prior priorValid = some next) :
    (priorValid = true ∧ (∃ worker, state.workers[prior]? = some worker ∧ worker.pc = .exited) ∧
        next = state.setWorker prior fun entry => { entry with joins := entry.joins + 1 }) ∨
      ((priorValid = true → state.workers[prior]? = none) ∧ next = state) := by
  rw [joinHandle] at taken
  split at taken
  · rename_i valid
    split at taken
    · rename_i worker found
      simp only [Option.ite_none_right_eq_some, Option.some.injEq] at taken
      exact Or.inl ⟨valid, ⟨worker, found, taken.1⟩, taken.2.symm⟩
    · rename_i missing
      cases taken
      exact Or.inr ⟨fun _ => missing, rfl⟩
  · rename_i invalid
    cases taken
    exact Or.inr ⟨fun valid => absurd valid invalid, rfl⟩

end AiriesUps.Shutdown
