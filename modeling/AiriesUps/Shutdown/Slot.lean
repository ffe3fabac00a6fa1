import AiriesUps.Shutdown.WorkerCustody

set_option autoImplicit false

namespace AiriesUps.Shutdown

-- The RUNNING state is a slot. An accepted call owns it until it has created its
-- worker or set the state back to IDLE; the worker owns it until its completion section.
def CallerPc.ownsSlot : CallerPc → Bool
  | .accepted _ _ | .joined | .spawnFailed => true
  | .entered | .spawned _ | .returned _ => false

def WorkerPc.ownsSlot : WorkerPc → Bool
  | .created | .running => true
  | .finished | .exited => false

def Caller.ownsSlot (entry : Caller) : Bool := entry.pc.ownsSlot

def Worker.ownsSlot (worker : Worker) : Bool := worker.pc.ownsSlot

def slotOwners (state : Async) : Nat := state.callers.countP Caller.ownsSlot + state.workers.countP Worker.ownsSlot

-- The slot has one owner while the state is RUNNING and none otherwise, and its
-- owner carries the id and the mode that the manager shows. Nothing here asks who
-- holds a thread handle, so it survives a call accepted before the last publish.
structure SlotOwned (state : Async) : Prop where
  owners : slotOwners state = if state.mgr.state = .running then 1 else 0
  caller : ∀ entry ∈ state.callers, entry.ownsSlot = true →
    entry.workflowId = state.mgr.workflowId ∧ entry.dryRun = state.mgr.activeDryRun
  worker : ∀ worker ∈ state.workers, worker.ownsSlot = true →
    worker.workflowId = state.mgr.workflowId ∧ worker.requestedDry = state.mgr.activeDryRun
  mode : ∀ worker ∈ state.workers, worker.pc ≠ .created → worker.dryRun = worker.requestedDry

theorem slot_initial : SlotOwned Async.initial := by
  refine ⟨rfl, ?_, ?_, ?_⟩ <;> simp [Async.initial]

theorem unowned_caller (state : Async) (none : slotOwners state = 0) (entry : Caller) (member : entry ∈ state.callers) :
    entry.ownsSlot = false := by
  have callers : state.callers.countP Caller.ownsSlot = 0 := by
    rw [slotOwners] at none
    omega
  simpa using List.countP_eq_zero.mp callers entry member

theorem unowned_worker (state : Async) (none : slotOwners state = 0) (worker : Worker) (member : worker ∈ state.workers) :
    worker.ownsSlot = false := by
  have workers : state.workers.countP Worker.ownsSlot = 0 := by
    rw [slotOwners] at none
    omega
  simpa using List.countP_eq_zero.mp workers worker member

theorem owner_means_running (state : Async) (owned : SlotOwned state) (some : 0 < slotOwners state) :
    state.mgr.state = .running := by
  have owners := owned.owners
  by_contra free
  rw [if_neg free] at owners
  omega

theorem owning_caller_runs (state : Async) (owned : SlotOwned state) (entry : Caller) (member : entry ∈ state.callers)
    (owns : entry.ownsSlot = true) : state.mgr.state = .running := by
  have counted : 0 < state.callers.countP Caller.ownsSlot := List.countP_pos_iff.mpr ⟨entry, member, owns⟩
  exact owner_means_running state owned (by rw [slotOwners]; omega)

theorem owning_worker_runs (state : Async) (owned : SlotOwned state) (worker : Worker) (member : worker ∈ state.workers)
    (owns : worker.ownsSlot = true) : state.mgr.state = .running := by
  have counted : 0 < state.workers.countP Worker.ownsSlot := List.countP_pos_iff.mpr ⟨worker, member, owns⟩
  exact owner_means_running state owned (by rw [slotOwners]; omega)

-- A change of the manager that is silent on the state, the id and the mode.
theorem slot_manager (state : Async) (mgr : Manager) (free : FreePc) (owned : SlotOwned state)
    (sameState : mgr.state = state.mgr.state) (sameId : mgr.workflowId = state.mgr.workflowId)
    (sameMode : mgr.activeDryRun = state.mgr.activeDryRun) : SlotOwned { state with mgr := mgr, free := free } := by
  refine ⟨?_, ?_, ?_, owned.mode⟩
  · rw [sameState]
    exact owned.owners
  · rw [sameId, sameMode]
    exact owned.caller
  · rw [sameId, sameMode]
    exact owned.worker

theorem slot_caller_moves (state : Async) (caller : Nat) (entry : Caller) (pc : CallerPc) (owned : SlotOwned state)
    (found : state.callers[caller]? = some entry) (same : pc.ownsSlot = entry.ownsSlot) :
    SlotOwned (state.setPc caller pc) := by
  refine ⟨?_, ?_, owned.worker, owned.mode⟩
  · have counted := Tables.count_modify Caller.ownsSlot (Caller.goto pc) state.callers caller entry found
    have kept : (Caller.goto pc entry).ownsSlot = entry.ownsSlot := same
    rw [kept] at counted
    have unmoved : slotOwners (state.setPc caller pc) = slotOwners state := by
      simp only [slotOwners, Async.setPc]
      omega
    rw [unmoved]
    exact owned.owners
  · intro moved member owns
    obtain rfl | old := Tables.changed_member state.callers caller (Caller.goto pc) _ moved found member
    · exact owned.caller entry (List.mem_of_getElem? found) (same ▸ owns)
    · exact owned.caller moved old owns

theorem slot_worker_moves (state : Async) (index : Nat) (worker : Worker) (change : Worker → Worker)
    (owned : SlotOwned state) (found : state.workers[index]? = some worker)
    (same : (change worker).ownsSlot = worker.ownsSlot) (sameId : (change worker).workflowId = worker.workflowId)
    (sameMode : (change worker).requestedDry = worker.requestedDry)
    (read : (change worker).pc ≠ .created → (change worker).dryRun = (change worker).requestedDry) :
    SlotOwned (state.setWorker index change) := by
  have old : worker ∈ state.workers := List.mem_of_getElem? found
  refine ⟨?_, owned.caller, ?_, ?_⟩
  · have counted := Tables.count_modify Worker.ownsSlot change state.workers index worker found
    rw [same] at counted
    have unmoved : slotOwners (state.setWorker index change) = slotOwners state := by
      simp only [slotOwners, Async.setWorker]
      omega
    rw [unmoved]
    exact owned.owners
  · intro moved member owns
    obtain rfl | kept := Tables.changed_member state.workers index change _ moved found member
    · rw [sameId, sameMode]
      exact owned.worker worker old (same ▸ owns)
    · exact owned.worker moved kept owns
  · intro moved member started
    obtain rfl | kept := Tables.changed_member state.workers index change _ moved found member
    · exact read started
    · exact owned.mode moved kept started

theorem slot_call (state : Async) (dryRun : Bool) (owned : SlotOwned state) :
    SlotOwned { state with callers := state.callers ++ [{ dryRun := dryRun, workflowId := 0, pc := .entered }] } := by
  refine ⟨?_, ?_, owned.worker, owned.mode⟩
  · rw [slotOwners, Tables.count_append]
    exact owned.owners
  · intro entry member owns
    obtain old | new := List.mem_append.mp member
    · exact owned.caller entry old owns
    · rw [List.mem_singleton.mp new] at owns
      cases owns

theorem slot_accepted (state : Async) (caller : Nat) (entry : Caller) (now : Int) (allocated : Bool)
    (owned : SlotOwned state) (found : state.callers[caller]? = some entry) (entered : entry.pc = .entered)
    (free : state.mgr.state ≠ .running) : SlotOwned (lockStart state caller entry now allocated) := by
  have none : slotOwners state = 0 := by rw [owned.owners, if_neg free]
  simp only [lockStart, if_neg free]
  refine ⟨?_, ?_, ?_, owned.mode⟩
  · have counted := Tables.count_modify Caller.ownsSlot
      (Caller.accept (state.mgr.workflowId + 1) state.mgr.worker state.mgr.workerStarted) state.callers caller entry found
    have idle : entry.ownsSlot = false := by rw [Caller.ownsSlot, entered]; rfl
    have owns : (Caller.accept (state.mgr.workflowId + 1) state.mgr.worker state.mgr.workerStarted entry).ownsSlot = true := rfl
    rw [idle, owns] at counted
    simp only [slotOwners, Bool.toNat_false, Bool.toNat_true, if_true] at none counted ⊢
    omega
  · intro moved member owns
    obtain rfl | old := Tables.changed_member state.callers caller _ _ moved found member
    · exact ⟨rfl, rfl⟩
    · rw [unowned_caller state none moved old] at owns
      cases owns
  · intro worker member owns
    rw [unowned_worker state none worker member] at owns
    cases owns

theorem slot_spawned (state : Async) (caller : Nat) (entry : Caller) (owned : SlotOwned state)
    (found : state.callers[caller]? = some entry) (joined : entry.pc = .joined) :
    SlotOwned ({ state with workers := state.workers ++ [entry.newWorker] }.setPc caller (.spawned state.workers.length)) := by
  have owner : entry.ownsSlot = true := by rw [Caller.ownsSlot, joined]; rfl
  have shown := owned.caller entry (List.mem_of_getElem? found) owner
  refine ⟨?_, ?_, ?_, ?_⟩
  · have counted := Tables.count_modify Caller.ownsSlot (Caller.goto (.spawned state.workers.length)) state.callers
      caller entry found
    have left : (Caller.goto (.spawned state.workers.length) entry).ownsSlot = false := rfl
    have taken : entry.newWorker.ownsSlot = true := rfl
    have added := Tables.count_append Worker.ownsSlot state.workers entry.newWorker
    rw [owner, left, Bool.toNat_true, Bool.toNat_false] at counted
    rw [taken, Bool.toNat_true] at added
    have unmoved : slotOwners ({ state with workers := state.workers ++ [entry.newWorker] }.setPc caller
        (.spawned state.workers.length)) = slotOwners state := by
      simp only [slotOwners, Async.setPc]
      omega
    rw [unmoved]
    exact owned.owners
  · intro moved member owns
    obtain ⟨before, original, rfl⟩ | old := Tables.modify_member state.callers caller _ moved member
    · cases owns
    · exact owned.caller moved old owns
  · intro worker member owns
    obtain old | new := List.mem_append.mp member
    · exact owned.worker worker old owns
    · rw [List.mem_singleton.mp new]
      exact shown
  · intro worker member started
    obtain old | new := List.mem_append.mp member
    · exact owned.mode worker old started
    · rw [List.mem_singleton.mp new] at started
      exact absurd rfl started

-- The slot is given back by a call whose pthread_create failed.
theorem slot_spawn_failed (state : Async) (caller : Nat) (entry : Caller) (now : Int) (owned : SlotOwned state)
    (found : state.callers[caller]? = some entry) (spawnFailed : entry.pc = .spawnFailed) :
    SlotOwned ({ state with mgr := { state.mgr with state := .idle, finishedAt := now } }.setPc caller (.returned .err)) := by
  have owner : entry.ownsSlot = true := by rw [Caller.ownsSlot, spawnFailed]; rfl
  have running := owning_caller_runs state owned entry (List.mem_of_getElem? found) owner
  refine ⟨?_, ?_, owned.worker, owned.mode⟩
  · have counted := Tables.count_modify Caller.ownsSlot (Caller.goto (.returned .err)) state.callers caller entry found
    have left : (Caller.goto (.returned .err) entry).ownsSlot = false := rfl
    have owners := owned.owners
    rw [owner, left, Bool.toNat_true, Bool.toNat_false] at counted
    rw [if_pos running] at owners
    simp only [slotOwners, Async.setPc, reduceCtorEq, if_false] at owners ⊢
    omega
  · intro moved member owns
    obtain ⟨before, original, rfl⟩ | old := Tables.modify_member state.callers caller _ moved member
    · cases owns
    · exact owned.caller moved old owns

-- And by the completion section of the worker.
theorem slot_finished (state : Async) (index : Nat) (now : Int) (worker : Worker) (owned : SlotOwned state)
    (found : state.workers[index]? = some worker) (runs : worker.pc = .running) :
    SlotOwned ({ state with mgr := { state.mgr with state := .completed, finishedAt := now } }.setWorker index fun entry =>
      { entry with pc := .finished }) := by
  have old : worker ∈ state.workers := List.mem_of_getElem? found
  have owner : worker.ownsSlot = true := by rw [Worker.ownsSlot, runs]; rfl
  have running := owning_worker_runs state owned worker old owner
  refine ⟨?_, owned.caller, ?_, ?_⟩
  · have counted := Tables.count_modify Worker.ownsSlot (fun entry => { entry with pc := .finished }) state.workers index
      worker found
    have left : ({ worker with pc := .finished } : Worker).ownsSlot = false := rfl
    have owners := owned.owners
    rw [owner, left, Bool.toNat_true, Bool.toNat_false] at counted
    rw [if_pos running] at owners
    simp only [slotOwners, Async.setWorker, reduceCtorEq, if_false] at owners ⊢
    omega
  · intro moved member owns
    obtain ⟨before, original, rfl⟩ | kept := Tables.modify_member state.workers index _ moved member
    · cases owns
    · exact owned.worker moved kept owns
  · intro moved member started
    obtain rfl | kept := Tables.changed_member state.workers index _ _ moved found member
    · exact owned.mode worker old (by rw [runs]; simp)
    · exact owned.mode moved kept started

theorem mirror_row_silent (mgr : Manager) (row : StepResult) :
    (mirrorRow mgr row).state = mgr.state ∧ (mirrorRow mgr row).workflowId = mgr.workflowId ∧
      (mirrorRow mgr row).activeDryRun = mgr.activeDryRun := by
  rw [mirrorRow]
  split
  · split <;> exact ⟨rfl, rfl, rfl⟩
  · exact ⟨rfl, rfl, rfl⟩

theorem slot_join (state next : Async) (prior : Nat) (priorValid : Bool) (owned : SlotOwned state)
    (handled : joinHandle state prior priorValid = some next) : SlotOwned next ∧ next.callers = state.callers := by
  obtain ⟨_, ⟨worker, found, _⟩, rfl⟩ | ⟨_, rfl⟩ := join_handle_spec state next prior priorValid handled
  · exact ⟨slot_worker_moves state prior worker _ owned found rfl rfl rfl
      (owned.mode worker (List.mem_of_getElem? found)), rfl⟩
  · exact ⟨owned, rfl⟩

theorem slot_step (state next : Async) (label : Label) (owned : SlotOwned state)
    (taken : state.step label = some next) : SlotOwned next := by
  cases step_cases state next label taken with
  | call dryRun => exact slot_call state dryRun owned
  | rejected caller entry now allocated found entered _ =>
    exact slot_caller_moves state caller entry _ owned found (by rw [Caller.ownsSlot, entered]; rfl)
  | accepted caller entry now allocated found entered free =>
    exact slot_accepted state caller entry now allocated owned found entered free
  | joined caller entry prior priorValid joined found accepted handled =>
    obtain ⟨kept, sameCallers⟩ := slot_join state joined prior priorValid owned handled
    exact slot_caller_moves joined caller entry _ kept (sameCallers ▸ found) (by rw [Caller.ownsSlot, accepted]; rfl)
  | spawned caller entry found joined => exact slot_spawned state caller entry owned found joined
  | notSpawned caller entry found joined =>
    exact slot_caller_moves state caller entry _ owned found (by rw [Caller.ownsSlot, joined]; rfl)
  | published caller entry newt found spawned =>
    have kept := slot_manager state { state.mgr with worker := newt, workerStarted := true } state.free owned rfl rfl rfl
    exact slot_caller_moves _ caller entry _ kept found (by rw [Caller.ownsSlot, spawned]; rfl)
  | failed caller entry now found spawnFailed => exact slot_spawn_failed state caller entry now owned found spawnFailed
  | workerStart index worker found created =>
    have owner : worker.ownsSlot = true := by rw [Worker.ownsSlot, created]; rfl
    have shown := owned.worker worker (List.mem_of_getElem? found) owner
    exact slot_worker_moves state index worker _ owned found owner.symm rfl rfl (fun _ => shown.2.symm)
  | workerRow index row worker found running =>
    obtain ⟨sameState, sameId, sameMode⟩ := mirror_row_silent state.mgr row
    have kept := slot_manager state (mirrorRow state.mgr row) state.free owned sameState sameId sameMode
    exact slot_worker_moves _ index worker _ kept found rfl rfl rfl (owned.mode worker (List.mem_of_getElem? found))
  | workerFinish index now worker found running => exact slot_finished state index now worker owned found running
  | workerExit index worker found finished =>
    have past : worker.ownsSlot = false := by rw [Worker.ownsSlot, finished]; rfl
    exact slot_worker_moves state index worker _ owned found past.symm rfl rfl
      (fun _ => owned.mode worker (List.mem_of_getElem? found) (by simp [finished]))
  | freeLock _ _ => exact slot_manager state { state.mgr with workerStarted := false } _ owned rfl rfl rfl
  | freeJoin prior priorValid joined _ handled =>
    exact slot_manager joined joined.mgr .joined (slot_join state joined prior priorValid owned handled).1 rfl rfl rfl
  | freeMgr _ => exact slot_manager state state.mgr .freed owned rfl rfl rfl

theorem slot_run (labels : List Label) (state : Async) (reached : Runs.run Async.step Async.initial labels = some state) :
    SlotOwned state :=
  Runs.run_invariant Async.step Async.initial (fun _ state => SlotOwned state) slot_initial
    (fun _ state label next owned taken => slot_step state next label owned taken) labels state reached

end AiriesUps.Shutdown
