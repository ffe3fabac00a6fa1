import AiriesUps.Shutdown.Slot

set_option autoImplicit false

namespace AiriesUps.Shutdown

-- shutdown_status_t; n_steps is the length of steps
structure Status where
  state : WorkflowState
  workflowId : Nat
  dryRun : Bool
  startedAt : Int
  finishedAt : Int
  currentPhase : String
  currentTarget : String
  nFailed : Nat
  allOk : Bool
  steps : List StepResult
deriving DecidableEq, Repr

-- allocated is the outcome of the malloc of the array. Where it fails the rows
-- are dropped and the counter of failed rows stays.
def shutdownGetStatus (mgr : Manager) (allocated : Bool) : Status :=
  let listed : List StepResult × Nat :=
    match mgr.snapshot with
    | some snapshot =>
      if snapshot.steps.length > 0 then (if allocated then snapshot.steps else [], snapshot.nFailed) else ([], 0)
    | none => ([], 0)
  { state := mgr.state
    workflowId := mgr.workflowId
    dryRun := mgr.activeDryRun
    startedAt := mgr.startedAt
    finishedAt := mgr.finishedAt
    currentPhase := snprintf 16 mgr.currentPhase
    currentTarget := snprintf 96 mgr.currentTarget
    nFailed := listed.2
    allOk := mgr.state == .completed && listed.2 == 0
    steps := listed.1 }

-- The callocs of the run succeed.
def Label.allocates : Label → Bool
  | .lockStart _ _ allocated => allocated
  | _ => true

-- The id that a call wrote to *out_id in the lock section in which it was accepted.
def acceptedId (next : Async) : Label → Option Nat
  | .lockStart caller _ _ =>
    match next.callers[caller]? with
    | some ⟨_, workflowId, .accepted _ _⟩ => some workflowId
    | _ => none
  | _ => none

-- The ids of the accepted starts of a run, in the order of their lock sections.
def acceptedIds : Async → List Label → List Nat
  | _, [] => []
  | state, label :: rest =>
    match state.step label with
    | some next => (acceptedId next label).toList ++ acceptedIds next rest
    | none => []

-- The ids of the workflows in flight: those of the calls that own the slot, and
-- those of the workers that do.
def inFlight (state : Async) : List Nat :=
  (state.callers.filter Caller.ownsSlot).map Caller.workflowId ++
    (state.workers.filter Worker.ownsSlot).map Worker.workflowId

def runningBodies (state : Async) : Nat := state.workers.countP fun worker => worker.pc == .running

def Manager.rows (mgr : Manager) : List StepResult :=
  match mgr.snapshot with
  | some snapshot => snapshot.steps
  | none => []

-- What a later manager may show where an earlier one showed this.
structure Advances (earlier later : Manager) : Prop where
  ids : earlier.workflowId ≤ later.workflowId
  rows : earlier.workflowId = later.workflowId → earlier.rows <+: later.rows
  completed : earlier.workflowId = later.workflowId → earlier.state = .completed → later.state = .completed

theorem advances_refl (mgr : Manager) : Advances mgr mgr := ⟨Nat.le_refl _, fun _ => List.prefix_rfl, fun _ same => same⟩

theorem advances_trans (first second third : Manager) (early : Advances first second) (late : Advances second third) :
    Advances first third := by
  have ordered := Nat.le_trans early.ids late.ids
  refine ⟨ordered, ?_, ?_⟩
  · intro same
    have middle : first.workflowId = second.workflowId := Nat.le_antisymm early.ids (same ▸ late.ids)
    exact (early.rows middle).trans (late.rows (middle.symm.trans same))
  · intro same completed
    have middle : first.workflowId = second.workflowId := Nat.le_antisymm early.ids (same ▸ late.ids)
    exact late.completed (middle.symm.trans same) (early.completed middle completed)

theorem mirror_row_advances (mgr : Manager) (row : StepResult) : Advances mgr (mirrorRow mgr row) := by
  obtain ⟨sameState, sameId, _⟩ := mirror_row_silent mgr row
  refine ⟨Nat.le_of_eq sameId.symm, fun _ => ?_, fun _ completed => sameState.trans completed⟩
  cases present : mgr.snapshot with
  | none => simp [mirrorRow, present]
  | some snapshot =>
    by_cases running : mgr.state = .running
    · simp [mirrorRow, present, running, Manager.rows, resultAppendTo]
    · simp [mirrorRow, present, running]

theorem join_keeps_manager (state next : Async) (prior : Nat) (priorValid : Bool)
    (handled : joinHandle state prior priorValid = some next) : next.mgr = state.mgr := by
  obtain ⟨_, _, rfl⟩ | ⟨_, rfl⟩ := join_handle_spec state next prior priorValid handled <;> rfl

theorem accepted_advances (state : Async) (caller : Nat) (entry : Caller) (now : Int) (allocated : Bool)
    (free : state.mgr.state ≠ .running) : Advances state.mgr (lockStart state caller entry now allocated).mgr := by
  have newId : (lockStart state caller entry now allocated).mgr.workflowId = state.mgr.workflowId + 1 := by
    simp [lockStart, free]
  refine ⟨by omega, fun same => ?_, fun same => ?_⟩ <;> omega

theorem advances_step (state next : Async) (label : Label) (owned : SlotOwned state)
    (taken : state.step label = some next) : Advances state.mgr next.mgr := by
  cases step_cases state next label taken with
  | accepted caller entry now allocated _ _ free => exact accepted_advances state caller entry now allocated free
  | joined caller entry prior priorValid joined _ _ handled =>
    have same := join_keeps_manager state joined prior priorValid handled
    exact same ▸ advances_refl joined.mgr
  | failed caller entry now found spawnFailed =>
    have owner : entry.ownsSlot = true := by rw [Caller.ownsSlot, spawnFailed]; rfl
    have running := owning_caller_runs state owned entry (List.mem_of_getElem? found) owner
    exact ⟨Nat.le_refl _, fun _ => List.prefix_rfl, fun _ completed => by simp [running] at completed⟩
  | workerRow index row _ _ _ => exact mirror_row_advances state.mgr row
  | workerFinish index now _ _ _ => exact ⟨Nat.le_refl _, fun _ => List.prefix_rfl, fun _ _ => rfl⟩
  | freeJoin prior priorValid joined _ handled =>
    have same := join_keeps_manager state joined prior priorValid handled
    exact same ▸ advances_refl joined.mgr
  | published _ _ _ _ _ => exact ⟨Nat.le_refl _, fun _ => List.prefix_rfl, fun _ same => same⟩
  | freeLock _ _ => exact ⟨Nat.le_refl _, fun _ => List.prefix_rfl, fun _ same => same⟩
  | _ => exact advances_refl state.mgr

theorem advances_run (labels : List Label) (state next : Async) (owned : SlotOwned state)
    (reached : Runs.run Async.step state labels = some next) : Advances state.mgr next.mgr :=
  Runs.run_relation Async.step SlotOwned (fun earlier later => Advances earlier.mgr later.mgr)
    (fun state => advances_refl state.mgr)
    (fun first second third => advances_trans first.mgr second.mgr third.mgr)
    (fun state label next owned taken => slot_step state next label owned taken)
    (fun state label next owned taken => advances_step state next label owned taken) labels state next owned reached

theorem accepted_id_grows (state next : Async) (label : Label) (workflowId : Nat)
    (taken : state.step label = some next) (accepted : acceptedId next label = some workflowId) :
    state.mgr.workflowId < workflowId ∧ workflowId = next.mgr.workflowId := by
  cases step_cases state next label taken with
  | rejected caller entry now allocated found _ _ =>
    have moved := Tables.modify_same state.callers caller (Caller.goto (.returned (.already state.mgr.workflowId))) entry found
    simp [acceptedId, Async.setPc, moved, Caller.goto] at accepted
  | accepted caller entry now allocated found _ free =>
    have moved := Tables.modify_same state.callers caller
      (Caller.accept (state.mgr.workflowId + 1) state.mgr.worker state.mgr.workerStarted) entry found
    simp only [acceptedId, lockStart, if_neg free, moved, Caller.accept, Option.some.injEq] at accepted
    simp only [lockStart, if_neg free]
    omega
  | _ => cases accepted

-- Every id a run accepts is larger than the ids given out before the run.
theorem accepted_ids_larger (labels : List Label) (state : Async) (owned : SlotOwned state) :
    ∀ workflowId ∈ acceptedIds state labels, state.mgr.workflowId < workflowId := by
  induction labels generalizing state with
  | nil => simp [acceptedIds]
  | cons label rest ih =>
    rw [acceptedIds]
    split
    · rename_i next taken
      have advanced := (advances_step state next label owned taken).ids
      intro workflowId member
      obtain now | later := List.mem_append.mp member
      · exact (accepted_id_grows state next label workflowId taken (Option.mem_toList.mp now)).1
      · exact Nat.lt_of_le_of_lt advanced (ih next (slot_step state next label owned taken) workflowId later)
    · simp

theorem accepted_ids_increase (labels : List Label) (state : Async) (owned : SlotOwned state) :
    (acceptedIds state labels).Pairwise (· < ·) := by
  induction labels generalizing state with
  | nil => simp [acceptedIds]
  | cons label rest ih =>
    rw [acceptedIds]
    split
    · rename_i next taken
      have kept := slot_step state next label owned taken
      refine List.pairwise_append.mpr ⟨?_, ih next kept, ?_⟩
      · cases acceptedId next label <;> simp
      · intro earlier now later member
        rw [(accepted_id_grows state next label earlier taken (Option.mem_toList.mp now)).2]
        exact accepted_ids_larger rest next kept later member
    · simp

theorem in_flight_ids (state : Async) (owned : SlotOwned state) (running : state.mgr.state = .running) :
    inFlight state = [state.mgr.workflowId] := by
  have one : (inFlight state).length = 1 := by
    have owners := owned.owners
    rw [slotOwners, if_pos running, List.countP_eq_length_filter, List.countP_eq_length_filter] at owners
    rw [inFlight, List.length_append, List.length_map, List.length_map]
    exact owners
  obtain ⟨workflowId, only⟩ := List.length_eq_one_iff.mp one
  have member : workflowId ∈ inFlight state := by simp [only]
  have same : workflowId = state.mgr.workflowId := by
    obtain caller | worker := List.mem_append.mp member
    · obtain ⟨entry, listed, rfl⟩ := List.mem_map.mp caller
      obtain ⟨present, owns⟩ := List.mem_filter.mp listed
      exact (owned.caller entry present owns).1
    · obtain ⟨entry, listed, rfl⟩ := List.mem_map.mp worker
      obtain ⟨present, owns⟩ := List.mem_filter.mp listed
      exact (owned.worker entry present owns).1
  rw [only, same]

theorem rejected_reports_in_flight (state next : Async) (caller : Nat) (now : Int) (allocated : Bool) (entry : Caller)
    (workflowId : Nat) (owned : SlotOwned state) (taken : state.step (.lockStart caller now allocated) = some next)
    (found : next.callers[caller]? = some entry) (rejected : entry.pc = .returned (.already workflowId)) :
    inFlight state = [workflowId] := by
  cases step_cases state next _ taken with
  | rejected _ before _ _ present _ running =>
    have moved := Tables.modify_same state.callers caller (Caller.goto (.returned (.already state.mgr.workflowId))) before present
    rw [Async.setPc, moved, Option.some.injEq] at found
    subst found
    cases rejected
    exact in_flight_ids state owned running
  | accepted _ before _ _ present _ free =>
    have moved := Tables.modify_same state.callers caller
      (Caller.accept (state.mgr.workflowId + 1) state.mgr.worker state.mgr.workerStarted) before present
    simp only [lockStart, if_neg free, moved, Option.some.injEq] at found
    subst found
    cases rejected

theorem one_running_body (state : Async) (owned : SlotOwned state) : runningBodies state ≤ 1 := by
  have within : runningBodies state ≤ state.workers.countP Worker.ownsSlot := by
    refine List.countP_mono_left fun worker _ running => ?_
    rw [beq_iff_eq] at running
    rw [Worker.ownsSlot, running]
    rfl
  have owners := owned.owners
  rw [slotOwners] at owners
  split at owners <;> omega

def Worker.current (workflowId : Nat) (worker : Worker) : Bool := worker.workflowId == workflowId

-- The snapshot is the result of the worker of the current workflow, or empty
-- before that worker exists.
structure SnapshotFollows (state : Async) : Prop where
  ids : ∀ worker ∈ state.workers, worker.workflowId ≤ state.mgr.workflowId
  one : state.callers.countP Caller.ownsSlot +
    state.workers.countP (Worker.current state.mgr.workflowId) ≤ 1
  fresh : ∀ entry ∈ state.callers, entry.ownsSlot = true → state.mgr.snapshot = some .empty
  follows : ∀ worker ∈ state.workers, worker.workflowId = state.mgr.workflowId →
    state.mgr.snapshot = some worker.result
  counted : ∀ snapshot, state.mgr.snapshot = some snapshot → snapshot.Counted

theorem snapshot_initial : SnapshotFollows Async.initial := by
  refine ⟨?_, by decide, ?_, ?_, ?_⟩ <;> simp [Async.initial, Manager.created]

theorem snapshot_frame (state : Async) (mgr : Manager) (free : FreePc) (inv : SnapshotFollows state)
    (sameId : mgr.workflowId = state.mgr.workflowId) (sameRows : mgr.snapshot = state.mgr.snapshot) :
    SnapshotFollows { state with mgr := mgr, free := free } := by
  refine ⟨?_, ?_, ?_, ?_, ?_⟩
  · simpa only [sameId] using inv.ids
  · simpa only [sameId] using inv.one
  · simpa only [sameRows] using inv.fresh
  · simpa only [sameId, sameRows] using inv.follows
  · simpa only [sameRows] using inv.counted

theorem snapshot_caller_moves (state : Async) (caller : Nat) (entry : Caller) (pc : CallerPc) (inv : SnapshotFollows state)
    (found : state.callers[caller]? = some entry) (kept : pc.ownsSlot = true → entry.ownsSlot = true) :
    SnapshotFollows (state.setPc caller pc) := by
  refine ⟨inv.ids, ?_, ?_, inv.follows, inv.counted⟩
  · have counted := Tables.count_modify Caller.ownsSlot (Caller.goto pc) state.callers caller entry found
    have fewer : (Caller.goto pc entry).ownsSlot.toNat ≤ entry.ownsSlot.toNat := by
      cases owns : pc.ownsSlot with
      | false => simp [Caller.ownsSlot, Caller.goto, owns]
      | true => simp [kept owns, Bool.toNat_le]
    have one := inv.one
    simp only [Async.setPc]
    omega
  · intro moved member owns
    obtain rfl | old := Tables.changed_member state.callers caller (Caller.goto pc) _ moved found member
    · exact inv.fresh entry (List.mem_of_getElem? found) (kept owns)
    · exact inv.fresh moved old owns

theorem snapshot_caller_returns (state : Async) (caller : Nat) (entry : Caller) (result : StartResult)
    (inv : SnapshotFollows state) (found : state.callers[caller]? = some entry) :
    SnapshotFollows (state.setPc caller (.returned result)) :=
  snapshot_caller_moves state caller entry (.returned result) inv found fun owns => by cases owns

theorem snapshot_worker_moves (state : Async) (index : Nat) (worker : Worker) (change : Worker → Worker)
    (inv : SnapshotFollows state) (found : state.workers[index]? = some worker)
    (sameId : (change worker).workflowId = worker.workflowId) (sameResult : (change worker).result = worker.result) :
    SnapshotFollows (state.setWorker index change) := by
  have old : worker ∈ state.workers := List.mem_of_getElem? found
  refine ⟨?_, ?_, inv.fresh, ?_, inv.counted⟩
  · intro moved member
    obtain rfl | kept := Tables.changed_member state.workers index change _ moved found member
    · exact sameId ▸ inv.ids worker old
    · exact inv.ids moved kept
  · have counted := Tables.count_modify (Worker.current state.mgr.workflowId) change state.workers index worker found
    have same : Worker.current state.mgr.workflowId (change worker) = Worker.current state.mgr.workflowId worker := by
      rw [Worker.current, Worker.current, sameId]
    have one := inv.one
    rw [same] at counted
    simp only [Async.setWorker]
    omega
  · intro moved member current
    obtain rfl | kept := Tables.changed_member state.workers index change _ moved found member
    · rw [sameResult]
      exact inv.follows worker old (sameId.symm.trans current)
    · exact inv.follows moved kept current

theorem snapshot_call (state : Async) (dryRun : Bool) (inv : SnapshotFollows state) :
    SnapshotFollows { state with callers := state.callers ++ [{ dryRun := dryRun, workflowId := 0, pc := .entered }] } := by
  refine ⟨inv.ids, ?_, ?_, inv.follows, inv.counted⟩
  · rw [Tables.count_append]
    exact inv.one
  · intro entry member owns
    obtain old | new := List.mem_append.mp member
    · exact inv.fresh entry old owns
    · rw [List.mem_singleton.mp new] at owns
      cases owns

theorem snapshot_accepted (state : Async) (caller : Nat) (entry : Caller) (now : Int) (owned : SlotOwned state)
    (inv : SnapshotFollows state) (found : state.callers[caller]? = some entry) (free : state.mgr.state ≠ .running) :
    SnapshotFollows (lockStart state caller entry now true) := by
  have none : slotOwners state = 0 := by rw [owned.owners, if_neg free]
  have older : ∀ worker ∈ state.workers, worker.workflowId ≠ state.mgr.workflowId + 1 := fun worker member => by
    have bounded := inv.ids worker member
    omega
  simp only [lockStart, if_neg free]
  refine ⟨?_, ?_, fun _ _ _ => rfl, ?_, ?_⟩
  · intro worker member
    exact Nat.le_succ_of_le (inv.ids worker member)
  · have counted := Tables.count_modify Caller.ownsSlot
      (Caller.accept (state.mgr.workflowId + 1) state.mgr.worker state.mgr.workerStarted) state.callers caller entry found
    have owns : (Caller.accept (state.mgr.workflowId + 1) state.mgr.worker state.mgr.workerStarted entry).ownsSlot = true := rfl
    have others : state.workers.countP (Worker.current (state.mgr.workflowId + 1)) = 0 := by
      simpa [Worker.current] using older
    rw [owns, Bool.toNat_true] at counted
    rw [slotOwners] at none
    simp only [others]
    omega
  · intro worker member current
    exact absurd current (older worker member)
  · intro snapshot same
    rw [← Option.some.inj same]
    exact empty_counted

theorem snapshot_spawned (state : Async) (caller : Nat) (entry : Caller) (owned : SlotOwned state)
    (inv : SnapshotFollows state) (found : state.callers[caller]? = some entry) (joined : entry.pc = .joined) :
    SnapshotFollows
      ({ state with workers := state.workers ++ [entry.newWorker] }.setPc caller (.spawned state.workers.length)) := by
  have present : entry ∈ state.callers := List.mem_of_getElem? found
  have owner : entry.ownsSlot = true := by rw [Caller.ownsSlot, joined]; rfl
  have shown := (owned.caller entry present owner).1
  refine ⟨?_, ?_, ?_, ?_, inv.counted⟩
  · intro worker member
    obtain old | new := List.mem_append.mp member
    · exact inv.ids worker old
    · rw [List.mem_singleton.mp new]
      exact Nat.le_of_eq shown
  · have counted := Tables.count_modify Caller.ownsSlot (Caller.goto (.spawned state.workers.length)) state.callers
      caller entry found
    have left : (Caller.goto (.spawned state.workers.length) entry).ownsSlot = false := rfl
    have taken : Worker.current state.mgr.workflowId entry.newWorker = true := beq_iff_eq.mpr shown
    have added := Tables.count_append (Worker.current state.mgr.workflowId) state.workers entry.newWorker
    have one := inv.one
    rw [owner, left, Bool.toNat_true, Bool.toNat_false] at counted
    rw [taken, Bool.toNat_true] at added
    simp only [Async.setPc]
    omega
  · intro moved member owns
    obtain ⟨before, original, rfl⟩ | old := Tables.modify_member state.callers caller _ moved member
    · cases owns
    · exact inv.fresh moved old owns
  · intro worker member current
    obtain old | new := List.mem_append.mp member
    · exact inv.follows worker old current
    · rw [List.mem_singleton.mp new]
      exact inv.fresh entry present owner

theorem snapshot_row (state : Async) (index : Nat) (row : StepResult) (worker : Worker) (owned : SlotOwned state)
    (inv : SnapshotFollows state) (found : state.workers[index]? = some worker) (runs : worker.pc = .running) :
    SnapshotFollows ({ state with mgr := mirrorRow state.mgr row }.setWorker index fun entry =>
      { entry with result := resultAppendTo entry.result row }) := by
  have old : worker ∈ state.workers := List.mem_of_getElem? found
  have owner : worker.ownsSlot = true := by rw [Worker.ownsSlot, runs]; rfl
  have running := owning_worker_runs state owned worker old owner
  have shown := (owned.worker worker old owner).1
  have listed := inv.follows worker old shown
  have sameId := (mirror_row_silent state.mgr row).2.1
  have appended : (mirrorRow state.mgr row).snapshot = some (resultAppendTo worker.result row) := by
    simp [mirrorRow, listed, running]
  have isCurrent : Worker.current state.mgr.workflowId worker = true := beq_iff_eq.mpr shown
  have alone : state.workers.countP (Worker.current state.mgr.workflowId) ≤ 1 :=
    Nat.le_trans (Nat.le_add_left _ _) inv.one
  refine ⟨?_, ?_, ?_, ?_, ?_⟩
  · intro moved member
    rw [Async.setWorker, sameId]
    obtain ⟨before, original, rfl⟩ | kept := Tables.modify_member state.workers index _ moved member
    · exact inv.ids before (List.mem_of_getElem? original)
    · exact inv.ids moved kept
  · have counted := Tables.count_modify (Worker.current state.mgr.workflowId)
      (fun entry => { entry with result := resultAppendTo entry.result row }) state.workers index worker found
    have same : Worker.current state.mgr.workflowId { worker with result := resultAppendTo worker.result row } =
      Worker.current state.mgr.workflowId worker := rfl
    have one := inv.one
    rw [same] at counted
    simp only [Async.setWorker, sameId]
    omega
  · intro entry member owns
    have callers : 0 < state.callers.countP Caller.ownsSlot := List.countP_pos_iff.mpr ⟨entry, member, owns⟩
    have workers : 0 < state.workers.countP (Worker.current state.mgr.workflowId) :=
      List.countP_pos_iff.mpr ⟨worker, old, isCurrent⟩
    have one : state.callers.countP Caller.ownsSlot + state.workers.countP (Worker.current state.mgr.workflowId) ≤ 1 :=
      inv.one
    omega
  · intro moved member current
    obtain ⟨position, at_position⟩ := List.mem_iff_getElem?.mp member
    rw [Async.setWorker, sameId] at current
    obtain ⟨_, before, original, rfl⟩ | ⟨different, kept⟩ := Tables.modify_found state.workers index position _ moved at_position
    · rw [found, Option.some.injEq] at original
      subst original
      exact appended
    · -- another worker of the current workflow would be a second one
      exact absurd (Tables.count_one_position _ state.workers alone position index moved worker kept
        (beq_iff_eq.mpr current) found isCurrent) different
  · intro snapshot same
    rw [Async.setWorker, appended, Option.some.injEq] at same
    rw [← same]
    exact append_counted worker.result row (inv.counted worker.result listed)

theorem snapshot_join (state next : Async) (prior : Nat) (priorValid : Bool) (inv : SnapshotFollows state)
    (handled : joinHandle state prior priorValid = some next) : SnapshotFollows next := by
  obtain ⟨_, ⟨worker, found, _⟩, rfl⟩ | ⟨_, rfl⟩ := join_handle_spec state next prior priorValid handled
  · exact snapshot_worker_moves state prior worker _ inv found rfl rfl
  · exact inv

theorem snapshot_step (state next : Async) (label : Label) (owned : SlotOwned state) (inv : SnapshotFollows state)
    (allocates : label.allocates = true) (taken : state.step label = some next) : SnapshotFollows next := by
  cases step_cases state next label taken with
  | call dryRun => exact snapshot_call state dryRun inv
  | rejected caller entry _ _ found _ _ => exact snapshot_caller_returns state caller entry _ inv found
  | accepted caller entry now allocated found _ free =>
    cases allocates
    exact snapshot_accepted state caller entry now owned inv found free
  | joined caller entry prior priorValid joined found accepted handled =>
    have kept := snapshot_join state joined prior priorValid inv handled
    have sameCallers := (slot_join state joined prior priorValid owned handled).2
    exact snapshot_caller_moves joined caller entry _ kept (sameCallers ▸ found)
      (fun _ => by rw [Caller.ownsSlot, accepted]; rfl)
  | spawned caller entry found joined => exact snapshot_spawned state caller entry owned inv found joined
  | notSpawned caller entry found joined =>
    exact snapshot_caller_moves state caller entry _ inv found (fun _ => by rw [Caller.ownsSlot, joined]; rfl)
  | published caller entry newt found _ =>
    have kept := snapshot_frame state { state.mgr with worker := newt, workerStarted := true } state.free inv rfl rfl
    exact snapshot_caller_returns _ caller entry _ kept found
  | failed caller entry now found _ =>
    have kept := snapshot_frame state { state.mgr with state := .idle, finishedAt := now } state.free inv rfl rfl
    exact snapshot_caller_returns _ caller entry _ kept found
  | workerStart index worker found _ => exact snapshot_worker_moves state index worker _ inv found rfl rfl
  | workerRow index row worker found running => exact snapshot_row state index row worker owned inv found running
  | workerFinish index now worker found _ =>
    have kept := snapshot_frame state { state.mgr with state := .completed, finishedAt := now } state.free inv rfl rfl
    exact snapshot_worker_moves _ index worker _ kept found rfl rfl
  | workerExit index worker found _ => exact snapshot_worker_moves state index worker _ inv found rfl rfl
  | freeLock _ _ => exact snapshot_frame state { state.mgr with workerStarted := false } _ inv rfl rfl
  | freeJoin prior priorValid joined _ handled =>
    exact snapshot_frame joined joined.mgr .joined (snapshot_join state joined prior priorValid inv handled) rfl rfl
  | freeMgr _ => exact snapshot_frame state state.mgr .freed inv rfl rfl

theorem snapshot_run (labels : List Label) (state : Async) (reached : Runs.run Async.step Async.initial labels = some state)
    (allocates : ∀ label ∈ labels, label.allocates = true) : SnapshotFollows state := by
  have both := Runs.run_invariant Async.step Async.initial
    (fun past state => (∀ label ∈ past, label.allocates = true) → SlotOwned state ∧ SnapshotFollows state)
    (fun _ => ⟨slot_initial, snapshot_initial⟩)
    (fun past state label next inv taken allocated => by
      obtain ⟨owned, follows⟩ := inv fun earlier member => allocated earlier (List.mem_append_left _ member)
      exact ⟨slot_step state next label owned taken,
        snapshot_step state next label owned follows (allocated label (by simp)) taken⟩)
    labels state reached
  exact (both allocates).2

theorem status_lists (mgr : Manager) : (shutdownGetStatus mgr true).steps = mgr.rows := by
  rw [shutdownGetStatus, Manager.rows]
  cases mgr.snapshot with
  | none => rfl
  | some snapshot => cases empty : snapshot.steps <;> simp [empty]

theorem status_counts (mgr : Manager) (counted : ∀ snapshot, mgr.snapshot = some snapshot → snapshot.Counted) :
    (shutdownGetStatus mgr true).nFailed = failedRows mgr.rows := by
  rw [shutdownGetStatus, Manager.rows]
  cases present : mgr.snapshot with
  | none => rfl
  | some snapshot =>
    have same := counted snapshot present
    rw [Result.Counted] at same
    cases empty : snapshot.steps with
    | nil => simp [empty, failedRows]
    | cons first rest =>
      rw [empty] at same
      simp [empty, same]

-- What one read promises, and two reads of one run.
structure StatusRead (state : Async) (status : Status) : Prop where
  counts : status.nFailed = failedRows status.steps
  succeeded : status.allOk = true → status.state = .completed ∧ (∀ row ∈ status.steps, row.ok ≠ 1) ∧
    ∀ worker ∈ state.workers, worker.workflowId = status.workflowId → ∀ row ∈ worker.result.steps, row.ok ≠ 1

structure StatusFollows (earlier later : Status) : Prop where
  rows : earlier.steps <+: later.steps
  completed : earlier.state = .completed → later.state ≠ .running

theorem status_read (state : Async) (inv : SnapshotFollows state) : StatusRead state (shutdownGetStatus state.mgr true) := by
  have counts := status_counts state.mgr inv.counted
  refine ⟨by rw [counts, status_lists], fun succeeded => ?_⟩
  have both : state.mgr.state = .completed ∧ (shutdownGetStatus state.mgr true).nFailed = 0 := by
    simpa [shutdownGetStatus] using succeeded
  have clean : ∀ row ∈ state.mgr.rows, row.ok ≠ 1 := by
    rw [counts, failedRows] at both
    simpa using List.countP_eq_zero.mp both.2
  refine ⟨both.1, by rwa [status_lists], fun worker member current => ?_⟩
  have listed := inv.follows worker member current
  simpa only [Manager.rows, listed] using clean

theorem status_follows (earlier later : Manager) (advances : Advances earlier later)
    (same : earlier.workflowId = later.workflowId) :
    StatusFollows (shutdownGetStatus earlier true) (shutdownGetStatus later true) := by
  refine ⟨?_, fun completed running => ?_⟩
  · rw [status_lists, status_lists]
    exact advances.rows same
  · have still : later.state = .completed := advances.completed same completed
    have shown : later.state = .running := running
    rw [still] at shown
    cases shown

theorem status_consistent (labels : List Label) (state : Async)
    (reached : Runs.run Async.step Async.initial labels = some state) (allocates : ∀ label ∈ labels, label.allocates = true) :
    runningBodies state ≤ 1 ∧ (acceptedIds Async.initial labels).Pairwise (· < ·) ∧
      (∀ caller now allocated next entry workflowId, state.step (.lockStart caller now allocated) = some next →
        next.callers[caller]? = some entry → entry.pc = .returned (.already workflowId) → inFlight state = [workflowId]) ∧
      (∀ before after earlier, labels = before ++ after → Runs.run Async.step Async.initial before = some earlier →
        (shutdownGetStatus earlier.mgr true).workflowId = (shutdownGetStatus state.mgr true).workflowId →
        StatusFollows (shutdownGetStatus earlier.mgr true) (shutdownGetStatus state.mgr true)) ∧
      StatusRead state (shutdownGetStatus state.mgr true) := by
  have owned := slot_run labels state reached
  refine ⟨one_running_body state owned, accepted_ids_increase labels Async.initial slot_initial, ?_, ?_,
    status_read state (snapshot_run labels state reached allocates)⟩
  · intro caller now allocated next entry workflowId taken found rejected
    exact rejected_reports_in_flight state next caller now allocated entry workflowId owned taken found rejected
  · intro before after earlier split early same
    rw [split, Runs.run_append, early, Option.bind_some] at reached
    exact status_follows earlier.mgr state.mgr
      (advances_run after earlier state (slot_run before earlier early) reached) same

-- A rehearsal with a failed row; a start during it is turned away, and the next
-- one after it runs for real.
def attachedRun : List Label :=
  [.call true, .lockStart 0 100 true, .joinPrior 0, .create 0 true, .call false, .lockStart 1 101 true, .workerStart 0,
    .workerRow 0 (resultRowFill "phase1" "rack/nas" 1 "probe failed"), .publish 0, .workerFinish 0 102, .workerExit 0,
    .call false, .lockStart 2 103 true, .joinPrior 2, .create 2 true, .workerStart 1,
    .workerRow 1 (resultRowFill "phase2" "ups" 0 "")]

theorem attached_run_status :
    acceptedIds Async.initial attachedRun = [1, 2] ∧
      (Runs.final Async.step Async.initial (attachedRun.take 6)).callers[1]? =
        some { dryRun := false, workflowId := 0, pc := .returned (.already 1) } ∧
      runningBodies (Runs.final Async.step Async.initial attachedRun) = 1 ∧
      StatusRead (Runs.final Async.step Async.initial attachedRun)
        (shutdownGetStatus (Runs.final Async.step Async.initial attachedRun).mgr true) := by
  have reached := Runs.run_final Async.step Async.initial attachedRun (by decide +kernel)
  exact ⟨by decide +kernel, by decide +kernel, by decide +kernel,
    (status_consistent attachedRun _ reached (by decide +kernel)).2.2.2.2⟩

end AiriesUps.Shutdown
