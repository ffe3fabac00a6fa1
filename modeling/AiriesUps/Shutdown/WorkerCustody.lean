import AiriesUps.Lib.Tables
import AiriesUps.Shutdown.Async

set_option autoImplicit false

namespace AiriesUps.Shutdown

def CallerPc.isSpawned : CallerPc → Bool
  | .spawned _ => true
  | _ => false

def Label.isLockStart : Label → Bool
  | .lockStart _ _ _ => true
  | _ => false

def CallerPc.active : CallerPc → Bool
  | .accepted _ _ | .joined | .spawned _ | .spawnFailed => true
  | .entered | .returned _ => false

def handle (worker : Nat) (valid : Bool) : Option Nat := if valid then some worker else none

-- Every created worker has been joined once, after it exited, except the one
-- whose handle is outstanding, which has not been joined.
structure Outstanding (workers : List Worker) (held : Option Nat) : Prop where
  created : ∀ index, held = some index → index < workers.length
  unjoined : ∀ index worker, workers[index]? = some worker → held = some index → worker.joins = 0
  joined : ∀ index worker, workers[index]? = some worker → held ≠ some index →
    worker.joins = 1 ∧ worker.pc = .exited

def AllFinished (workers : List Worker) : Prop := ∀ worker ∈ workers, worker.pc ≠ .created ∧ worker.pc ≠ .running

-- Whoever holds the outstanding handle: the manager, one call of
-- shutdown_start_async, or shutdown_free.
inductive Holder where
  | manager
  | caller (index : Nat)
  | free

def CallerHolds (state : Async) : CallerPc → Prop
  | .accepted prior priorValid =>
    state.mgr.state = .running ∧ AllFinished state.workers ∧ Outstanding state.workers (handle prior priorValid)
  | .joined | .spawnFailed => state.mgr.state = .running ∧ AllFinished state.workers ∧ Outstanding state.workers none
  | .spawned newt => Outstanding state.workers (some newt)
  | .entered | .returned _ => False

def Holds (state : Async) : Holder → Prop
  | .manager =>
    state.free = .notCalled ∧ (∀ entry ∈ state.callers, entry.pc.active = false) ∧
      Outstanding state.workers (handle state.mgr.worker state.mgr.workerStarted)
  | .caller index =>
    state.free = .notCalled ∧ state.mgr.workerStarted = false ∧
      ∃ entry, state.callers[index]? = some entry ∧ CallerHolds state entry.pc ∧
        ∀ other entry, other ≠ index → state.callers[other]? = some entry → entry.pc.active = false
  | .free =>
    (∀ entry ∈ state.callers, entry.pc.isReturned = true) ∧ state.mgr.workerStarted = false ∧
      match state.free with
      | .notCalled => False
      | .captured prior priorValid => Outstanding state.workers (handle prior priorValid)
      | .joined | .freed => Outstanding state.workers none

-- A worker that has not reached its completion section keeps the slot RUNNING.
def SlotTaken (state : Async) : Prop :=
  state.mgr.state ≠ .running → AllFinished state.workers

structure Custody (state : Async) : Prop where
  slot : SlotTaken state
  holder : ∃ holder, Holds state holder

-- No call is accepted while another call is between its pthread_create and the
-- section that publishes the new handle.
def NoAcceptBeforePublish (state : Async) (label : Label) : Prop :=
  label.isLockStart = true → state.mgr.state ≠ .running → ∀ entry ∈ state.callers, entry.pc.isSpawned = false

instance (state : Async) (label : Label) : Decidable (NoAcceptBeforePublish state label) := by
  unfold NoAcceptBeforePublish
  infer_instance

theorem outstanding_create (workers : List Worker) (newt : Worker) (settled : Outstanding workers none)
    (unjoined : newt.joins = 0) : Outstanding (workers ++ [newt]) (some workers.length) := by
  refine ⟨?_, ?_, ?_⟩
  · intro index same
    rw [List.length_append, List.length_singleton, ← Option.some.inj same]
    omega
  · intro index worker found same
    rw [← Option.some.inj same, List.getElem?_concat_length, Option.some.injEq] at found
    exact found ▸ unjoined
  · intro index worker found other
    rcases Tables.append_found workers newt worker index found with old | ⟨last, _⟩
    · exact settled.joined index worker old (by simp)
    · exact absurd (congrArg some last.symm) other

theorem outstanding_join (workers : List Worker) (prior : Nat) (held : Outstanding workers (some prior))
    (worker : Worker) (found : workers[prior]? = some worker) (exited : worker.pc = .exited) :
    Outstanding (workers.modify prior fun entry => { entry with joins := entry.joins + 1 }) none := by
  refine ⟨by simp, by simp, ?_⟩
  intro index entry present _
  rcases Tables.modify_found workers prior index _ entry present with ⟨_, before, original, changed⟩ | ⟨other, kept⟩
  · rw [found, Option.some.injEq] at original
    subst original changed
    exact ⟨by simp only [held.unjoined prior worker found rfl], exited⟩
  · exact held.joined index entry kept (fun same => other (Option.some.inj same).symm)

theorem outstanding_work (workers : List Worker) (held : Option Nat) (index : Nat) (change : Worker → Worker)
    (settled : Outstanding workers held) (worker : Worker) (found : workers[index]? = some worker)
    (alive : worker.pc ≠ .exited) (keeps : ∀ entry, (change entry).joins = entry.joins) :
    Outstanding (workers.modify index change) held := by
  have isHeld : held = some index := by
    by_contra other
    exact alive (settled.joined index worker found other).2
  refine ⟨?_, ?_, ?_⟩
  · intro position same
    rw [List.length_modify]
    exact settled.created position same
  · intro position entry present same
    rcases Tables.modify_found workers index position change entry present with ⟨_, before, original, changed⟩ | ⟨other, _⟩
    · rw [changed, keeps]
      exact settled.unjoined index before original isHeld
    · exact absurd (Option.some.inj (isHeld.symm.trans same)).symm other
  · intro position entry present other
    rcases Tables.modify_found workers index position change entry present with ⟨same, _⟩ | ⟨_, kept⟩
    · exact absurd (same ▸ isHeld) other
    · exact settled.joined position entry kept other

theorem finished_work (workers : List Worker) (index : Nat) (change : Worker → Worker) (finished : AllFinished workers)
    (ended : ∀ entry, workers[index]? = some entry → (change entry).pc ≠ .created ∧ (change entry).pc ≠ .running) :
    AllFinished (workers.modify index change) := by
  intro worker member
  rcases Tables.modify_member workers index change worker member with ⟨before, found, changed⟩ | kept
  · rw [changed]
    exact ended before found
  · exact finished worker kept

theorem caller_is_holder (state : Async) (holder : Holder) (holds : Holds state holder) (caller : Nat) (entry : Caller)
    (found : state.callers[caller]? = some entry) (active : entry.pc.active = true) : Holds state (.caller caller) := by
  cases holder with
  | manager =>
    have inactive := holds.2.1 entry (List.mem_of_getElem? found)
    rw [active] at inactive
    exact absurd inactive.symm Bool.false_ne_true
  | caller index =>
    by_cases same : caller = index
    · exact same ▸ holds
    · obtain ⟨_, _, _, _, _, others⟩ := holds
      have inactive := others caller entry same found
      rw [active] at inactive
      exact absurd inactive.symm Bool.false_ne_true
  | free =>
    have returned := holds.1 entry (List.mem_of_getElem? found)
    cases pc : entry.pc <;> simp [pc, CallerPc.isReturned, CallerPc.active] at returned active

theorem active_caller_holds (state : Async) (custody : Custody state) (caller : Nat) (entry : Caller)
    (found : state.callers[caller]? = some entry) (active : entry.pc.active = true) :
    state.free = .notCalled ∧ state.mgr.workerStarted = false ∧ CallerHolds state entry.pc ∧
      ∀ other entry, other ≠ caller → state.callers[other]? = some entry → entry.pc.active = false := by
  obtain ⟨holder, holds⟩ := custody.holder
  obtain ⟨notCalled, unset, held, present, callerHolds, others⟩ :=
    caller_is_holder state holder holds caller entry found active
  rw [found, Option.some.injEq] at present
  exact ⟨notCalled, unset, present ▸ callerHolds, others⟩

theorem manager_holds_after_return (state : Async) (caller : Nat) (mgr : Manager) (result : StartResult)
    (notCalled : state.free = .notCalled)
    (others : ∀ other entry, other ≠ caller → state.callers[other]? = some entry → entry.pc.active = false)
    (held : Outstanding state.workers (handle mgr.worker mgr.workerStarted)) :
    Holds ({ state with mgr := mgr }.setPc caller (.returned result)) .manager := by
  refine ⟨notCalled, ?_, held⟩
  intro entry member
  obtain ⟨other, found⟩ := List.mem_iff_getElem?.mp member
  rcases Tables.modify_found state.callers caller other _ entry found with ⟨_, _, _, changed⟩ | ⟨different, kept⟩
  · rw [changed]
    rfl
  · exact others other entry different kept

theorem caller_holds_after_step (state : Async) (caller : Nat) (entry : Caller) (change : Caller → Caller)
    (found : state.callers[caller]? = some entry) (notCalled : state.free = .notCalled)
    (unset : state.mgr.workerStarted = false) (callerHolds : CallerHolds state (change entry).pc)
    (others : ∀ other entry, other ≠ caller → state.callers[other]? = some entry → entry.pc.active = false) :
    Holds { state with callers := state.callers.modify caller change } (.caller caller) := by
  refine ⟨notCalled, unset, change entry, Tables.modify_same state.callers caller change entry found, callerHolds, ?_⟩
  intro other otherEntry different present
  rcases Tables.modify_found state.callers caller other change otherEntry present with ⟨same, _⟩ | ⟨_, kept⟩
  · exact absurd same different
  · exact others other otherEntry different kept

theorem custody_initial : Custody Async.initial := by
  refine ⟨?_, .manager, rfl, ?_, ?_⟩
  · intro _ worker member
    exact absurd member (by simp [Async.initial])
  · intro entry member
    exact absurd member (by simp [Async.initial])
  · refine ⟨?_, ?_, ?_⟩ <;> simp [Async.initial, Manager.created, handle]

theorem custody_call (state : Async) (dryRun : Bool) (custody : Custody state) (notCalled : state.free = .notCalled) :
    Custody { state with callers := state.callers ++ [{ dryRun := dryRun, workflowId := 0, pc := .entered }] } := by
  refine ⟨custody.slot, ?_⟩
  obtain ⟨holder, holds⟩ := custody.holder
  cases holder with
  | manager =>
    refine ⟨.manager, notCalled, ?_, holds.2.2⟩
    intro entry member
    rcases List.mem_append.mp member with old | new
    · exact holds.2.1 entry old
    · rw [List.mem_singleton.mp new]
      rfl
  | caller index =>
    obtain ⟨_, unset, entry, found, callerHolds, others⟩ := holds
    refine ⟨.caller index, notCalled, unset, entry, ?_, callerHolds, ?_⟩
    · rw [List.getElem?_append_left (List.getElem?_eq_some_iff.mp found).1]
      exact found
    · intro other otherEntry different present
      rcases Tables.append_found state.callers _ otherEntry other present with old | ⟨_, new⟩
      · exact others other otherEntry different old
      · rw [new]
        rfl
  | free =>
    have impossible := holds.2.2
    rw [notCalled] at impossible
    exact impossible.elim

theorem custody_rejected (state : Async) (caller : Nat) (entry : Caller) (result : StartResult) (custody : Custody state)
    (found : state.callers[caller]? = some entry) (entered : entry.pc = .entered) :
    Custody (state.setPc caller (.returned result)) := by
  refine ⟨custody.slot, ?_⟩
  obtain ⟨holder, holds⟩ := custody.holder
  cases holder with
  | manager =>
    refine ⟨.manager, holds.1, ?_, holds.2.2⟩
    intro other member
    rcases Tables.modify_member state.callers caller _ other member with ⟨_, _, changed⟩ | kept
    · rw [changed]
      rfl
    · exact holds.2.1 other kept
  | caller index =>
    obtain ⟨notCalled, unset, holding, present, callerHolds, others⟩ := holds
    have different : index ≠ caller := by
      intro same
      rw [same, found, Option.some.injEq] at present
      rw [← present, entered] at callerHolds
      exact callerHolds
    refine ⟨.caller index, notCalled, unset, holding, ?_, callerHolds, ?_⟩
    · rw [Async.setPc, List.getElem?_modify_ne _ _ (Ne.symm different)]
      exact present
    · intro other otherEntry notHolder otherFound
      rcases Tables.modify_found state.callers caller other _ otherEntry otherFound with ⟨_, _, _, changed⟩ | ⟨_, kept⟩
      · rw [changed]
        rfl
      · exact others other otherEntry notHolder kept
  | free =>
    have returned := holds.1 entry (List.mem_of_getElem? found)
    rw [entered] at returned
    exact absurd returned Bool.false_ne_true

-- An accepted call takes the handle from the manager: the guard excludes a call
-- that has a worker of its own and has not published it.
theorem custody_accepted (state : Async) (caller : Nat) (entry : Caller) (now : Int) (allocated : Bool)
    (custody : Custody state) (found : state.callers[caller]? = some entry) (free : state.mgr.state ≠ .running)
    (entered : entry.pc = .entered) (published : ∀ entry ∈ state.callers, entry.pc.isSpawned = false) :
    Custody (lockStart state caller entry now allocated) := by
  have finished : AllFinished state.workers := custody.slot free
  rw [lockStart, if_neg free]
  refine ⟨fun idle => absurd rfl idle, .caller caller, ?_⟩
  obtain ⟨holder, holds⟩ := custody.holder
  cases holder with
  | manager =>
    obtain ⟨notCalled, inactive, held⟩ := holds
    exact caller_holds_after_step { state with mgr := _ } caller entry _ found notCalled rfl ⟨rfl, finished, held⟩
      fun other entry _ present => inactive entry (List.mem_of_getElem? present)
  | caller index =>
    obtain ⟨_, _, holding, present, callerHolds, _⟩ := holds
    cases pc : holding.pc with
    | accepted _ _ | joined | spawnFailed =>
      rw [pc] at callerHolds
      exact absurd callerHolds.1 free
    | spawned newt =>
      have unpublished := published holding (List.mem_of_getElem? present)
      rw [pc] at unpublished
      exact absurd unpublished.symm Bool.false_ne_true
    | entered | returned _ =>
      rw [pc] at callerHolds
      exact callerHolds.elim
  | free =>
    have returned := holds.1 entry (List.mem_of_getElem? found)
    rw [entered] at returned
    exact absurd returned Bool.false_ne_true

theorem settled_finished (workers : List Worker) (settled : Outstanding workers none) : AllFinished workers := by
  intro worker member
  obtain ⟨index, found⟩ := List.mem_iff_getElem?.mp member
  rw [(settled.joined index worker found nofun).2]
  exact ⟨nofun, nofun⟩

theorem join_settles (state next : Async) (prior : Nat) (priorValid : Bool)
    (held : Outstanding state.workers (handle prior priorValid))
    (taken : joinHandle state prior priorValid = some next) :
    next = { state with workers := next.workers } ∧ Outstanding next.workers none := by
  rcases join_handle_spec state next prior priorValid taken with ⟨valid, ⟨worker, found, exited⟩, rfl⟩ | ⟨missing, rfl⟩
  · simp only [handle, valid, if_true] at held
    exact ⟨rfl, outstanding_join state.workers prior held worker found exited⟩
  · cases valid : priorValid with
    | false =>
      simp only [handle, valid, Bool.false_eq_true, if_false] at held
      exact ⟨rfl, held⟩
    | true =>
      simp only [handle, valid, if_true] at held
      have inside := held.created prior rfl
      rw [List.getElem?_eq_getElem inside] at missing
      exact absurd (missing valid) nofun

theorem custody_joined (state next : Async) (caller : Nat) (entry : Caller) (prior : Nat) (priorValid : Bool)
    (custody : Custody state) (found : state.callers[caller]? = some entry)
    (accepted : entry.pc = .accepted prior priorValid) (taken : joinHandle state prior priorValid = some next) :
    Custody (next.setPc caller .joined) := by
  obtain ⟨notCalled, unset, callerHolds, others⟩ :=
    active_caller_holds state custody caller entry found (by rw [accepted]; rfl)
  rw [accepted] at callerHolds
  obtain ⟨running, _, held⟩ := callerHolds
  obtain ⟨same, settled⟩ := join_settles state next prior priorValid held taken
  rw [same]
  refine ⟨fun idle => absurd running idle, .caller caller, ?_⟩
  exact caller_holds_after_step { state with workers := next.workers } caller entry _ found notCalled unset
    ⟨running, settled_finished next.workers settled, settled⟩ others

theorem custody_created (state : Async) (caller : Nat) (entry : Caller) (newt : Worker) (custody : Custody state)
    (found : state.callers[caller]? = some entry) (joined : entry.pc = .joined) (unjoined : newt.joins = 0) :
    Custody ({ state with workers := state.workers ++ [newt] }.setPc caller (.spawned state.workers.length)) := by
  obtain ⟨notCalled, unset, callerHolds, others⟩ :=
    active_caller_holds state custody caller entry found (by rw [joined]; rfl)
  rw [joined] at callerHolds
  obtain ⟨running, _, settled⟩ := callerHolds
  refine ⟨fun idle => absurd running idle, .caller caller, ?_⟩
  exact caller_holds_after_step { state with workers := state.workers ++ [newt] } caller entry _ found notCalled unset
    (outstanding_create state.workers newt settled unjoined) others

theorem custody_not_created (state : Async) (caller : Nat) (entry : Caller) (custody : Custody state)
    (found : state.callers[caller]? = some entry) (joined : entry.pc = .joined) :
    Custody (state.setPc caller .spawnFailed) := by
  obtain ⟨notCalled, unset, callerHolds, others⟩ :=
    active_caller_holds state custody caller entry found (by rw [joined]; rfl)
  rw [joined] at callerHolds
  refine ⟨custody.slot, .caller caller, ?_⟩
  exact caller_holds_after_step state caller entry _ found notCalled unset callerHolds others

theorem custody_published (state : Async) (caller : Nat) (entry : Caller) (newt : Nat) (custody : Custody state)
    (found : state.callers[caller]? = some entry) (spawned : entry.pc = .spawned newt) :
    Custody ({ state with mgr := { state.mgr with worker := newt, workerStarted := true } }.setPc caller
      (.returned .ok)) := by
  obtain ⟨notCalled, _, callerHolds, others⟩ :=
    active_caller_holds state custody caller entry found (by rw [spawned]; rfl)
  rw [spawned] at callerHolds
  exact ⟨custody.slot, .manager, manager_holds_after_return state caller _ .ok notCalled others callerHolds⟩

theorem custody_spawn_failed (state : Async) (caller : Nat) (entry : Caller) (now : Int) (custody : Custody state)
    (found : state.callers[caller]? = some entry) (failed : entry.pc = .spawnFailed) :
    Custody ({ state with mgr := { state.mgr with state := .idle, finishedAt := now } }.setPc caller
      (.returned .err)) := by
  obtain ⟨notCalled, unset, callerHolds, others⟩ :=
    active_caller_holds state custody caller entry found (by rw [failed]; rfl)
  rw [failed] at callerHolds
  obtain ⟨_, finished, settled⟩ := callerHolds
  refine ⟨fun _ => finished, .manager, manager_holds_after_return state caller _ .err notCalled others ?_⟩
  simpa only [handle, unset, Bool.false_eq_true, if_false] using settled

-- What a worker's own steps may change: its entry, and fields of the manager
-- other than the handle. While every worker has finished, the slot stays as it is.
theorem custody_work (state : Async) (mgr : Manager) (index : Nat) (change : Worker → Worker) (worker : Worker)
    (custody : Custody state) (found : state.workers[index]? = some worker) (alive : worker.pc ≠ .exited)
    (keeps : ∀ entry, (change entry).joins = entry.joins)
    (sameHandle : handle mgr.worker mgr.workerStarted = handle state.mgr.worker state.mgr.workerStarted)
    (sameStarted : mgr.workerStarted = state.mgr.workerStarted)
    (settled : AllFinished state.workers →
      mgr.state = state.mgr.state ∧ (change worker).pc ≠ .created ∧ (change worker).pc ≠ .running)
    (slot : mgr.state ≠ .running → AllFinished (state.workers.modify index change)) :
    Custody ({ state with mgr := mgr }.setWorker index change) := by
  have account : ∀ held, Outstanding state.workers held → Outstanding (state.workers.modify index change) held :=
    fun held outstanding => outstanding_work state.workers held index change outstanding worker found alive keeps
  have stillFinished : AllFinished state.workers → AllFinished (state.workers.modify index change) := by
    intro finished
    apply finished_work state.workers index change finished
    intro entry present
    rw [found, Option.some.injEq] at present
    exact present ▸ (settled finished).2
  refine ⟨slot, ?_⟩
  obtain ⟨holder, holds⟩ := custody.holder
  refine ⟨holder, ?_⟩
  cases holder with
  | manager =>
    have held := account _ holds.2.2
    rw [← sameHandle] at held
    exact ⟨holds.1, holds.2.1, held⟩
  | caller position =>
    obtain ⟨notCalled, unset, entry, present, callerHolds, others⟩ := holds
    refine ⟨notCalled, sameStarted.trans unset, entry, present, ?_, others⟩
    cases pc : entry.pc with
    | accepted prior priorValid =>
      rw [pc] at callerHolds
      exact ⟨(settled callerHolds.2.1).1.trans callerHolds.1, stillFinished callerHolds.2.1, account _ callerHolds.2.2⟩
    | joined | spawnFailed =>
      rw [pc] at callerHolds
      exact ⟨(settled callerHolds.2.1).1.trans callerHolds.1, stillFinished callerHolds.2.1, account _ callerHolds.2.2⟩
    | spawned newt =>
      rw [pc] at callerHolds
      exact account _ callerHolds
    | entered | returned _ =>
      rw [pc] at callerHolds
      exact callerHolds.elim
  | free =>
    refine ⟨holds.1, sameStarted.trans holds.2.1, ?_⟩
    have held := holds.2.2
    cases free : state.free with
    | notCalled =>
      rw [free] at held
      exact held.elim
    | captured prior priorValid | joined | freed =>
      rw [free] at held
      simp only [Async.setWorker]
      exact account _ held

theorem custody_outstanding (state : Async) (custody : Custody state) : ∃ held, Outstanding state.workers held := by
  obtain ⟨holder, holds⟩ := custody.holder
  cases holder with
  | manager => exact ⟨_, holds.2.2⟩
  | caller index =>
    obtain ⟨_, _, entry, _, callerHolds, _⟩ := holds
    cases pc : entry.pc with
    | accepted _ _ | joined | spawnFailed =>
      rw [pc] at callerHolds
      exact ⟨_, callerHolds.2.2⟩
    | spawned _ =>
      rw [pc] at callerHolds
      exact ⟨_, callerHolds⟩
    | entered | returned _ =>
      rw [pc] at callerHolds
      exact callerHolds.elim
  | free =>
    have held := holds.2.2
    cases free : state.free with
    | notCalled =>
      rw [free] at held
      exact held.elim
    | captured _ _ | joined | freed =>
      rw [free] at held
      exact ⟨_, held⟩

theorem finishes_last (state : Async) (index : Nat) (worker : Worker) (custody : Custody state)
    (found : state.workers[index]? = some worker) (running : worker.pc = .running) :
    AllFinished (state.workers.modify index fun entry => { entry with pc := .finished }) := by
  obtain ⟨held, outstanding⟩ := custody_outstanding state custody
  have isHeld : held = some index := by
    by_contra other
    have exited := (outstanding.joined index worker found other).2
    rw [running] at exited
    exact absurd exited (by decide)
  intro entry member
  obtain ⟨position, present⟩ := List.mem_iff_getElem?.mp member
  rcases Tables.modify_found state.workers index position _ entry present with ⟨_, _, _, changed⟩ | ⟨different, kept⟩
  · rw [changed]
    exact ⟨nofun, nofun⟩
  · have exited := (outstanding.joined position entry kept
      (fun same => different (Option.some.inj (same.symm.trans isHeld)))).2
    rw [exited]
    exact ⟨nofun, nofun⟩

theorem mirror_row_keeps (mgr : Manager) (row : StepResult) :
    (mirrorRow mgr row).worker = mgr.worker ∧ (mirrorRow mgr row).workerStarted = mgr.workerStarted ∧
      (mirrorRow mgr row).state = mgr.state := by
  rw [mirrorRow]
  split
  · split <;> exact ⟨rfl, rfl, rfl⟩
  · exact ⟨rfl, rfl, rfl⟩

theorem custody_worker_start (state : Async) (index : Nat) (worker : Worker) (custody : Custody state)
    (found : state.workers[index]? = some worker) (created : worker.pc = .created) :
    Custody (state.setWorker index fun entry => { entry with dryRun := state.mgr.activeDryRun, pc := .running }) := by
  have unfinished : ¬ AllFinished state.workers := fun finished =>
    (finished worker (List.mem_of_getElem? found)).1 created
  exact custody_work state state.mgr index _ worker custody found (by rw [created]; decide) (fun _ => rfl) rfl rfl
    (fun finished => absurd finished unfinished) (fun idle => absurd (custody.slot idle) unfinished)

theorem custody_worker_row (state : Async) (index : Nat) (row : StepResult) (worker : Worker) (custody : Custody state)
    (found : state.workers[index]? = some worker) (running : worker.pc = .running) :
    Custody ({ state with mgr := mirrorRow state.mgr row }.setWorker index fun entry =>
      { entry with result := resultAppendTo entry.result row }) := by
  have unfinished : ¬ AllFinished state.workers := fun finished =>
    (finished worker (List.mem_of_getElem? found)).2 running
  obtain ⟨sameWorker, sameStarted, sameState⟩ := mirror_row_keeps state.mgr row
  exact custody_work state (mirrorRow state.mgr row) index _ worker custody found (by rw [running]; decide)
    (fun _ => rfl) (by rw [sameWorker, sameStarted]) sameStarted (fun finished => absurd finished unfinished)
    (fun idle => absurd (custody.slot (sameState ▸ idle)) unfinished)

theorem custody_worker_finish (state : Async) (index : Nat) (now : Int) (worker : Worker) (custody : Custody state)
    (found : state.workers[index]? = some worker) (running : worker.pc = .running) :
    Custody ({ state with mgr := { state.mgr with state := .completed, finishedAt := now } }.setWorker index fun entry =>
      { entry with pc := .finished }) := by
  have unfinished : ¬ AllFinished state.workers := fun finished =>
    (finished worker (List.mem_of_getElem? found)).2 running
  exact custody_work state { state.mgr with state := .completed, finishedAt := now } index _ worker custody found
    (by rw [running]; decide) (fun _ => rfl) rfl rfl (fun finished => absurd finished unfinished)
    (fun _ => finishes_last state index worker custody found running)

theorem custody_worker_exit (state : Async) (index : Nat) (worker : Worker) (custody : Custody state)
    (found : state.workers[index]? = some worker) (finished : worker.pc = .finished) :
    Custody (state.setWorker index fun entry => { entry with pc := .exited }) := by
  refine custody_work state state.mgr index _ worker custody found (by rw [finished]; decide) (fun _ => rfl) rfl rfl
    (fun _ => ⟨rfl, nofun, nofun⟩) ?_
  intro idle
  exact finished_work state.workers index _ (custody.slot idle) fun _ _ => ⟨nofun, nofun⟩

theorem custody_free_lock (state : Async) (custody : Custody state) (notCalled : state.free = .notCalled)
    (returned : ∀ entry ∈ state.callers, entry.pc.isReturned = true) :
    Custody { state with
      mgr := { state.mgr with workerStarted := false }
      free := .captured state.mgr.worker state.mgr.workerStarted } := by
  refine ⟨custody.slot, .free, returned, rfl, ?_⟩
  obtain ⟨holder, holds⟩ := custody.holder
  cases holder with
  | manager => exact holds.2.2
  | caller index =>
    obtain ⟨_, _, entry, found, callerHolds, _⟩ := holds
    have done := returned entry (List.mem_of_getElem? found)
    cases pc : entry.pc with
    | returned _ =>
      rw [pc] at callerHolds
      exact callerHolds.elim
    | accepted _ _ | joined | spawned _ | spawnFailed | entered =>
      rw [pc] at done
      exact absurd done Bool.false_ne_true
  | free =>
    have impossible := holds.2.2
    rw [notCalled] at impossible
    exact impossible.elim

theorem custody_free_joined (state next : Async) (prior : Nat) (priorValid : Bool) (custody : Custody state)
    (captured : state.free = .captured prior priorValid)
    (taken : joinHandle state prior priorValid = some next) : Custody { next with free := .joined } := by
  obtain ⟨holder, holds⟩ := custody.holder
  cases holder with
  | manager => exact absurd (captured.symm.trans holds.1) nofun
  | caller index => exact absurd (captured.symm.trans holds.1) nofun
  | free =>
    obtain ⟨returned, unset, held⟩ := holds
    rw [captured] at held
    obtain ⟨same, settled⟩ := join_settles state next prior priorValid held taken
    rw [same]
    exact ⟨fun _ => settled_finished next.workers settled, .free, returned, unset, settled⟩

theorem custody_freed (state : Async) (custody : Custody state) (joined : state.free = .joined) :
    Custody { state with free := .freed } := by
  obtain ⟨holder, holds⟩ := custody.holder
  cases holder with
  | manager => exact absurd (joined.symm.trans holds.1) nofun
  | caller index => exact absurd (joined.symm.trans holds.1) nofun
  | free =>
    obtain ⟨returned, unset, held⟩ := holds
    rw [joined] at held
    exact ⟨custody.slot, .free, returned, unset, held⟩

theorem custody_step (state next : Async) (label : Label) (custody : Custody state)
    (allowed : NoAcceptBeforePublish state label) (taken : state.step label = some next) : Custody next := by
  cases step_cases state next label taken with
  | call dryRun notCalled => exact custody_call state dryRun custody notCalled
  | rejected caller entry now allocated found entered _ => exact custody_rejected state caller entry _ custody found entered
  | accepted caller entry now allocated found entered free =>
    exact custody_accepted state caller entry now allocated custody found free entered (allowed rfl free)
  | joined caller entry prior priorValid joined found accepted handled =>
    exact custody_joined state joined caller entry prior priorValid custody found accepted handled
  | spawned caller entry found joined => exact custody_created state caller entry _ custody found joined rfl
  | notSpawned caller entry found joined => exact custody_not_created state caller entry custody found joined
  | published caller entry newt found spawned => exact custody_published state caller entry newt custody found spawned
  | failed caller entry now found spawnFailed =>
    exact custody_spawn_failed state caller entry now custody found spawnFailed
  | workerStart index worker found created => exact custody_worker_start state index worker custody found created
  | workerRow index row worker found running => exact custody_worker_row state index row worker custody found running
  | workerFinish index now worker found running =>
    exact custody_worker_finish state index now worker custody found running
  | workerExit index worker found finished => exact custody_worker_exit state index worker custody found finished
  | freeLock notCalled returned => exact custody_free_lock state custody notCalled returned
  | freeJoin prior priorValid joined captured handled =>
    exact custody_free_joined state joined prior priorValid custody captured handled
  | freeMgr joined => exact custody_freed state custody joined

theorem custody_run (labels : List Label) (state : Async) (reached : Runs.run Async.step Async.initial labels = some state)
    (admitted : Runs.Admitted Async.step NoAcceptBeforePublish Async.initial labels) : Custody state :=
  Runs.guarded_invariant Async.step NoAcceptBeforePublish Async.initial Custody custody_initial
    (fun state label next custody allowed taken => custody_step state next label custody allowed taken)
    labels state reached admitted

-- No worker is joined twice; a published handle is the one created worker that
-- is not joined yet; and when the manager is freed every worker has been joined.
structure WorkersJoined (state : Async) : Prop where
  once : ∀ worker ∈ state.workers, worker.joins ≤ 1
  published : state.mgr.workerStarted = true →
    ∃ worker, state.workers[state.mgr.worker]? = some worker ∧ worker.joins = 0 ∧
      ∀ index other, index ≠ state.mgr.worker → state.workers[index]? = some other → other.joins = 1
  freed : state.free = .freed → ∀ worker ∈ state.workers, worker.joins = 1

theorem outstanding_once (workers : List Worker) (held : Option Nat) (outstanding : Outstanding workers held) :
    ∀ worker ∈ workers, worker.joins ≤ 1 := by
  intro worker member
  obtain ⟨index, found⟩ := List.mem_iff_getElem?.mp member
  by_cases isHeld : held = some index
  · rw [outstanding.unjoined index worker found isHeld]
    exact Nat.zero_le 1
  · exact Nat.le_of_eq (outstanding.joined index worker found isHeld).1

theorem custody_published_handle (state : Async) (custody : Custody state) (started : state.mgr.workerStarted = true) :
    Outstanding state.workers (some state.mgr.worker) := by
  obtain ⟨holder, holds⟩ := custody.holder
  cases holder with
  | manager => simpa only [handle, started, if_true] using holds.2.2
  | caller index => exact absurd (started.symm.trans holds.2.1) nofun
  | free => exact absurd (started.symm.trans holds.2.1) nofun

theorem custody_freed_settled (state : Async) (custody : Custody state) (freed : state.free = .freed) :
    Outstanding state.workers none := by
  obtain ⟨holder, holds⟩ := custody.holder
  cases holder with
  | manager => exact absurd (freed.symm.trans holds.1) nofun
  | caller index => exact absurd (freed.symm.trans holds.1) nofun
  | free =>
    have held := holds.2.2
    rw [freed] at held
    exact held

theorem custody_workers_joined (state : Async) (custody : Custody state) : WorkersJoined state := by
  refine ⟨?_, ?_, ?_⟩
  · obtain ⟨held, outstanding⟩ := custody_outstanding state custody
    exact outstanding_once state.workers held outstanding
  · intro started
    have outstanding := custody_published_handle state custody started
    have inside := outstanding.created state.mgr.worker rfl
    refine ⟨state.workers[state.mgr.worker], List.getElem?_eq_getElem inside, ?_, ?_⟩
    · exact outstanding.unjoined state.mgr.worker _ (List.getElem?_eq_getElem inside) rfl
    · intro index other different found
      exact (outstanding.joined index other found (fun same => different (Option.some.inj same).symm)).1
  · intro freed worker member
    obtain ⟨index, found⟩ := List.mem_iff_getElem?.mp member
    exact ((custody_freed_settled state custody freed).joined index worker found nofun).1

theorem workers_joined_exactly_once (labels : List Label) (state : Async)
    (reached : Runs.run Async.step Async.initial labels = some state)
    (admitted : Runs.Admitted Async.step NoAcceptBeforePublish Async.initial labels) : WorkersJoined state :=
  custody_workers_joined state (custody_run labels state reached admitted)

def orderlyRun : List Label :=
  [.call false, .lockStart 0 10 true, .joinPrior 0, .create 0 true, .workerStart 0, .publish 0, .workerFinish 0 20,
    .call true, .lockStart 1 30 true, .workerExit 0, .joinPrior 1, .create 1 true, .publish 1, .workerStart 1,
    .workerFinish 1 40, .freeLock, .workerExit 1, .freeJoin, .freeMgr]

theorem orderly_run_joined :
    ∃ state, Runs.run Async.step Async.initial orderlyRun = some state ∧ state.free = .freed ∧ WorkersJoined state := by
  have reached := Runs.run_final Async.step Async.initial orderlyRun (by decide)
  exact ⟨_, reached, by decide, workers_joined_exactly_once orderlyRun _ reached (by decide)⟩

-- The first worker runs to its end before its handle is published; the second
-- call is accepted in between, sees worker_started = 0, and its own handle is
-- then overwritten by the first.
def overtakenPublish : List Label :=
  [.call false, .call true, .lockStart 0 10 true, .joinPrior 0, .create 0 true, .workerStart 0, .workerFinish 0 11,
    .workerExit 0, .lockStart 1 12 true, .joinPrior 1, .create 1 true, .publish 1, .publish 0, .workerStart 1,
    .workerFinish 1 13, .workerExit 1, .freeLock, .freeJoin, .freeMgr]

theorem overtaken_publish_loses_worker :
    ¬ ∀ labels state, Runs.run Async.step Async.initial labels = some state → WorkersJoined state := by
  intro claimed
  have joined := claimed overtakenPublish _ (Runs.run_final Async.step Async.initial overtakenPublish (by decide))
  have lost := joined.freed (by decide)
  exact absurd lost (by decide)

end AiriesUps.Shutdown
