import AiriesUps.Shutdown.Trigger
import AiriesUps.Shutdown.Async

set_option autoImplicit false

namespace AiriesUps.Shutdown

-- The manager with its trigger state, and the call of shutdown_start_async that
-- the monitor thread made from shutdown_check_trigger, once it has made one.
structure Latch where
  async : Async
  trigger : Trigger
  triggerCall : Option Nat

def Latch.initial : Latch := { async := .initial, trigger := .idle, triggerCall := none }

-- A step of the API callers, of the workers and of the trigger's own call, or
-- one poll of the monitor thread.
inductive LatchLabel where
  | async (label : Label)
  | poll (evaluation : Evaluation)

-- The monitor thread polls again only after its own call has returned.
def Latch.monitorIdle (state : Latch) : Bool :=
  match state.triggerCall with
  | none => true
  | some caller =>
    match state.async.callers[caller]? with
    | some entry => entry.pc.isReturned
    | none => true

def poll (state : Latch) (evaluation : Evaluation) : Option Latch :=
  let result := checkTrigger state.trigger evaluation
  if result.start then
    (state.async.step (.call false)).map fun async =>
      { async := async, trigger := result.trigger, triggerCall := some state.async.callers.length }
  else some { state with trigger := result.trigger }

def Latch.step : Runs.Step Latch LatchLabel
  | state, .async label => (state.async.step label).map fun async => { state with async := async }
  | state, .poll evaluation => if state.monitorIdle then poll state evaluation else none

def RealWorker (workers : List Worker) (workflowId : Nat) : Prop :=
  ∃ worker ∈ workers, worker.workflowId = workflowId ∧ worker.requestedDry = false

instance (workers : List Worker) (workflowId : Nat) : Decidable (RealWorker workers workflowId) := by
  unfold RealWorker
  infer_instance

-- What the result of the trigger's start promises, once it has returned.
def StartJustified (async : Async) (entry : Caller) : Prop :=
  match entry.pc with
  | .returned .ok => RealWorker async.workers entry.workflowId
  | .returned (.already workflowId) => RealWorker async.workers workflowId
  | .returned .err => False
  | _ => True

structure LatchSound (state : Latch) : Prop where
  justified : state.trigger.triggered = true →
    ∃ caller entry, state.triggerCall = some caller ∧ state.async.callers[caller]? = some entry ∧
      StartJustified state.async entry
  retries : ∀ caller entry, state.triggerCall = some caller → state.async.callers[caller]? = some entry →
    ¬ StartJustified state.async entry →
    ∀ evaluation, ConditionMet evaluation → state.trigger.firstMet ≠ 0 →
      delaySec evaluation.config ≤ evaluation.now - state.trigger.firstMet →
      (checkTrigger state.trigger evaluation).start = true

-- When the trigger's start reaches its lock section the slot is free or taken by
-- a real run whose thread exists, and its own pthread_create succeeds.
def StartGoesThrough (state : Latch) : LatchLabel → Prop
  | .async (.lockStart caller _ _) =>
    state.triggerCall = some caller → state.async.mgr.state = .running →
      RealWorker state.async.workers state.async.mgr.workflowId
  | .async (.create caller ok) => state.triggerCall = some caller → ok = true
  | _ => True

instance (state : Latch) (label : LatchLabel) : Decidable (StartGoesThrough state label) :=
  match label with
  | .async label => by cases label <;> (simp only [StartGoesThrough]; infer_instance)
  | .poll _ => isTrue trivial

theorem real_worker_modify (workers : List Worker) (workflowId index : Nat) (change : Worker → Worker)
    (keeps : ∀ entry, (change entry).workflowId = entry.workflowId ∧ (change entry).requestedDry = entry.requestedDry)
    (real : RealWorker workers workflowId) : RealWorker (workers.modify index change) workflowId := by
  obtain ⟨worker, member, sameId, isReal⟩ := real
  obtain ⟨position, found⟩ := List.mem_iff_getElem?.mp member
  by_cases same : index = position
  · subst same
    have changed := Tables.modify_same workers index change worker found
    exact ⟨change worker, List.mem_of_getElem? changed, (keeps worker).1.trans sameId, (keeps worker).2.trans isReal⟩
  · rw [← List.getElem?_modify_ne change workers same] at found
    exact ⟨worker, List.mem_of_getElem? found, sameId, isReal⟩

theorem real_worker_join (state next : Async) (prior workflowId : Nat) (priorValid : Bool)
    (taken : joinHandle state prior priorValid = some next) (real : RealWorker state.workers workflowId) :
    RealWorker next.workers workflowId := by
  rcases join_handle_spec state next prior priorValid taken with ⟨_, _, rfl⟩ | ⟨_, rfl⟩
  · exact real_worker_modify state.workers workflowId prior _ (fun _ => ⟨rfl, rfl⟩) real
  · exact real

theorem real_worker_step (state next : Async) (label : Label) (workflowId : Nat)
    (taken : state.step label = some next) (real : RealWorker state.workers workflowId) :
    RealWorker next.workers workflowId := by
  cases step_cases state next label taken with
  | spawned =>
    obtain ⟨worker, member, same⟩ := real
    exact ⟨worker, List.mem_append_left _ member, same⟩
  | joined _ _ prior priorValid joined _ _ handled =>
    exact real_worker_join state joined prior workflowId priorValid handled real
  | freeJoin prior priorValid joined _ handled =>
    exact real_worker_join state joined prior workflowId priorValid handled real
  | workerStart | workerRow | workerFinish | workerExit =>
    exact real_worker_modify state.workers workflowId _ _ (fun _ => ⟨rfl, rfl⟩) real
  | accepted =>
    rw [lockStart]
    split <;> exact real
  | _ => exact real

-- How far the trigger's own real start may have come, and what is then known.
def Progress (workers : List Worker) (entry : Caller) : Prop :=
  match entry.pc with
  | .entered | .accepted _ _ | .joined => True
  | .spawned _ | .returned .ok => RealWorker workers entry.workflowId
  | .returned (.already workflowId) => RealWorker workers workflowId
  | .spawnFailed | .returned .err => False

def Started (async : Async) (caller : Nat) : Prop :=
  ∃ entry, async.callers[caller]? = some entry ∧ entry.dryRun = false ∧ Progress async.workers entry

structure LatchInv (state : Latch) : Prop where
  started : state.trigger.triggered = true → ∃ caller, state.triggerCall = some caller ∧ Started state.async caller
  latched : ∀ caller, state.triggerCall = some caller → state.trigger.triggered = true

theorem progress_step (state next : Async) (label : Label) (entry : Caller) (taken : state.step label = some next)
    (progress : Progress state.workers entry) : Progress next.workers entry := by
  unfold Progress at *
  split <;> simp_all only
  · exact real_worker_step state next label _ taken progress
  · exact real_worker_step state next label _ taken progress
  · exact real_worker_step state next label _ taken progress

theorem started_modify (state next : Async) (label : Label) (caller acting : Nat) (change : Caller → Caller)
    (taken : state.step label = some next) (callers : next.callers = state.callers.modify acting change)
    (started : Started state caller) (keeps : ∀ entry, (change entry).dryRun = entry.dryRun)
    (moves : ∀ entry, state.callers[acting]? = some entry → acting = caller → entry.dryRun = false →
      Progress state.workers entry → Progress next.workers (change entry)) : Started next caller := by
  obtain ⟨entry, found, isReal, progress⟩ := started
  by_cases same : acting = caller
  · subst same
    refine ⟨change entry, ?_, (keeps entry).trans isReal, moves entry found rfl isReal progress⟩
    rw [callers]
    exact Tables.modify_same state.callers acting change entry found
  · refine ⟨entry, ?_, isReal, progress_step state next label entry taken progress⟩
    rw [callers, List.getElem?_modify_ne change state.callers same]
    exact found

theorem started_kept (state next : Async) (label : Label) (caller : Nat) (taken : state.step label = some next)
    (callers : next.callers = state.callers) (started : Started state caller) : Started next caller := by
  obtain ⟨entry, found, isReal, progress⟩ := started
  exact ⟨entry, callers ▸ found, isReal, progress_step state next label entry taken progress⟩

theorem join_handle_callers (state next : Async) (prior : Nat) (priorValid : Bool)
    (taken : joinHandle state prior priorValid = some next) : next.callers = state.callers := by
  rcases join_handle_spec state next prior priorValid taken with ⟨_, _, rfl⟩ | ⟨_, rfl⟩ <;> rfl

theorem started_step (state : Latch) (next : Async) (label : Label) (caller : Nat)
    (isTrigger : state.triggerCall = some caller) (allowed : StartGoesThrough state (.async label))
    (taken : state.async.step label = some next) (started : Started state.async caller) : Started next caller := by
  cases step_cases state.async next label taken with
  | call dryRun _ =>
    obtain ⟨entry, found, isReal, progress⟩ := started
    refine ⟨entry, ?_, isReal, progress⟩
    rw [List.getElem?_append_left (List.getElem?_eq_some_iff.mp found).1]
    exact found
  | rejected acting _ _ _ _ _ running =>
    apply started_modify state.async _ _ caller acting _ taken rfl started (fun _ => rfl)
    intro _ _ same _ _
    exact allowed (same ▸ isTrigger) running
  | accepted acting _ _ _ _ _ free =>
    refine started_modify state.async _ _ caller acting
      (Caller.accept (state.async.mgr.workflowId + 1) state.async.mgr.worker state.async.mgr.workerStarted) taken
      (by rw [lockStart, if_neg free]) started (fun _ => rfl) ?_
    intro _ _ _ _ _
    exact trivial
  | joined acting _ prior priorValid joined _ _ handled =>
    have kept := join_handle_callers state.async joined prior priorValid handled
    refine started_modify state.async _ _ caller acting (Caller.goto .joined) taken (by rw [Async.setPc, kept]) started
      (fun _ => rfl) ?_
    intro _ _ _ _ _
    exact trivial
  | spawned acting creator found _ =>
    apply started_modify state.async _ _ caller acting _ taken rfl started (fun _ => rfl)
    intro entry present same isReal _
    rw [found, Option.some.injEq] at present
    subst present
    exact ⟨creator.newWorker, List.mem_append_right _ (List.mem_singleton.mpr rfl), rfl, isReal⟩
  | notSpawned acting _ _ _ =>
    apply started_modify state.async _ _ caller acting _ taken rfl started (fun _ => rfl)
    intro _ _ same _ _
    exact absurd (allowed (same ▸ isTrigger)) Bool.false_ne_true
  | published acting _ newt found spawned =>
    apply started_modify state.async _ _ caller acting (Caller.goto (.returned .ok)) taken rfl started (fun _ => rfl)
    intro entry present _ _ progress
    rw [found, Option.some.injEq] at present
    subst present
    simp only [Progress, spawned] at progress
    exact progress
  | failed acting _ _ found spawnFailed =>
    apply started_modify state.async _ _ caller acting _ taken rfl started (fun _ => rfl)
    intro entry present _ _ progress
    rw [found, Option.some.injEq] at present
    subst present
    simp only [Progress, spawnFailed] at progress
  | workerStart | workerRow | workerFinish | workerExit | freeLock | freeMgr =>
    exact started_kept state.async _ _ caller taken rfl started
  | freeJoin prior priorValid joined _ handled =>
    have kept := join_handle_callers state.async joined prior priorValid handled
    exact started_kept state.async _ _ caller taken kept started

theorem latch_inv_poll (state next : Latch) (evaluation : Evaluation) (inv : LatchInv state)
    (taken : poll state evaluation = some next) : LatchInv next := by
  have outcome := check_trigger_evaluated state.trigger evaluation
  rw [poll] at taken
  generalize checkTrigger state.trigger evaluation = result at outcome taken
  cases outcome with
  | fired untriggered met running elapsed =>
    obtain ⟨async, called, rfl⟩ := Option.map_eq_some_iff.mp taken
    refine ⟨fun _ => ⟨state.async.callers.length, rfl, ?_⟩, fun _ _ => rfl⟩
    cases step_cases state.async async (.call false) called with
    | call _ _ =>
      refine ⟨{ dryRun := false, workflowId := 0, pc := .entered }, ?_, rfl, trivial⟩
      rw [List.getElem?_concat_length]
  | latched | manual | unmet | armed | waiting =>
    simp only [Bool.false_eq_true, if_false, Option.some.injEq] at taken
    subst next
    exact ⟨inv.started, inv.latched⟩

theorem latch_inv_step (state next : Latch) (label : LatchLabel) (inv : LatchInv state)
    (allowed : StartGoesThrough state label) (taken : state.step label = some next) : LatchInv next := by
  cases label with
  | async label =>
    obtain ⟨async, stepped, rfl⟩ := Option.map_eq_some_iff.mp taken
    refine ⟨?_, inv.latched⟩
    intro triggered
    obtain ⟨caller, isTrigger, started⟩ := inv.started triggered
    exact ⟨caller, isTrigger, started_step state async label caller isTrigger allowed stepped started⟩
  | poll evaluation =>
    simp only [Latch.step, Option.ite_none_right_eq_some] at taken
    exact latch_inv_poll state next evaluation inv taken.2

theorem progress_justified (async : Async) (entry : Caller) (progress : Progress async.workers entry) :
    StartJustified async entry := by
  rw [Progress] at progress
  rw [StartJustified]
  split <;> simp_all only

theorem latch_inv_sound (state : Latch) (inv : LatchInv state) : LatchSound state := by
  constructor
  · intro triggered
    obtain ⟨caller, isTrigger, entry, found, _, progress⟩ := inv.started triggered
    exact ⟨caller, entry, isTrigger, found, progress_justified state.async entry progress⟩
  · intro caller entry isTrigger found unjustified
    obtain ⟨same, called, started, present, _, progress⟩ := inv.started (inv.latched caller isTrigger)
    rw [isTrigger, Option.some.injEq] at called
    rw [← called, found, Option.some.injEq] at present
    exact absurd (progress_justified state.async entry (present ▸ progress)) unjustified

theorem latch_only_for_real_workflow (labels : List LatchLabel) (state : Latch)
    (reached : Runs.run Latch.step Latch.initial labels = some state)
    (admitted : Runs.Admitted Latch.step StartGoesThrough Latch.initial labels) : LatchSound state := by
  have inv : LatchInv state :=
    Runs.guarded_invariant Latch.step StartGoesThrough Latch.initial LatchInv
      ⟨fun triggered => absurd triggered Bool.false_ne_true, fun _ called => absurd called nofun⟩
      (fun state label next inv allowed taken => latch_inv_step state next label inv allowed taken)
      labels state reached admitted
  exact latch_inv_sound state inv

def firingRun : List LatchLabel :=
  [.poll (outageAt 1000), .poll (outageAt 1030), .async (.lockStart 0 1030 true), .async (.joinPrior 0),
    .async (.create 0 true), .async (.publish 0), .poll (outageAt 1032)]

theorem firing_run_sound :
    ∃ state, Runs.run Latch.step Latch.initial firingRun = some state ∧ state.trigger.triggered = true ∧
      LatchSound state := by
  have reached := Runs.run_final Latch.step Latch.initial firingRun (by decide)
  exact ⟨_, reached, by decide, latch_only_for_real_workflow firingRun _ reached (by decide)⟩

-- The debounce elapses while a dry run started from the API holds the slot.
def dryRunInFlight : List LatchLabel :=
  [.poll (outageAt 1000), .async (.call true), .async (.lockStart 0 1029 true), .async (.joinPrior 0),
    .async (.create 0 true), .async (.publish 0), .poll (outageAt 1030), .async (.lockStart 1 1030 true)]

theorem dry_run_in_flight_latches :
    ¬ ∀ labels state, Runs.run Latch.step Latch.initial labels = some state → LatchSound state := by
  intro claimed
  have sound := claimed dryRunInFlight _ (Runs.run_final Latch.step Latch.initial dryRunInFlight (by decide))
  obtain ⟨caller, entry, isTrigger, found, justified⟩ := sound.justified (by decide)
  have isSecond : caller = 1 := (Option.some.inj (show some 1 = some caller from isTrigger)).symm
  subst isSecond
  have rejected : entry = { dryRun := false, workflowId := 0, pc := .returned (.already 1) } :=
    (Option.some.inj (show some _ = some entry from found)).symm
  subst rejected
  change RealWorker (Runs.final Latch.step Latch.initial dryRunInFlight).async.workers 1 at justified
  exact absurd justified (by decide)

end AiriesUps.Shutdown
