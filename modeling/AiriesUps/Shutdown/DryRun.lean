import AiriesUps.Shutdown.Slot
import AiriesUps.Shutdown.Workflow

set_option autoImplicit false

namespace AiriesUps.Shutdown

open Ups (Config)

-- What a rehearsal may do: probe a target, ask logind, and tell about it. It runs
-- no action, calls neither ups_cmd_execute nor ups_config_write, powers nothing
-- off, waits for nothing and starts no child.
def Effect.inert : Effect → Bool
  | .probe _ _ | .report _ _ _ | .event _ _ _ | .row _ | .canPoweroff _ => true
  | .action _ _ _ | .confirm _ _ | .writeKey _ | .unlinkKey _ | .sleep _ => false
  | .upsCommand _ _ | .upsWrite _ _ _ | .poweroff _ => false

def TraceEvent.inert : TraceEvent → Bool
  | .worker effect => effect.inert
  | .child _ _ | .forked _ | .killed _ | .orphaned _ _ | .ended _ _ => false

theorem worker_inert (effects : List Effect) (inert : ∀ effect ∈ effects, effect.inert = true) :
    ∀ event ∈ effects.map TraceEvent.worker, event.inert = true := by
  intro event member
  obtain ⟨effect, present, rfl⟩ := List.mem_map.mp member
  exact inert effect present

theorem test_target_connectivity_inert (target : Target) (rc : Int) :
    ∀ effect ∈ (testTargetConnectivity target rc).1, effect.inert = true := by
  rw [testTargetConnectivity]
  split <;> simp [Effect.inert]

theorem test_target_connectivity_ignores_command (target : Target) (command : String) (rc : Int) :
    testTargetConnectivity { target with command := command } rc = testTargetConnectivity target rc := rfl

theorem validate_target_inert (group : Group) (target : Target) (rc : Int) :
    ∀ effect ∈ validateTarget group target rc, effect.inert = true := by
  have probed := test_target_connectivity_inert target rc
  intro effect member
  rw [validateTarget] at member
  split at member
  · obtain probe | told := List.mem_append.mp member
    · exact probed effect probe
    · obtain rfl | rfl : effect = _ ∨ effect = _ := by simpa using told
      · rfl
      · rfl
  · obtain probe | told := List.mem_append.mp member
    · exact probed effect probe
    · obtain rfl | rfl : effect = _ ∨ effect = _ := by simpa using told
      · rfl
      · rfl

theorem execute_group_inert (env : Environment) (group : Group) (position : Nat) (targets : List Target) :
    ∀ event ∈ executeGroup true env group position targets, event.inert = true := by
  intro event member
  by_cases empty : targets = []
  · simp [executeGroup, empty] at member
  · simp only [executeGroup, if_neg empty, if_true, Bool.true_eq_false, and_false, if_false, List.append_nil,
      validateGroup, List.mem_flatMap] at member
    obtain ⟨entry, _, validated⟩ := member
    exact worker_inert _ (validate_target_inert group entry.1 _) event validated

theorem phase1_inert (env : Environment) {tables : Tables} (answers : Answers tables) :
    ∀ event ∈ phase1 true env answers, event.inert = true := by
  intro event member
  obtain ⟨entry, _, executed⟩ := List.mem_flatMap.mp member
  exact execute_group_inert env entry.1 entry.2 _ event executed

theorem phase1_summary_inert (total failed : Nat) : ∀ effect ∈ phase1Summary total failed, effect.inert = true := by
  rw [phase1Summary]
  split <;> simp [Effect.inert]

theorem ups_action_inert (config : Config) (env : Environment) :
    ∀ effect ∈ upsAction true config env, effect.inert = true := by
  rw [upsAction]
  split
  · simp [upsRow, Effect.inert]
  · rw [upsCommandAction]
    split <;> simp [upsRow, Effect.inert]
  · simp only [upsRegisterAction, if_true]
    split <;> simp [upsRow, Effect.inert]
  · simp [upsRow, Effect.inert]

theorem phase2_inert (config : Config) (env : Environment) : ∀ effect ∈ phase2 true config env, effect.inert = true := by
  intro effect member
  simp only [phase2, upsDelay, Bool.true_eq_false, and_false, if_false, List.append_nil] at member
  obtain acted | told := List.mem_append.mp member
  · exact ups_action_inert config env effect acted
  · rw [List.mem_singleton.mp told]
    rfl

theorem phase3_inert (config : Config) (env : Environment) : ∀ effect ∈ phase3 true config env, effect.inert = true := by
  simp only [phase3, if_true]
  split
  · simp [controllerRow, Effect.inert]
  · split
    · split <;> simp [controllerRow, Effect.inert]
    · simp [controllerRow, Effect.inert]

theorem terminal_event_inert (config : Config) (env : Environment) (failed : Nat) :
    ∀ effect ∈ terminalEvent true config env failed, effect.inert = true := by
  simp [terminalEvent, poweroffIssued, Effect.inert]

theorem workflow_inert (config : Config) (env : Environment) {tables : Tables} (answers : Answers tables) :
    ∀ event ∈ shutdownExecuteEx true config env answers, event.inert = true := by
  intro event member
  simp only [shutdownExecuteEx, throughPhase2, throughPhase1, List.mem_append] at member
  obtain ((((started | targets) | summary) | ups) | controller) | ended := member
  · rw [List.mem_singleton.mp started]
    rfl
  · exact phase1_inert env answers event targets
  · exact worker_inert _ (phase1_summary_inert _ _) event summary
  · exact worker_inert _ (phase2_inert config env) event ups
  · exact worker_inert _ (phase3_inert config env) event controller
  · exact worker_inert _ (terminal_event_inert config env _) event ended

-- What the outside gives one execution of the workflow.
structure Body where
  config : Config
  env : Environment
  tables : Tables
  answers : Answers tables

def Body.trace (body : Body) (dryRun : Bool) : List TraceEvent :=
  shutdownExecuteEx dryRun body.config body.env body.answers

-- The manager with what its workers do: pending is the rest of each worker's
-- workflow, performed what all of them have done so far.
structure Live where
  async : Async
  pending : Nat → List TraceEvent
  performed : List (Nat × TraceEvent)

def Live.initial : Live := { async := .initial, pending := fun _ => [], performed := [] }

inductive Act where
  | outside (label : Label)
  | start (worker : Nat) (body : Body)
  | perform (worker : Nat)
  | finish (worker : Nat) (now : Int)

-- The steps that worker_main takes between its two lock sections, both included.
def Label.inBody : Label → Bool
  | .workerStart _ | .workerRow _ _ | .workerFinish _ _ => true
  | _ => false

-- worker_main reads active_dry_run and runs shutdown_execute_ex with it; a row is
-- also mirrored into the snapshot.
def Live.step : Runs.Step Live Act
  | live, .outside label =>
    if label.inBody then none else (live.async.step label).map fun next => { live with async := next }
  | live, .start worker body =>
    (live.async.step (.workerStart worker)).map fun next =>
      { live with async := next, pending := Function.update live.pending worker (body.trace live.async.mgr.activeDryRun) }
  | live, .perform worker =>
    match live.pending worker with
    | [] => none
    | event :: rest =>
      let next := match event.row? with
        | some row => live.async.step (.workerRow worker row)
        | none => some live.async
      next.map fun next =>
        { async := next
          pending := Function.update live.pending worker rest
          performed := live.performed ++ [(worker, event)] }
  | live, .finish worker now =>
    if live.pending worker = [] then
      (live.async.step (.workerFinish worker now)).map fun next => { live with async := next }
    else none

-- The event is one of a worker that exists, and inert where a dry run was asked of it.
def Rehearsed (state : Async) (index : Nat) (event : TraceEvent) : Prop :=
  ∃ worker, state.workers[index]? = some worker ∧ (worker.requestedDry = true → event.inert = true)

structure Honoured (live : Live) : Prop where
  slot : SlotOwned live.async
  pending : ∀ index, ∀ event ∈ live.pending index, Rehearsed live.async index event
  performed : ∀ entry ∈ live.performed, Rehearsed live.async entry.1 entry.2

theorem changed_worker_persists (state : Async) (position index : Nat) (change : Worker → Worker) (worker : Worker)
    (keeps : ∀ entry, (change entry).requestedDry = entry.requestedDry) (found : state.workers[index]? = some worker) :
    ∃ later, (state.setWorker position change).workers[index]? = some later ∧ later.requestedDry = worker.requestedDry := by
  rw [Async.setWorker, List.getElem?_modify, found]
  refine ⟨_, rfl, ?_⟩
  by_cases same : position = index
  · simp only [if_pos same, keeps]
  · simp only [if_neg same]

theorem joined_worker_persists (state next : Async) (prior : Nat) (priorValid : Bool) (index : Nat) (worker : Worker)
    (handled : joinHandle state prior priorValid = some next) (found : state.workers[index]? = some worker) :
    ∃ later, next.workers[index]? = some later ∧ later.requestedDry = worker.requestedDry := by
  obtain ⟨_, _, rfl⟩ | ⟨_, rfl⟩ := join_handle_spec state next prior priorValid handled
  · exact changed_worker_persists state prior index _ worker (fun _ => rfl) found
  · exact ⟨worker, found, rfl⟩

theorem worker_persists (state next : Async) (label : Label) (index : Nat) (worker : Worker)
    (taken : state.step label = some next) (found : state.workers[index]? = some worker) :
    ∃ later, next.workers[index]? = some later ∧ later.requestedDry = worker.requestedDry := by
  cases step_cases state next label taken with
  | accepted caller entry now allocated _ _ free =>
    simp only [lockStart, if_neg free]
    exact ⟨worker, found, rfl⟩
  | joined _ _ prior priorValid joined _ _ handled =>
    exact joined_worker_persists state joined prior priorValid index worker handled found
  | freeJoin prior priorValid joined _ handled =>
    exact joined_worker_persists state joined prior priorValid index worker handled found
  | spawned caller entry _ _ =>
    have inside := (List.getElem?_eq_some_iff.mp found).1
    exact ⟨worker, (List.getElem?_append_left inside).trans found, rfl⟩
  | workerStart position _ _ _ => exact changed_worker_persists state position index _ worker (fun _ => rfl) found
  | workerRow position row _ _ _ => exact changed_worker_persists _ position index _ worker (fun _ => rfl) found
  | workerFinish position now _ _ _ => exact changed_worker_persists _ position index _ worker (fun _ => rfl) found
  | workerExit position _ _ _ => exact changed_worker_persists state position index _ worker (fun _ => rfl) found
  | _ => exact ⟨worker, found, rfl⟩

theorem rehearsed_step (state next : Async) (label : Label) (index : Nat) (event : TraceEvent)
    (taken : state.step label = some next) (rehearsed : Rehearsed state index event) : Rehearsed next index event := by
  obtain ⟨worker, found, inert⟩ := rehearsed
  obtain ⟨later, present, same⟩ := worker_persists state next label index worker taken found
  exact ⟨later, present, fun asked => inert (same ▸ asked)⟩

theorem honoured_frame (live : Live) (next : Async) (label : Label) (honoured : Honoured live)
    (taken : live.async.step label = some next) : Honoured { live with async := next } := by
  refine ⟨slot_step live.async next label honoured.slot taken, ?_, ?_⟩
  · exact fun index event member => rehearsed_step live.async next label index event taken (honoured.pending index event member)
  · exact fun entry member => rehearsed_step live.async next label entry.1 entry.2 taken (honoured.performed entry member)

-- The mode the worker reads under the lock is the one asked of it: it owns the
-- slot, so no later start has overwritten active_dry_run.
theorem started_rehearsed (state next : Async) (index : Nat) (body : Body) (owned : SlotOwned state)
    (taken : state.step (.workerStart index) = some next) :
    ∀ event ∈ body.trace state.mgr.activeDryRun, Rehearsed next index event := by
  intro event member
  cases step_cases state next _ taken with
  | workerStart _ worker found created =>
    have owner : worker.ownsSlot = true := by rw [Worker.ownsSlot, created]; rfl
    have mode := (owned.worker worker (List.mem_of_getElem? found) owner).2
    refine ⟨_, Tables.modify_same state.workers index _ worker found, fun asked => ?_⟩
    have dry : state.mgr.activeDryRun = true := mode.symm.trans asked
    rw [dry] at member
    exact workflow_inert body.config body.env body.answers event member

theorem honoured_start (live : Live) (next : Async) (index : Nat) (body : Body) (honoured : Honoured live)
    (taken : live.async.step (.workerStart index) = some next) :
    Honoured { live with
      async := next
      pending := Function.update live.pending index (body.trace live.async.mgr.activeDryRun) } := by
  have frame := honoured_frame live next (.workerStart index) honoured taken
  refine ⟨frame.slot, ?_, frame.performed⟩
  intro other event member
  by_cases same : other = index
  · subst same
    simp only [Function.update_self] at member
    exact started_rehearsed live.async next other body honoured.slot taken event member
  · simp only [Function.update_of_ne same] at member
    exact frame.pending other event member

theorem honoured_moves (live : Live) (index : Nat) (event : TraceEvent) (rest : List TraceEvent) (honoured : Honoured live)
    (head : live.pending index = event :: rest) :
    Honoured { live with
      pending := Function.update live.pending index rest
      performed := live.performed ++ [(index, event)] } := by
  refine ⟨honoured.slot, ?_, ?_⟩
  · intro other later member
    by_cases same : other = index
    · subst same
      simp only [Function.update_self] at member
      exact honoured.pending other later (head ▸ List.mem_cons_of_mem event member)
    · simp only [Function.update_of_ne same] at member
      exact honoured.pending other later member
  · intro entry member
    obtain old | new := List.mem_append.mp member
    · exact honoured.performed entry old
    · rw [List.mem_singleton.mp new]
      exact honoured.pending index event (by simp [head])

theorem honoured_step (live next : Live) (act : Act) (honoured : Honoured live) (taken : live.step act = some next) :
    Honoured next := by
  cases act with
  | outside label =>
    simp only [Live.step] at taken
    split at taken
    · cases taken
    · obtain ⟨after, moved, rfl⟩ := Option.map_eq_some_iff.mp taken
      exact honoured_frame live after label honoured moved
  | start index body =>
    obtain ⟨after, moved, rfl⟩ := Option.map_eq_some_iff.mp taken
    exact honoured_start live after index body honoured moved
  | perform index =>
    simp only [Live.step] at taken
    split at taken
    · cases taken
    · rename_i event rest head
      obtain ⟨after, moved, rfl⟩ := Option.map_eq_some_iff.mp taken
      split at moved
      · rename_i row _
        exact honoured_moves _ index event rest (honoured_frame live after (.workerRow index row) honoured moved) head
      · cases moved
        exact honoured_moves live index event rest honoured head
  | finish index now =>
    simp only [Live.step] at taken
    split at taken
    · obtain ⟨after, moved, rfl⟩ := Option.map_eq_some_iff.mp taken
      exact honoured_frame live after (.workerFinish index now) honoured moved
    · cases taken

theorem honoured_run (acts : List Act) (live : Live) (reached : Runs.run Live.step Live.initial acts = some live) :
    Honoured live :=
  Runs.run_invariant Live.step Live.initial (fun _ live => Honoured live)
    ⟨slot_initial, by simp [Live.initial], by simp [Live.initial]⟩
    (fun _ live act next honoured taken => honoured_step live next act honoured taken) acts live reached

theorem dry_run_only_rehearses :
    (∀ (config : Config) (env : Environment) (tables : Tables) (answers : Answers tables),
      ∀ event ∈ shutdownExecuteEx true config env answers, event.inert = true) ∧
    (∀ (target : Target) (command : String) (rc : Int),
      testTargetConnectivity { target with command := command } rc = testTargetConnectivity target rc) ∧
    ∀ (acts : List Act) (live : Live), Runs.run Live.step Live.initial acts = some live →
      ∀ index event, (index, event) ∈ live.performed →
        ∀ worker, live.async.workers[index]? = some worker → worker.requestedDry = true → event.inert = true := by
  refine ⟨fun config env _ answers => workflow_inert config env answers, test_target_connectivity_ignores_command, ?_⟩
  intro acts live reached index event performed worker found asked
  obtain ⟨same, present, inert⟩ := (honoured_run acts live reached).performed (index, event) performed
  rw [found, Option.some.injEq] at present
  exact inert (present ▸ asked)

-- One target that would power a host off, and a UPS that would be commanded.
def rackGroup : Group :=
  { id := 1, name := "rack", executionOrder := 1, parallel := false, maxTimeoutSec := 0, postGroupDelay := 5 }

def rackTarget : Target :=
  { groupId := 1, orderInGroup := 0, name := "host", method := "command", host := "", username := "", credential := ""
    command := "poweroff", timeoutSec := 180, confirmMethod := "none", confirmPort := 0, confirmCommand := ""
    postConfirmDelay := 15 }

def rackTables : Tables := { groups := [rackGroup], targets := [rackTarget], unique := by decide }

def rackAnswers : Answers rackTables :=
  { groups := [rackGroup]
    targets := fun id => [rackTarget].filter fun target => target.groupId = id
    groupsSelected := List.Perm.refl _
    groupsOrdered := List.pairwise_singleton _ _
    targetsSelected := fun _ => List.Perm.refl _
    targetsOrdered := fun _ => (List.pairwise_singleton _ rackTarget).filter _ }

def rackRun : GroupRun :=
  { start := 100, now := fun _ => 100
    cycles := fun _ => { keyPath := none, actionRc := 0, confirmStart := 0, stillUp := [], error := "" }
    forks := fun _ => true, polls := [], reap := [], sigtermKills := true, outlives := fun _ => false }

def rackEnvironment : Environment :=
  { runs := fun _ => rackRun, probes := fun _ _ => 0, shutdownCommand := some "shutdown", commandRc := 0
    register := fun _ => none, writeRc := 0, upsError := "", dockerBuild := false, canPoweroffRc := 0, poweroffRc := 0
    elapsed := 1 }

def rackBody : Body := { config := .unset, env := rackEnvironment, tables := rackTables, answers := rackAnswers }

-- A real start comes while the rehearsal is still on its way to its worker.
def rehearsedActs : List Act :=
  [.outside (.call true), .outside (.lockStart 0 100 true), .outside (.call false), .outside (.joinPrior 0),
    .outside (.create 0 true), .outside (.lockStart 1 101 true), .start 0 rackBody, .outside (.publish 0)] ++
    List.replicate 9 (.perform 0) ++ [.finish 0 102]

theorem rehearsed_acts_inert :
    ∃ live, Runs.run Live.step Live.initial rehearsedActs = some live ∧ live.performed.length = 9 ∧
      ∀ event, (0, event) ∈ live.performed → event.inert = true := by
  have reached := Runs.run_final Live.step Live.initial rehearsedActs (by decide +kernel)
  refine ⟨_, reached, by decide +kernel, fun event performed => ?_⟩
  have asked : ((Runs.final Live.step Live.initial rehearsedActs).async.workers[0]?).map Worker.requestedDry = some true := by
    decide +kernel
  obtain ⟨worker, found, dry⟩ := Option.map_eq_some_iff.mp asked
  exact dry_run_only_rehearses.2.2 rehearsedActs _ reached 0 event performed worker found dry

end AiriesUps.Shutdown
