import Mathlib.Algebra.BigOperators.Group.List.Basic
import AiriesUps.Shutdown.Workflow

set_option autoImplicit false

namespace AiriesUps.Shutdown

open Ups (Config)

-- A target as the workflow comes to it: its group, the group's position in the
-- execution order, and its own place among the targets read.
structure Entry where
  group : Group
  position : Nat
  target : Target
  index : Nat
deriving DecidableEq, Repr

def Entry.id (entry : Entry) : TargetId := { group := entry.position, index := entry.index }

def entriesOf {tables : Tables} (answers : Answers tables) : List Entry :=
  answers.groups.zipIdx.flatMap fun placed =>
    (answers.targets placed.1.id).zipIdx.map fun read =>
      { group := placed.1, position := placed.2, target := read.1, index := read.2 }

def existingTargets (tables : Tables) : Nat :=
  tables.targets.countP fun target => target.groupId ∈ tables.groups.map Group.id

-- One phase1 row per target, in order, then the phase2 row and the phase3 row.
def RowsInOrder {tables : Tables} (answers : Answers tables) (rows : List StepResult) : Prop :=
  ∃ targetRows ups controller, rows = targetRows ++ [ups, controller] ∧
    List.Forall₂ (fun entry row => row.phase = "phase1" ∧ row.target = stepTarget entry.group entry.target.name)
      (entriesOf answers) targetRows ∧
    (ups.phase = "phase2" ∧ ups.target = "ups") ∧ (controller.phase = "phase3" ∧ controller.target = "controller")

def TraceEvent.UpsCall : TraceEvent → Prop
  | .worker (.upsCommand _ _) | .worker (.upsWrite _ _ _) => True
  | _ => False

def TraceEvent.Late : TraceEvent → Prop
  | .worker (.event _ _ (.text _)) | .worker (.row _) | .worker (.sleep _) => True
  | .worker (.upsCommand _ _) | .worker (.upsWrite _ _ _) => True
  | .worker (.canPoweroff _) | .worker (.poweroff _) => True
  | _ => False

-- Every process started for phase 1, a child or the shell of a run_shell call, has
-- ended before, and none is started after.
structure Phase1Over (before after : List TraceEvent) : Prop where
  ended : ChildrenEnded before
  orphanless : Orphanless before
  late : ∀ event ∈ after, event.Late

structure Disciplined (dryRun : Bool) (config : Config) (env : Environment) {tables : Tables} (answers : Answers tables) :
    Prop where
  rows : RowsInOrder answers (resultOf (shutdownExecuteEx dryRun config env answers)).steps
  steps : (resultOf (shutdownExecuteEx dryRun config env answers)).steps.length = existingTargets tables + 2
  failed : (resultOf (shutdownExecuteEx dryRun config env answers)).nFailed =
    failedRows (resultOf (shutdownExecuteEx dryRun config env answers)).steps
  ups : ∀ before event after, shutdownExecuteEx dryRun config env answers = before ++ event :: after →
    event.UpsCall → Phase1Over before after
  poweroff : ∀ before rc after, shutdownExecuteEx dryRun config env answers = before ++ .worker (.poweroff rc) :: after →
    throughPhase2 dryRun config env answers <+: before

def UpsIssued (dryRun : Bool) (config : Config) (env : Environment) : Prop :=
  dryRun = false ∧
    (upsMode config = "command" ∧ env.shutdownCommand.isSome ∨
      upsMode config = "register" ∧ upsRegister config ≠ "" ∧ env.register (upsRegister config) = some true)

theorem result_of_fold (rows : List StepResult) (result : Result) :
    (rows.foldl resultAppendTo result).steps = result.steps ++ rows ∧
      (result.Counted → (rows.foldl resultAppendTo result).Counted) := by
  induction rows generalizing result with
  | nil => exact ⟨(List.append_nil _).symm, id⟩
  | cons row rest ih =>
    obtain ⟨steps, counted⟩ := ih (resultAppendTo result row)
    refine ⟨?_, fun before => counted (append_counted result row before)⟩
    rw [List.foldl_cons, steps, resultAppendTo, List.append_assoc]
    rfl

theorem result_of_steps (trace : List TraceEvent) : (resultOf trace).steps = rowsOf trace :=
  (result_of_fold (rowsOf trace) Result.empty).1.trans (List.nil_append _)

theorem result_of_counted (trace : List TraceEvent) : (resultOf trace).nFailed = failedRows (rowsOf trace) := by
  have counted : (resultOf trace).Counted := (result_of_fold (rowsOf trace) Result.empty).2 empty_counted
  rw [counted, result_of_steps]

theorem test_target_connectivity_probes (target : Target) (rc : Int) :
    ∀ effect ∈ (testTargetConnectivity target rc).1, ∃ command, effect = .probe command rc := by
  rw [testTargetConnectivity]
  split <;> simp

theorem validate_target_shape (group : Group) (target : Target) (rc : Int) :
    ∃ status ok err, validateTarget group target rc = (testTargetConnectivity target rc).1 ++
      [.report group.name target.name status, .row (resultRowFill "phase1" (stepTarget group target.name) ok err)] := by
  by_cases reached : (testTargetConnectivity target rc).2 = 0
  · exact ⟨"validated", 0, "", by simp only [validateTarget, if_pos reached]⟩
  · exact ⟨"validation FAILED", 1, _, by simp only [validateTarget, if_neg reached]; rfl⟩

theorem validate_target_effects (group : Group) (target : Target) (rc : Int) (position : Nat) (started : Nat → Prop) :
    ∀ event ∈ (validateTarget group target rc).map TraceEvent.worker, event.OfGroup position started := by
  intro event member
  obtain ⟨effect, present, rfl⟩ := List.mem_map.mp member
  obtain ⟨status, ok, err, shape⟩ := validate_target_shape group target rc
  rw [shape] at present
  rcases List.mem_append.mp present with probed | reported
  · obtain ⟨command, rfl⟩ := test_target_connectivity_probes target rc effect probed
    trivial
  · simp only [List.mem_cons, List.not_mem_nil, or_false] at reported
    rcases reported with rfl | rfl <;> trivial

theorem validate_target_row (group : Group) (target : Target) (rc : Int) :
    ∃ row, rowsOf ((validateTarget group target rc).map .worker) = [row] ∧ row.phase = "phase1" ∧
      row.target = stepTarget group target.name := by
  have silent : rowsOf ((testTargetConnectivity target rc).1.map .worker) = [] := by
    apply rows_of_none
    intro event member
    obtain ⟨effect, present, rfl⟩ := List.mem_map.mp member
    obtain ⟨command, rfl⟩ := test_target_connectivity_probes target rc effect present
    rfl
  obtain ⟨status, ok, err, shape⟩ := validate_target_shape group target rc
  refine ⟨_, ?_, phase1_row_phase group target.name err ok, phase1_row_target group target.name err ok⟩
  rw [shape, List.map_append, rows_of_append, silent]
  rfl

theorem validate_group_rows (group : Group) (probes : Nat → Int) (targets : List Target) :
    List.Forall₂ (fun (entry : Target × Nat) row => row.phase = "phase1" ∧ row.target = stepTarget group entry.1.name)
      targets.zipIdx (rowsOf (validateGroup group probes targets)) := by
  rw [validateGroup]
  induction targets.zipIdx with
  | nil => exact List.Forall₂.nil
  | cons entry rest ih =>
    obtain ⟨row, emitted, named⟩ := validate_target_row group entry.1 (probes entry.2)
    rw [List.flatMap_cons, rows_of_append, emitted]
    exact List.Forall₂.cons named ih

theorem execute_group_executed (env : Environment) (group : Group) (position : Nat) (targets : List Target) :
    GroupExecuted group position (env.runs position) targets (executeGroup false env group position targets) := by
  rw [executeGroup]
  by_cases empty : targets = []
  · rw [if_pos empty, empty]
    exact ⟨List.Forall₂.nil, nofun, nofun⟩
  rw [if_neg empty, if_neg Bool.false_ne_true]
  have core : GroupExecuted group position (env.runs position) targets
      (if group.parallel = true then executeGroupParallel group position (env.runs position) targets
        else executeGroupSequential group position (env.runs position) targets) := by
    by_cases parallel : group.parallel = true
    · rw [if_pos parallel]
      exact parallel_group_executed group position (env.runs position) targets parallel
    · rw [if_neg parallel]
      exact sequential_group_executed group position (env.runs position) targets (Bool.eq_false_iff.mpr parallel)
  by_cases delay : group.postGroupDelay > 0 ∧ false = false
  · rw [if_pos delay]
    refine ⟨?_, ?_, ?_⟩
    · rw [rows_of_append]
      have silent : rowsOf [.worker (.sleep group.postGroupDelay)] = [] := rfl
      rw [silent, List.append_nil]
      exact core.rows.imp fun entry row rowOf => row_of_mono _ _ _ _ _ _ _ rowOf (List.subset_append_left _ _)
    · intro event member
      rcases List.mem_append.mp member with early | last
      · exact core.events event early
      · rw [List.mem_singleton.mp last]
        trivial
    · intro pid member
      rcases List.mem_append.mp member with early | last
      · obtain ⟨status, ended⟩ := core.ended pid early
        exact ⟨status, List.mem_append_left _ ended⟩
      · cases List.mem_singleton.mp last
  · rw [if_neg delay, List.append_nil]
    exact core

-- The validation of a dry run starts nothing but probes.
theorem validate_group_events (env : Environment) (group : Group) (position : Nat) (targets : List Target)
    (started : Nat → Prop) :
    ∀ event ∈ executeGroup true env group position targets, event.OfGroup position started ∧ ∃ effect, event = .worker effect := by
  intro event member
  rw [executeGroup] at member
  by_cases empty : targets = []
  · rw [if_pos empty] at member
    cases member
  · have never : ¬ (group.postGroupDelay > 0 ∧ true = false) := fun both => Bool.noConfusion both.2
    rw [if_neg empty, if_pos rfl, if_neg never, List.append_nil] at member
    obtain ⟨entry, _, emitted⟩ := List.mem_flatMap.mp member
    obtain ⟨effect, _, same⟩ := List.mem_map.mp emitted
    exact ⟨validate_target_effects group entry.1 _ position started event emitted, effect, same.symm⟩

theorem execute_group_named (dryRun : Bool) (env : Environment) (group : Group) (position : Nat) (targets : List Target) :
    List.Forall₂ (fun (entry : Target × Nat) row => row.phase = "phase1" ∧ row.target = stepTarget group entry.1.name)
      targets.zipIdx (rowsOf (executeGroup dryRun env group position targets)) := by
  cases dryRun with
  | false => exact (execute_group_executed env group position targets).rows.imp fun _ _ rowOf => ⟨rowOf.phase, rowOf.target⟩
  | true =>
    rw [executeGroup]
    by_cases empty : targets = []
    · rw [if_pos empty, empty]
      exact List.Forall₂.nil
    · have never : ¬ (group.postGroupDelay > 0 ∧ true = false) := fun both => Bool.noConfusion both.2
      rw [if_neg empty, if_pos rfl, if_neg never, List.append_nil]
      exact validate_group_rows group (env.probes position) targets

theorem execute_group_events (dryRun : Bool) (env : Environment) (group : Group) (position : Nat) (targets : List Target) :
    ∀ event ∈ executeGroup dryRun env group position targets,
      event.OfGroup position (TargetStarted group (env.runs position)) := by
  intro event member
  cases dryRun with
  | false => exact (execute_group_executed env group position targets).events event member
  | true => exact (validate_group_events env group position targets _ event member).1

theorem execute_group_ended (dryRun : Bool) (env : Environment) (group : Group) (position : Nat) (targets : List Target) :
    ChildrenEnded (executeGroup dryRun env group position targets) := by
  cases dryRun with
  | false => exact (execute_group_executed env group position targets).ended
  | true =>
    intro pid member
    obtain ⟨effect, same⟩ := (validate_group_events env group position targets (fun _ => True) _ member).2
    cases same

theorem clean_loop_nil (group : Group) (run : GroupRun) (polls : List Poll) : CleanLoop group run polls [] := by
  obtain ⟨killed, moved⟩ := moved_wait_loop group run polls []
  rw [← orphanless_wait_loop]
  intro pid shell member
  obtain ⟨⟨name, own⟩, _⟩ := moved.events [] nofun _ member
  cases own

theorem execute_group_orphanless (env : Environment) (group : Group) (position : Nat) (targets : List Target) :
    Orphanless (executeGroup false env group position targets) ↔
      GroupClean group position (env.runs position) targets := by
  unfold executeGroup GroupClean
  by_cases empty : targets = []
  · rw [if_pos empty, empty]
    exact iff_of_true orphanless_nil fun _ => clean_loop_nil group _ _
  have delayed : Orphanless
      (if group.postGroupDelay > 0 ∧ false = false then [.worker (.sleep group.postGroupDelay)] else []) := by
    split
    · exact orphanless_worker [.sleep group.postGroupDelay]
    · exact orphanless_nil
  rw [if_neg empty, if_neg Bool.false_ne_true, orphanless_append]
  by_cases parallel : group.parallel = true
  · rw [if_pos parallel, orphanless_parallel]
    exact ⟨fun clean _ => clean.1, fun clean => ⟨clean parallel, delayed⟩⟩
  · rw [if_neg parallel]
    exact iff_of_true ⟨orphanless_sequential _ _ _ _, delayed⟩ fun begun => absurd begun parallel

end AiriesUps.Shutdown
