import AiriesUps.Lib.Holdings
import AiriesUps.Shutdown.ChildLives

set_option autoImplicit false

namespace AiriesUps.Shutdown

open Ups (Config)
open Holdings (Change)

-- write_key_to_tmpfs makes a file under /dev/shm, and the unlink after the action
-- removes it.
def Effect.keyChange : Effect → Option (Change String)
  | .writeKey (some path) => some (.make path)
  | .unlinkKey path => some (.drop path)
  | _ => none

-- The process that makes the change: the worker itself, or one of its children.
def TraceEvent.keyChange : TraceEvent → Option (Option TargetId × Change String)
  | .worker effect => effect.keyChange.map (none, ·)
  | .child pid effect => effect.keyChange.map (some pid, ·)
  | .forked _ | .killed _ | .orphaned _ _ | .ended _ _ => none

def keyLog (trace : List TraceEvent) : List (Option TargetId × Change String) := trace.filterMap TraceEvent.keyChange

-- The files under /dev/shm after a workflow that was started with some there.
def keyFiles (before : List String) (trace : List TraceEvent) : List String :=
  Holdings.after before ((keyLog trace).map Prod.snd)

-- mkstemp opens with O_CREAT and O_EXCL: it never returns a file that exists.
def FreshKeys (before : List String) (trace : List TraceEvent) : Prop :=
  Holdings.Fresh before ((keyLog trace).map Prod.snd)

instance (before : List String) (trace : List TraceEvent) : Decidable (FreshKeys before trace) :=
  inferInstanceAs (Decidable (Holdings.Fresh _ _))

def keyChanges (effects : List Effect) : List (Change String) := effects.filterMap Effect.keyChange

theorem key_changes_append (before after : List Effect) :
    keyChanges (before ++ after) = keyChanges before ++ keyChanges after :=
  List.filterMap_append

theorem key_changes_none (effects : List Effect) (none : ∀ effect ∈ effects, effect.keyChange = none) :
    keyChanges effects = [] :=
  List.filterMap_eq_nil_iff.mpr none

theorem key_log_append (before after : List TraceEvent) : keyLog (before ++ after) = keyLog before ++ keyLog after :=
  List.filterMap_append

theorem wait_down_keyless (check : Check) (timeoutSec start : Int) (stillUp : List Int) :
    ∀ effect ∈ waitDown check timeoutSec start stillUp, effect.keyChange = none := by
  induction stillUp with
  | nil => simp [waitDown, Effect.keyChange]
  | cons now rest ih =>
    rw [waitDown]
    split
    · simp [Effect.keyChange]
    · intro effect member
      rcases List.mem_append.mp member with first | later
      · simp only [List.mem_cons, List.not_mem_nil, or_false] at first
        rcases first with rfl | rfl <;> rfl
      · exact ih effect later

theorem confirm_target_down_keyless (target : Target) (cycle : Cycle) :
    ∀ effect ∈ confirmTargetDown target cycle, effect.keyChange = none := by
  rw [confirmTargetDown]
  split
  · simp
  · exact wait_down_keyless _ _ _ _
  · exact wait_down_keyless _ _ _ _
  · exact wait_down_keyless _ _ _ _
  · simp

-- A cycle makes no key file, or makes one and removes it.
def KeyRound (changes : List (Change String)) : Prop :=
  changes = [] ∨ ∃ path, changes = [.make path, .drop path]

theorem fire_target_action_keys (id : TargetId) (target : Target) (cycle : Cycle) :
    KeyRound (keyChanges (fireTargetAction id target cycle).1) := by
  rw [fireTargetAction]
  split
  · exact Or.inl rfl
  · split
    · exact Or.inl rfl
    · rename_i path _
      exact Or.inr ⟨path, rfl⟩
  · exact Or.inl rfl
  · exact Or.inl rfl

theorem execute_target_keys (id : TargetId) (target : Target) (cycle : Cycle) :
    KeyRound (keyChanges (executeTarget id target cycle).1) := by
  have fired := fire_target_action_keys id target cycle
  rw [executeTarget]
  by_cases failed : (fireTargetAction id target cycle).2 ≠ 0
  · simpa only [if_pos failed] using fired
  · have delay : keyChanges (if target.postConfirmDelay > 0 then [.sleep target.postConfirmDelay] else []) = [] := by
      split <;> rfl
    simp only [if_neg failed]
    rw [key_changes_append, key_changes_append, delay, key_changes_none _ (confirm_target_down_keyless target cycle),
      List.append_nil, List.append_nil]
    exact fired

theorem key_round_clean (changes : List (Change String)) (round : KeyRound changes) : Holdings.Clean changes := by
  rcases round with rfl | ⟨path, rfl⟩
  · exact Holdings.clean_nil
  · exact Holdings.clean_once path

theorem own_child (pid : TargetId) (trace : List TraceEvent) :
    Holdings.own (some pid) (keyLog trace) = (deeds pid trace).filterMap fun deed =>
      match deed with
      | .did effect => effect.keyChange
      | .born | .ended _ => none := by
  rw [Holdings.own, keyLog, deeds, List.filterMap_filterMap, List.filterMap_filterMap]
  refine List.filterMap_congr fun event _ => ?_
  cases event with
  | worker effect => cases change : effect.keyChange <;> simp [TraceEvent.keyChange, TraceEvent.deedOf, change]
  | child owner effect =>
    by_cases own : owner = pid
    · cases change : effect.keyChange <;> simp [TraceEvent.keyChange, TraceEvent.deedOf, change, own]
    · cases change : effect.keyChange <;> simp [TraceEvent.keyChange, TraceEvent.deedOf, change, own]
  | forked owner => by_cases own : owner = pid <;> simp [TraceEvent.keyChange, TraceEvent.deedOf, own]
  | ended owner status => by_cases own : owner = pid <;> simp [TraceEvent.keyChange, TraceEvent.deedOf, own]
  | killed owner => rfl
  | orphaned owner shell => rfl

theorem own_life (pid : TargetId) (trace : List TraceEvent) (done : List Effect) (status : ExitStatus)
    (life : deeds pid trace = .born :: done.map .did ++ [.ended status]) :
    Holdings.own (some pid) (keyLog trace) = keyChanges done := by
  rw [own_child, life]
  simp [List.filterMap_map, keyChanges]

-- The worker's own changes, and what it holds after them.
def Tidy (trace : List TraceEvent) : Prop := Holdings.Clean (Holdings.own none (keyLog trace))

theorem own_workers (effects : List Effect) :
    Holdings.own none (keyLog (effects.map .worker)) = keyChanges effects := by
  rw [Holdings.own, keyLog, keyChanges, List.filterMap_filterMap, List.filterMap_map]
  refine List.filterMap_congr fun effect _ => ?_
  simp only [Function.comp, TraceEvent.keyChange]
  cases effect.keyChange <;> rfl

theorem tidy_append (before after : List TraceEvent) (first : Tidy before) (second : Tidy after) :
    Tidy (before ++ after) := by
  have split : Holdings.own none (keyLog (before ++ after)) =
      Holdings.own none (keyLog before) ++ Holdings.own none (keyLog after) := by
    rw [key_log_append]
    exact List.filterMap_append
  rw [Tidy, split]
  exact Holdings.clean_append _ _ first second

theorem tidy_flat_map {Item : Type} (items : List Item) (emit : Item → List TraceEvent)
    (each : ∀ item ∈ items, Tidy (emit item)) : Tidy (items.flatMap emit) := by
  induction items with
  | nil => exact Holdings.clean_nil
  | cons item rest ih =>
    exact tidy_append _ _ (each item List.mem_cons_self) (ih fun other member => each other (List.mem_cons_of_mem _ member))

theorem tidy_none (trace : List TraceEvent)
    (none : ∀ event ∈ trace, ∀ effect, event = .worker effect → effect.keyChange = none) : Tidy trace := by
  have empty : Holdings.own Option.none (keyLog trace) = [] := by
    rw [Holdings.own, keyLog, List.filterMap_filterMap]
    refine List.filterMap_eq_nil_iff.mpr fun event member => ?_
    cases event with
    | worker effect => simp [TraceEvent.keyChange, none _ member effect rfl]
    | child pid effect => cases change : effect.keyChange <;> simp [TraceEvent.keyChange, change]
    | forked pid => rfl
    | killed pid => rfl
    | orphaned pid shell => rfl
    | ended pid status => rfl
  rw [Tidy, empty]
  exact Holdings.clean_nil

theorem tidy_workers (effects : List Effect) (clean : Holdings.Clean (keyChanges effects)) :
    Tidy (effects.map .worker) := by
  rw [Tidy, own_workers]
  exact clean

theorem sequential_target_keys (group : Group) (position : Nat) (run : GroupRun) (target : Target) (index : Nat) :
    KeyRound (keyChanges (sequentialTarget group position run target index)) := by
  rw [sequentialTarget]
  split
  · exact Or.inl rfl
  · have executed := execute_target_keys { group := position, index := index } target (run.cycles index)
    simp only [key_changes_append]
    rw [show ∀ status, keyChanges [.report group.name target.name status] = [] from fun _ => rfl, List.nil_append,
      key_changes_none [_, _], List.append_nil]
    · exact executed
    · simp [Effect.keyChange]

theorem tidy_parallel (group : Group) (position : Nat) (run : GroupRun) (targets : List Target) :
    Tidy (executeGroupParallel group position run targets) := by
  have settled := wait_loop_settled group position run targets
  refine tidy_append _ _ (tidy_append _ _ (tidy_none _ ?_) (tidy_none _ ?_)) (tidy_none _ ?_)
  · intro event member effect same
    obtain ⟨slot, _, traced⟩ := List.mem_flatMap.mp member
    rcases List.mem_cons.mp traced with first | forked
    · cases first.symm.trans same
      rfl
    · subst same
      split at forked
      · cases List.mem_singleton.mp forked
      · cases forked
  · intro event member effect same
    have ofSlots := settled.events event member
    subst same
    cases effect <;> first | rfl | cases ofSlots
  · intro event member effect same
    obtain ⟨_, _, row⟩ := List.mem_map.mp member
    cases row.trans same
    rfl

theorem tidy_group (dryRun : Bool) (env : Environment) (group : Group) (position : Nat) (targets : List Target) :
    Tidy (executeGroup dryRun env group position targets) := by
  have validated : Tidy (validateGroup group (env.probes position) targets) := by
    refine tidy_flat_map _ _ fun entry _ => tidy_workers _ ?_
    have keyless : ∀ effect ∈ validateTarget group entry.1 (env.probes position entry.2), effect.keyChange = none := by
      have probed : ∀ effect ∈ (testTargetConnectivity entry.1 (env.probes position entry.2)).1, effect.keyChange = none := by
        rw [testTargetConnectivity]
        split <;> simp [Effect.keyChange]
      rw [validateTarget]
      intro effect member
      split at member
      all_goals
        rcases List.mem_append.mp member with probe | report
        · exact probed effect probe
        · simp only [List.mem_cons, List.not_mem_nil, or_false] at report
          rcases report with rfl | rfl <;> rfl
    rw [key_changes_none _ keyless]
    exact Holdings.clean_nil
  have sequential : Tidy (executeGroupSequential group position (env.runs position) targets) :=
    tidy_flat_map _ _ fun entry _ => tidy_workers _ (key_round_clean _ (sequential_target_keys _ _ _ _ _))
  have delay : Tidy (if group.postGroupDelay > 0 ∧ dryRun = false then [.worker (.sleep group.postGroupDelay)] else []) := by
    split <;> exact Holdings.clean_nil
  rw [executeGroup]
  split
  · exact Holdings.clean_nil
  · refine tidy_append _ _ ?_ delay
    split
    · exact validated
    split
    · exact tidy_parallel group position (env.runs position) targets
    · exact sequential

theorem tidy_keyless (effects : List Effect) (keyless : ∀ effect ∈ effects, effect.keyChange = none) :
    Tidy (effects.map .worker) := by
  refine tidy_workers effects ?_
  rw [key_changes_none effects keyless]
  exact Holdings.clean_nil

theorem late_keyless (effect : Effect) (late : (TraceEvent.worker effect).Late) : effect.keyChange = none := by
  cases effect <;> first | rfl | cases late

-- The worker unlinks every key file it makes before it goes on to the next target.
theorem tidy_workflow (dryRun : Bool) (config : Config) (env : Environment) {tables : Tables} (answers : Answers tables) :
    Tidy (shutdownExecuteEx dryRun config env answers) := by
  have started : Tidy [.worker (startEvent dryRun)] := tidy_keyless [startEvent dryRun] fun effect member => by
    rw [List.mem_singleton.mp member]
    rfl
  have groups : Tidy (phase1 dryRun env answers) := tidy_flat_map _ _ fun entry _ => tidy_group _ _ _ _ _
  have summary := tidy_keyless _ fun effect member => by
    obtain ⟨_, _, _, rfl⟩ := phase1_summary_effects (phase1Total answers) (resultOf (phase1 dryRun env answers)).nFailed
      effect member
    rfl
  have second := tidy_keyless _ fun effect member =>
    late_keyless effect (late_of_phase2 effect (phase2_effects dryRun config env effect member).1)
  have third := tidy_keyless _ fun effect member =>
    late_keyless effect (late_of_phase3 effect (phase3_effects dryRun config env effect member)).1
  refine tidy_append _ _ (tidy_append _ _ (tidy_append _ _ (tidy_append _ _ (tidy_append _ _ started groups) summary)
    second) third) (tidy_keyless _ fun effect member => ?_)
  obtain ⟨_, _, _, rfl⟩ := (terminal_event_effects dryRun config env _ effect member).2
  rfl

theorem key_round_part (done rest : List Effect) (round : KeyRound (keyChanges (done ++ rest))) :
    keyChanges done = [] ∨ ∃ path, keyChanges done = [.make path] ∨ keyChanges done = [.make path, .drop path] := by
  rw [key_changes_append] at round
  rcases round with none | ⟨path, both⟩
  · exact Or.inl (List.append_eq_nil_iff.mp none).1
  · match keyChanges done, both with
    | [], _ => exact Or.inl rfl
    | [change], made =>
      rw [List.singleton_append] at made
      obtain ⟨rfl, _⟩ := List.cons.inj made
      exact Or.inr ⟨path, Or.inl rfl⟩
    | first :: second :: more, made =>
      obtain ⟨rfl, tail⟩ := List.cons.inj made
      obtain ⟨rfl, nothing⟩ := List.cons.inj tail
      rw [(List.append_eq_nil_iff.mp nothing).1]
      exact Or.inr ⟨path, Or.inr rfl⟩

theorem key_change_make (effects : List Effect) (path : String) :
    .writeKey (some path) ∈ effects ↔ Change.make path ∈ keyChanges effects := by
  rw [keyChanges, List.mem_filterMap]
  constructor
  · exact fun member => ⟨_, member, rfl⟩
  · rintro ⟨effect, member, change⟩
    unfold Effect.keyChange at change
    split at change
    · cases change
      exact member
    · cases change
    · cases change

theorem key_change_drop (effects : List Effect) (path : String) :
    .unlinkKey path ∈ effects ↔ Change.drop path ∈ keyChanges effects := by
  rw [keyChanges, List.mem_filterMap]
  constructor
  · exact fun member => ⟨_, member, rfl⟩
  · rintro ⟨effect, member, change⟩
    unfold Effect.keyChange at change
    split at change
    · cases change
    · cases change
      exact member
    · cases change

-- What a child leaves: the key file it has made and not yet removed.
theorem part_left_iff (done rest : List Effect) (round : KeyRound (keyChanges (done ++ rest))) (path : String) :
    Holdings.Careful [] (keyChanges done) ∧
      (path ∈ Holdings.after [] (keyChanges done) ↔ .writeKey (some path) ∈ done ∧ .unlinkKey path ∉ done) := by
  rw [key_change_make, key_change_drop]
  rcases key_round_part done rest round with none | ⟨made, one | two⟩
  · rw [none]
    exact ⟨trivial, by simp [Holdings.after]⟩
  · rw [one]
    exact ⟨trivial, by simp [Holdings.after]⟩
  · rw [two]
    refine ⟨(Holdings.clean_once made).1, ?_⟩
    rw [(Holdings.clean_once made).2]
    simp only [List.mem_cons, List.not_mem_nil, or_false, reduceCtorEq, false_or, false_iff, not_and, not_not]
    rintro same
    cases same
    rfl

theorem forked_child_keys (dryRun : Bool) (env : Environment) {tables : Tables} (answers : Answers tables)
    (pid : TargetId) (executed : List Effect × Int) (forked : forkedChild dryRun env answers pid = some executed) :
    KeyRound (keyChanges executed.1) := by
  unfold forkedChild at forked
  split at forked
  · cases forked
  obtain ⟨group, _, inGroup⟩ := Option.bind_eq_some_iff.mp forked
  split at inGroup
  · obtain ⟨target, _, ofTarget⟩ := Option.bind_eq_some_iff.mp inGroup
    split at ofTarget
    · cases ofTarget
      exact execute_target_keys _ _ _
    · cases ofTarget
  · cases inGroup

-- A child that a signal ended between making its key file and removing it.
def LeavesKey (trace : List TraceEvent) (pid : TargetId) (path : String) : Prop :=
  ∃ done : List Effect, deeds pid trace = .born :: done.map .did ++ [.ended .signalled] ∧
    .writeKey (some path) ∈ done ∧ .unlinkKey path ∉ done

theorem child_left_iff (dryRun : Bool) (config : Config) (env : Environment) {tables : Tables} (answers : Answers tables)
    (pid : TargetId) (path : String) :
    Holdings.Careful [] (Holdings.own (some pid) (keyLog (shutdownExecuteEx dryRun config env answers))) ∧
      (path ∈ Holdings.after [] (Holdings.own (some pid) (keyLog (shutdownExecuteEx dryRun config env answers))) ↔
        LeavesKey (shutdownExecuteEx dryRun config env answers) pid path) := by
  have lives := children_live dryRun config env answers pid
  cases forked : forkedChild dryRun env answers pid with
  | none =>
    rw [forked] at lives
    have idle : deeds pid (shutdownExecuteEx dryRun config env answers) = [] := lives
    rw [own_child, idle]
    refine ⟨trivial, iff_of_false nofun ?_⟩
    rintro ⟨done, life, _⟩
    rw [idle] at life
    cases life
  | some executed =>
    rw [forked] at lives
    obtain ⟨done, rest, status, cycle, life, how⟩ := lives
    have round := forked_child_keys dryRun env answers pid executed forked
    rw [cycle] at round
    obtain ⟨careful, left⟩ := part_left_iff done rest round path
    rw [own_life pid _ done status life]
    refine ⟨careful, left.trans ?_⟩
    constructor
    · rintro ⟨made, kept⟩
      refine ⟨done, ?_, made, kept⟩
      rcases how with rfl | ⟨_, rfl⟩
      · exact life
      · -- A cycle that ran to its end has removed its key file.
        rw [List.append_nil] at round
        rw [key_change_make] at made
        rw [key_change_drop] at kept
        rcases round with none | ⟨own, both⟩
        · rw [none] at made
          cases made
        · rw [both] at made kept
          simp only [List.mem_cons, List.not_mem_nil, or_false, reduceCtorEq] at made kept
          cases made
          exact absurd (Or.inr rfl) kept
    · rintro ⟨others, same, made, kept⟩
      rw [life] at same
      have equal := List.append_inj_left' (List.cons.inj same).2 rfl
      have sameDone := List.map_injective_iff.mpr (fun _ _ both => Deed.did.inj both) equal
      rw [sameDone]
      exact ⟨made, kept⟩

-- After a workflow a file with key material is left under /dev/shm exactly by each
-- child that a signal ended between making it and removing it, and no other file is gone.
theorem key_left_iff (dryRun : Bool) (config : Config) (env : Environment) {tables : Tables} (answers : Answers tables)
    (before : List String) (fresh : FreshKeys before (shutdownExecuteEx dryRun config env answers)) (path : String) :
    path ∈ keyFiles before (shutdownExecuteEx dryRun config env answers) ↔
      path ∈ before ∨ ∃ pid, LeavesKey (shutdownExecuteEx dryRun config env answers) pid path := by
  have worker := tidy_workflow dryRun config env answers
  have children := child_left_iff dryRun config env answers
  have careful : ∀ who, Holdings.Careful [] (Holdings.own who (keyLog (shutdownExecuteEx dryRun config env answers))) := by
    rintro (_ | pid)
    · exact worker.1
    · exact (children pid path).1
  rw [keyFiles, Holdings.left_iff _ before before _ (Holdings.shared_initial before) fresh careful]
  refine or_congr_right ⟨?_, ?_⟩
  · rintro ⟨_ | pid, left⟩
    · rw [worker.2] at left
      cases left
    · exact ⟨pid, (children pid path).2.mp left⟩
  · rintro ⟨pid, left⟩
    exact ⟨some pid, (children pid path).2.mpr left⟩

-- Two targets of a parallel group; the first is struck in the shell of its action.
def keyedGroup : Group :=
  { id := 1, name := "rack", executionOrder := 1, parallel := true, maxTimeoutSec := 0, postGroupDelay := 0 }

def keyedTarget (name : String) : Target :=
  { groupId := 1, orderInGroup := 0, name := name, method := "ssh_key", host := name, username := "root"
    credential := "KEY", command := "poweroff", timeoutSec := 0, confirmMethod := "none", confirmPort := 0
    confirmCommand := "", postConfirmDelay := 0 }

def keyedTables : Tables :=
  { groups := [keyedGroup], targets := [keyedTarget "nas", keyedTarget "hub"], unique := by decide }

def keyedAnswers : Answers keyedTables :=
  { groups := [keyedGroup]
    targets := fun id => keyedTables.targets.filter fun target => target.groupId = id
    groupsSelected := List.Perm.refl _
    groupsOrdered := List.pairwise_singleton _ _
    targetsSelected := fun _ => List.Perm.refl _
    targetsOrdered := fun _ => List.Pairwise.filter _ (by decide) }

def keyedRun : GroupRun :=
  { start := 0, now := fun _ => 0
    cycles := fun index =>
      { keyPath := some (if index = 0 then "/dev/shm/airies-ups-key.aaaaaa" else "/dev/shm/airies-ups-key.bbbbbb")
        actionRc := 0, confirmStart := 0, stillUp := [], error := "" }
    forks := fun _ => true
    polls := [{ schedule := [.step 0, .step 1, .step 0, .step 1, .signal 0, .step 1, .step 1], waitFails := [], now := 1 }]
    reap := [], sigtermKills := false, outlives := fun _ => false }

def keyedEnvironment : Environment :=
  { runs := fun _ => keyedRun, probes := fun _ _ => 0, shutdownCommand := none, commandRc := 0
    register := fun _ => none, writeRc := 0, upsError := "", dockerBuild := true, canPoweroffRc := 0, poweroffRc := 0
    elapsed := 1 }

theorem struck_child_leaves_key :
    ∃ pid, LeavesKey (shutdownExecuteEx false .unset keyedEnvironment keyedAnswers) pid
      "/dev/shm/airies-ups-key.aaaaaa" :=
  ((key_left_iff false .unset keyedEnvironment keyedAnswers ["/dev/shm/other"] (by decide +kernel)
    "/dev/shm/airies-ups-key.aaaaaa").mp (by decide +kernel)).resolve_left (by decide +kernel)

end AiriesUps.Shutdown
