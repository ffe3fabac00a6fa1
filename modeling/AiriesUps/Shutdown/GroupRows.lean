import AiriesUps.Lib.Aligned
import AiriesUps.Shutdown.GroupExecution

set_option autoImplicit false

namespace AiriesUps.Shutdown

def TraceEvent.row? : TraceEvent → Option StepResult
  | .worker (.row row) => some row
  | _ => none

def rowsOf (trace : List TraceEvent) : List StepResult := trace.filterMap TraceEvent.row?

-- The target's action was run, by the workflow or by its child, and exited with 0.
def ActionRan (trace : List TraceEvent) (id : TargetId) : Prop :=
  ∃ command, .worker (.action id command 0) ∈ trace ∨ .child id (.action id command 0) ∈ trace

def ChildrenEnded (trace : List TraceEvent) : Prop :=
  ∀ pid, .forked pid ∈ trace → ∃ status, .ended pid status ∈ trace

-- The target's cycle is begun: its fork succeeds, or the sequential loop reaches
-- it before the ceiling.
def TargetStarted (group : Group) (run : GroupRun) (index : Nat) : Prop :=
  if group.parallel then run.forks index = true else ¬ pastCeiling group run.start (run.now index)

instance (group : Group) (run : GroupRun) (index : Nat) : Decidable (TargetStarted group run index) := by
  unfold TargetStarted
  infer_instance

-- The events of one group in phase 1: nothing touches the UPS or the controller,
-- and only started targets of this group are acted on.
def TraceEvent.OfGroup (position : Nat) (started : Nat → Prop) : TraceEvent → Prop
  | .worker (.upsCommand _ _) | .worker (.upsWrite _ _ _) => False
  | .worker (.canPoweroff _) | .worker (.poweroff _) | .worker (.event _ _ _) => False
  | .worker (.action id _ _) => id.group = position ∧ started id.index
  | .worker _ => True
  | .child pid effect | .orphaned pid effect => pid.group = position ∧ started pid.index ∧ effect.OfCycle pid
  | .forked pid | .killed pid | .ended pid _ => pid.group = position

structure RowOf (trace : List TraceEvent) (group : Group) (run : GroupRun) (id : TargetId) (target : Target)
    (row : StepResult) : Prop where
  phase : row.phase = "phase1"
  target : row.target = stepTarget group target.name
  ran : TargetStarted group run id.index → row.ok = 0 → ActionRan trace id
  decided : TargetStarted group run id.index → row.ok = 0 ∨ row.ok = 1
  unstarted : ¬ TargetStarted group run id.index → row.ok = if group.parallel then 0 else 2

-- A group executed: one row per target in the order they were read, no child left.
structure GroupExecuted (group : Group) (position : Nat) (run : GroupRun) (targets : List Target)
    (trace : List TraceEvent) : Prop where
  rows : List.Forall₂ (fun entry row => RowOf trace group run { group := position, index := entry.2 } entry.1 row)
    targets.zipIdx (rowsOf trace)
  events : ∀ event ∈ trace, event.OfGroup position (TargetStarted group run)
  ended : ChildrenEnded trace

@[simp] theorem rows_of_append (before after : List TraceEvent) :
    rowsOf (before ++ after) = rowsOf before ++ rowsOf after :=
  List.filterMap_append

theorem rows_of_none (trace : List TraceEvent) (rowless : ∀ event ∈ trace, event.row? = none) : rowsOf trace = [] :=
  List.filterMap_eq_nil_iff.mpr rowless

theorem action_ran_mono (before after : List TraceEvent) (id : TargetId) (ran : ActionRan before id)
    (included : before ⊆ after) : ActionRan after id := by
  obtain ⟨command, byWorker | byChild⟩ := ran
  · exact ⟨command, Or.inl (included byWorker)⟩
  · exact ⟨command, Or.inr (included byChild)⟩

theorem row_of_mono (before after : List TraceEvent) (group : Group) (run : GroupRun) (id : TargetId) (target : Target)
    (row : StepResult) (rowOf : RowOf before group run id target row) (included : before ⊆ after) :
    RowOf after group run id target row :=
  ⟨rowOf.phase, rowOf.target, fun started ok => action_ran_mono before after id (rowOf.ran started ok) included,
    rowOf.decided, rowOf.unstarted⟩

theorem snprintf_again (size : Nat) (text : String) : snprintf size (snprintf size text) = snprintf size text := by
  simp only [snprintf, String.toList_ofList, List.take_take, Nat.min_self]

theorem phase1_row_phase (group : Group) (name err : String) (ok : Nat) :
    (resultRowFill "phase1" (stepTarget group name) ok err).phase = "phase1" := by
  have fits : snprintf 16 "phase1" = "phase1" := by decide
  exact fits

theorem phase1_row_target (group : Group) (name err : String) (ok : Nat) :
    (resultRowFill "phase1" (stepTarget group name) ok err).target = stepTarget group name :=
  snprintf_again 96 (group.name ++ "/" ++ name)

theorem cycle_rowless (id : TargetId) (effects : List Effect) (cycle : ∀ effect ∈ effects, effect.OfCycle id) :
    rowsOf (effects.map .worker) = [] := by
  apply rows_of_none
  intro event member
  obtain ⟨effect, present, rfl⟩ := List.mem_map.mp member
  have ofCycle := cycle effect present
  cases effect <;> first | rfl | exact ofCycle.elim

theorem cycle_of_group (id : TargetId) (started : Nat → Prop) (effect : Effect) (cycle : effect.OfCycle id)
    (begun : started id.index) : (TraceEvent.worker effect).OfGroup id.group started := by
  cases effect <;> first | trivial | exact cycle.elim | (obtain rfl := cycle; exact ⟨rfl, begun⟩)

theorem started_sequential (group : Group) (run : GroupRun) (index : Nat) (sequential : group.parallel = false) :
    TargetStarted group run index ↔ ¬ pastCeiling group run.start (run.now index) := by
  rw [TargetStarted, sequential, if_neg Bool.false_ne_true]

-- The row of a target the sequential loop skips at the ceiling.
theorem skipped_row (trace : List TraceEvent) (group : Group) (run : GroupRun) (id : TargetId) (target : Target)
    (sequential : group.parallel = false) (late : pastCeiling group run.start (run.now id.index)) :
    RowOf trace group run id target (resultRowFill "phase1" (stepTarget group target.name) 2 "") := by
  have started := started_sequential group run id.index sequential
  refine ⟨phase1_row_phase group target.name "" 2, phase1_row_target group target.name "" 2, ?_, ?_, ?_⟩
  · exact fun begun => absurd late (started.mp begun)
  · exact fun begun => absurd late (started.mp begun)
  · intro _
    rw [sequential, if_neg Bool.false_ne_true]
    rfl

theorem executed_row (trace : List TraceEvent) (group : Group) (run : GroupRun) (id : TargetId) (target : Target)
    (err : String) (sequential : group.parallel = false) (reached : ¬ pastCeiling group run.start (run.now id.index))
    (seen : ∀ effect ∈ (executeTarget id target (run.cycles id.index)).1, .worker effect ∈ trace) :
    RowOf trace group run id target
      (resultRowFill "phase1" (stepTarget group target.name)
        (if (executeTarget id target (run.cycles id.index)).2 = 0 then 0 else 1) err) := by
  have started := started_sequential group run id.index sequential
  refine ⟨phase1_row_phase _ _ _ _, phase1_row_target _ _ _ _, ?_, ?_, ?_⟩
  · intro _ succeeded
    have zero : (executeTarget id target (run.cycles id.index)).2 = 0 := by
      by_contra failed
      simp only [resultRowFill, if_neg failed] at succeeded
      cases succeeded
    obtain ⟨command, ran⟩ := execute_target_ran id target (run.cycles id.index) zero
    exact ⟨command, Or.inl (seen _ ran)⟩
  · intro _
    simp only [resultRowFill]
    split
    · exact Or.inl rfl
    · exact Or.inr rfl
  · exact fun unstarted => absurd (started.mpr reached) unstarted

theorem sequential_target_executed (group : Group) (position : Nat) (run : GroupRun) (target : Target) (index : Nat)
    (sequential : group.parallel = false) :
    (∃ row, rowsOf ((sequentialTarget group position run target index).map .worker) = [row] ∧
      RowOf ((sequentialTarget group position run target index).map .worker) group run
        { group := position, index := index } target row) ∧
      ∀ event ∈ (sequentialTarget group position run target index).map TraceEvent.worker,
        event.OfGroup position (TargetStarted group run) := by
  rw [sequentialTarget]
  by_cases late : pastCeiling group run.start (run.now index)
  · rw [if_pos late]
    constructor
    · exact ⟨_, rfl, skipped_row _ group run { group := position, index := index } target sequential late⟩
    · simp [TraceEvent.OfGroup]
  · rw [if_neg late]
    have cycle := execute_target_of_cycle { group := position, index := index } target (run.cycles index)
    constructor
    · refine ⟨_, ?_, executed_row _ group run { group := position, index := index } target (run.cycles index).error
        sequential late ?_⟩
      · simp only [List.map_append, rows_of_append, cycle_rowless _ _ cycle, List.append_nil]
        rfl
      · intro effect ran
        apply List.mem_map_of_mem
        exact List.mem_append_left _ (List.mem_append_right _ ran)
    · intro event member
      obtain ⟨effect, present, rfl⟩ := List.mem_map.mp member
      simp only [List.mem_append, List.mem_cons, List.not_mem_nil, or_false] at present
      have started := (started_sequential group run index sequential).mpr late
      rcases present with (rfl | ofCycle) | rfl | rfl
      · trivial
      · exact cycle_of_group { group := position, index := index } _ effect (cycle effect ofCycle) started
      · trivial
      · trivial

theorem sequential_group_executed (group : Group) (position : Nat) (run : GroupRun) (targets : List Target)
    (sequential : group.parallel = false) :
    GroupExecuted group position run targets (executeGroupSequential group position run targets) := by
  have turn := fun entry : Target × Nat =>
    sequential_target_executed group position run entry.1 entry.2 sequential
  refine ⟨?_, ?_, ?_⟩
  · have rows : ∀ entries : List (Target × Nat), entries ⊆ targets.zipIdx →
        List.Forall₂ (fun entry row => RowOf (executeGroupSequential group position run targets) group run
          { group := position, index := entry.2 } entry.1 row) entries
          (rowsOf (entries.flatMap fun entry => (sequentialTarget group position run entry.1 entry.2).map .worker)) := by
      intro entries
      induction entries with
      | nil => exact fun _ => List.Forall₂.nil
      | cons entry rest ih =>
        intro included
        obtain ⟨row, emitted, rowOf⟩ := (turn entry).1
        rw [List.flatMap_cons, rows_of_append, emitted]
        refine List.Forall₂.cons (row_of_mono _ _ group run _ _ row rowOf ?_) (ih (List.subset_of_cons_subset included))
        intro event member
        exact List.mem_flatMap.mpr ⟨entry, included (List.mem_cons_self ..), member⟩
    exact rows targets.zipIdx (List.Subset.refl _)
  · intro event member
    obtain ⟨entry, _, emitted⟩ := List.mem_flatMap.mp member
    exact (turn entry).2 event emitted
  · intro pid member
    obtain ⟨entry, _, emitted⟩ := List.mem_flatMap.mp member
    obtain ⟨effect, _, same⟩ := List.mem_map.mp emitted
    cases same

theorem fork_all_inv (position : Nat) (run : GroupRun) (targets : List Target) (trace : List TraceEvent) :
    AllInv false trace (forkAll position run targets) := by
  intro slot member
  obtain ⟨⟨target, index⟩, _, rfl⟩ := List.mem_map.mp member
  refine ⟨execute_target_of_cycle _ target _, nofun, nofun, nofun, ?_, nofun, fun _ => rfl, nofun⟩
  intro exited
  have zero : (executeTarget { group := position, index := index } target (run.cycles index)).2 = 0 := by
    by_contra failed
    simp only [forkChild, if_neg failed] at exited
    cases exited
  obtain ⟨command, ran⟩ := execute_target_ran { group := position, index := index } target (run.cycles index) zero
  exact ⟨command, Or.inl ran⟩

theorem fork_all_keys (position : Nat) (run : GroupRun) (targets : List Target) :
    (forkAll position run targets).map Slot.key =
      targets.zipIdx.map fun entry => ({ group := position, index := entry.2 }, entry.1.name, run.forks entry.2) := by
  rw [forkAll, List.map_map]
  rfl

theorem outcome_row_ok (group : Group) (slot : Slot) : (outcomeRow group slot).ok = if slot.outcome = 0 then 0 else 1 := by
  rw [outcomeRow]
  by_cases succeeded : slot.outcome = 0
  · rw [if_pos succeeded, if_pos succeeded]
    rfl
  · rw [if_neg succeeded, if_neg succeeded]
    split <;> rfl

theorem outcome_row_named (group : Group) (slot : Slot) :
    (outcomeRow group slot).phase = "phase1" ∧ (outcomeRow group slot).target = stepTarget group slot.name := by
  rw [outcomeRow]
  split
  · exact ⟨phase1_row_phase _ _ _ _, phase1_row_target _ _ _ _⟩
  split
  · exact ⟨phase1_row_phase _ _ _ _, phase1_row_target _ _ _ _⟩
  · exact ⟨phase1_row_phase _ _ _ _, phase1_row_target _ _ _ _⟩

theorem settled_slot_row (killed : Bool) (trace : List TraceEvent) (group : Group) (run : GroupRun) (target : Target)
    (slot : Slot) (parallel : group.parallel = true) (inv : SlotInv killed trace slot)
    (settled : slot.forked = true → slot.done = true) (name : slot.name = target.name)
    (forked : slot.forked = run.forks slot.id.index) : RowOf trace group run slot.id target (outcomeRow group slot) := by
  have started : TargetStarted group run slot.id.index ↔ slot.forked = true := by
    rw [TargetStarted, if_pos parallel, forked]
  refine ⟨(outcome_row_named group slot).1, ?_, ?_, ?_, ?_⟩
  · rw [(outcome_row_named group slot).2, name]
  · intro begun ok
    have done := settled (started.mp begun)
    have zero : slot.outcome = 0 := by
      by_contra failed
      rw [outcome_row_ok, if_neg failed] at ok
      cases ok
    obtain ⟨command, unrun | ran⟩ := inv.ran (inv.succeeded done zero)
    · rw [inv.endedEmpty (inv.doneEnded done)] at unrun
      cases unrun
    · exact ⟨command, Or.inr ran⟩
  · intro _
    rw [outcome_row_ok]
    split
    · exact Or.inl rfl
    · exact Or.inr rfl
  · intro unstarted
    have unforked : slot.forked = false := Bool.eq_false_iff.mpr fun begun => unstarted (started.mpr begun)
    rw [outcome_row_ok, if_pos (inv.unforked unforked), if_pos parallel]

theorem of_slots_of_group (position : Nat) (run : GroupRun) (targets : List Target) (group : Group) (event : TraceEvent)
    (parallel : group.parallel = true)
    (ofSlots : event.OfSlots ((forkAll position run targets).map Slot.key)) :
    event.OfGroup position (TargetStarted group run) := by
  have own : ∀ pid, (∃ name, (pid, name, true) ∈ (forkAll position run targets).map Slot.key) →
      pid.group = position ∧ TargetStarted group run pid.index := by
    rintro pid ⟨name, member⟩
    rw [fork_all_keys] at member
    obtain ⟨entry, _, same⟩ := List.mem_map.mp member
    simp only [Prod.mk.injEq] at same
    obtain ⟨rfl, _, forked⟩ := same
    refine ⟨rfl, ?_⟩
    rw [TargetStarted, if_pos parallel]
    exact forked
  cases event with
  | worker effect => cases effect <;> trivial
  | child pid effect => exact ⟨(own pid ofSlots.1).1, (own pid ofSlots.1).2, ofSlots.2⟩
  | orphaned pid shell => exact ⟨(own pid ofSlots.1).1, (own pid ofSlots.1).2, ofSlots.2⟩
  | forked pid => exact ofSlots.elim
  | killed pid => exact (own pid ofSlots).1
  | ended pid status => exact (own pid ofSlots).1

theorem of_slots_rowless (keys : List (TargetId × String × Bool)) (event : TraceEvent) (ofSlots : event.OfSlots keys) :
    event.row? = none := by
  cases event with
  | worker effect => cases effect <;> first | rfl | exact ofSlots.elim
  | _ => rfl

theorem fork_trace_cases (group : Group) (slot : Slot) (event : TraceEvent) (member : event ∈ forkTrace group slot) :
    event = .worker (.report group.name slot.name "starting") ∨ slot.forked = true ∧ event = .forked slot.id := by
  rcases List.mem_cons.mp member with report | forked
  · exact Or.inl report
  · by_cases begun : slot.forked = true
    · rw [if_pos begun] at forked
      exact Or.inr ⟨begun, List.mem_singleton.mp forked⟩
    · rw [if_neg begun] at forked
      cases forked

theorem fork_traces_rowless (group : Group) (slots : List Slot) : rowsOf (slots.flatMap (forkTrace group)) = [] := by
  apply rows_of_none
  intro event member
  obtain ⟨slot, _, emitted⟩ := List.mem_flatMap.mp member
  rcases fork_trace_cases group slot event emitted with rfl | ⟨_, rfl⟩ <;> rfl

theorem outcome_rows (group : Group) (slots : List Slot) :
    rowsOf (slots.map fun slot => .worker (.row (outcomeRow group slot))) = slots.map (outcomeRow group) := by
  rw [rowsOf, List.filterMap_map]
  exact List.filterMap_eq_map_iff_forall_eq_some.mpr fun _ _ => rfl

structure Settled (group : Group) (position : Nat) (run : GroupRun) (targets : List Target) (slots : List Slot)
    (trace : List TraceEvent) : Prop where
  key : slots.map Slot.key = (forkAll position run targets).map Slot.key
  done : ∀ slot ∈ slots, slot.forked = true → slot.done = true
  inv : ∃ killed, AllInv killed ((forkAll position run targets).flatMap (forkTrace group) ++ trace) slots
  events : ∀ event ∈ trace, event.OfSlots ((forkAll position run targets).map Slot.key)

theorem wait_loop_settled (group : Group) (position : Nat) (run : GroupRun) (targets : List Target) :
    Settled group position run targets (waitLoop group run run.polls (forkAll position run targets)).1
      (waitLoop group run run.polls (forkAll position run targets)).2 := by
  obtain ⟨killed, moved⟩ := moved_wait_loop group run run.polls (forkAll position run targets)
  have forks := fork_all_inv position run targets ((forkAll position run targets).flatMap (forkTrace group))
  have done := wait_loop_all_done group run run.polls (forkAll position run targets)
  exact ⟨moved.key, done, ⟨killed, moved.inv _ forks⟩, moved.events _ forks⟩

theorem settled_rows (group : Group) (position : Nat) (run : GroupRun) (targets : List Target) (slots : List Slot)
    (trace : List TraceEvent) (parallel : group.parallel = true)
    (settled : Settled group position run targets slots trace) :
    List.Forall₂
      (fun entry slot =>
        RowOf ((forkAll position run targets).flatMap (forkTrace group) ++ trace) group run
          { group := position, index := entry.2 } entry.1 (outcomeRow group slot))
      targets.zipIdx slots := by
  obtain ⟨killed, inv⟩ := settled.inv
  have keys := settled.key.trans (fork_all_keys position run targets)
  rw [← List.forall₂_eq_eq_eq, List.forall₂_map_left_iff, List.forall₂_map_right_iff] at keys
  apply (Aligned.related_member keys).flip.imp
  rintro ⟨target, index⟩ slot ⟨member, key⟩
  have id : slot.id = { group := position, index := index } := congrArg (fun key => key.1) key
  have name : slot.name = target.name := congrArg (fun key => key.2.1) key
  have forked : slot.forked = run.forks index := congrArg (fun key => key.2.2) key
  have row := settled_slot_row killed _ group run target slot parallel (inv slot member) (settled.done slot member) name
    (by rw [id]; exact forked)
  rw [id] at row
  exact row

theorem settled_ended (group : Group) (position : Nat) (run : GroupRun) (targets : List Target) (slots : List Slot)
    (trace : List TraceEvent) (settled : Settled group position run targets slots trace) (slot : Slot)
    (present : slot ∈ forkAll position run targets) (forked : slot.forked = true) :
    ∃ status, .ended slot.id status ∈ (forkAll position run targets).flatMap (forkTrace group) ++ trace := by
  obtain ⟨killed, inv⟩ := settled.inv
  have key : slot.key ∈ slots.map Slot.key := by
    rw [settled.key]
    exact List.mem_map_of_mem present
  obtain ⟨last, finished, sameKey⟩ := List.mem_map.mp key
  have sameId : last.id = slot.id := congrArg (fun key => key.1) sameKey
  have lastForked : last.forked = true := (congrArg (fun key => key.2.2) sameKey).trans forked
  have done := settled.done last finished lastForked
  rw [← sameId]
  exact (inv last finished).endedSeen ((inv last finished).doneEnded done)

theorem parallel_rows (group : Group) (position : Nat) (run : GroupRun) (targets : List Target) :
    rowsOf (executeGroupParallel group position run targets) =
      (waitLoop group run run.polls (forkAll position run targets)).1.map (outcomeRow group) := by
  have settled := wait_loop_settled group position run targets
  have silent := rows_of_none _ fun event member => of_slots_rowless _ event (settled.events event member)
  rw [executeGroupParallel, rows_of_append, rows_of_append, fork_traces_rowless, silent, outcome_rows, List.nil_append,
    List.nil_append]

theorem parallel_group_executed (group : Group) (position : Nat) (run : GroupRun) (targets : List Target)
    (parallel : group.parallel = true) :
    GroupExecuted group position run targets (executeGroupParallel group position run targets) := by
  have settled := wait_loop_settled group position run targets
  have rows := parallel_rows group position run targets
  simp only [executeGroupParallel] at rows ⊢
  generalize waitLoop group run run.polls (forkAll position run targets) = waited at settled rows ⊢
  refine ⟨?_, ?_, ?_⟩
  · rw [rows, List.forall₂_map_right_iff]
    apply (settled_rows group position run targets waited.1 waited.2 parallel settled).imp
    intro entry slot row
    exact row_of_mono _ _ group run _ entry.1 _ row (List.subset_append_left _ _)
  · intro event member
    rcases List.mem_append.mp member with early | row
    · rcases List.mem_append.mp early with fork | wait
      · obtain ⟨slot, present, emitted⟩ := List.mem_flatMap.mp fork
        rcases fork_trace_cases group slot event emitted with rfl | ⟨_, rfl⟩
        · trivial
        · obtain ⟨entry, _, rfl⟩ := List.mem_map.mp present
          rfl
      · exact of_slots_of_group position run targets group event parallel (settled.events event wait)
    · obtain ⟨slot, _, rfl⟩ := List.mem_map.mp row
      trivial
  · intro pid member
    rcases List.mem_append.mp member with early | row
    · rcases List.mem_append.mp early with fork | wait
      · obtain ⟨slot, present, emitted⟩ := List.mem_flatMap.mp fork
        rcases fork_trace_cases group slot _ emitted with report | ⟨forked, same⟩
        · cases report
        · cases same
          obtain ⟨status, ended⟩ := settled_ended group position run targets waited.1 waited.2 settled slot present forked
          exact ⟨status, List.mem_append_left _ ended⟩
      · exact (settled.events _ wait).elim
    · obtain ⟨slot, _, same⟩ := List.mem_map.mp row
      cases same

end AiriesUps.Shutdown
