import AiriesUps.Shutdown.GroupRows

set_option autoImplicit false

namespace AiriesUps.Shutdown

-- No shell was left running by a child that a signal ended.
def Orphanless (trace : List TraceEvent) : Prop := ∀ pid shell, TraceEvent.orphaned pid shell ∉ trace

-- A signal that ends the child now finds it outside run_shell, or in one whose
-- shell is over before phase 1 is.
def CleanSignal (run : GroupRun) (slot : Slot) : Prop :=
  slot.forked = true → slot.ended = false → strandedShell run slot = none

def CleanMove (run : GroupRun) (slot : Slot) : Move → Prop
  | .step _ => True
  | .signal _ => CleanSignal run slot

def CleanSchedule (run : GroupRun) : List Slot → List Move → Prop
  | _, [] => True
  | slots, move :: rest =>
    match slots[move.index]? with
    | none => CleanSchedule run slots rest
    | some slot => CleanMove run slot move ∧ CleanSchedule run (slots.set move.index (moveChild run move slot).1) rest

def CleanKill (run : GroupRun) (slot : Slot) : Prop :=
  slot.done = false → run.sigtermKills = true → CleanSignal run slot

def CleanLoop (group : Group) (run : GroupRun) : List Poll → List Slot → Prop
  | [], _ => True
  | poll :: rest, slots =>
    let moved := runSchedule run slots poll.schedule
    let waited := each (waitChild group poll.waitFails) moved.1
    CleanSchedule run slots poll.schedule ∧
      if allDone waited.1 then True
      else if pastCeiling group run.start poll.now then
        (∀ slot ∈ waited.1, CleanKill run slot) ∧ CleanSchedule run (each (killStraggler group run) waited.1).1 run.reap
      else CleanLoop group run rest waited.1

def GroupClean (group : Group) (position : Nat) (run : GroupRun) (targets : List Target) : Prop :=
  group.parallel = true → CleanLoop group run run.polls (forkAll position run targets)

@[simp] theorem orphanless_nil : Orphanless [] := fun _ _ => List.not_mem_nil

@[simp] theorem orphanless_append (before after : List TraceEvent) :
    Orphanless (before ++ after) ↔ Orphanless before ∧ Orphanless after := by
  simp only [Orphanless, List.mem_append, not_or, forall_and]

@[simp] theorem orphanless_worker (effects : List Effect) : Orphanless (effects.map .worker) := by
  intro pid shell member
  obtain ⟨effect, _, same⟩ := List.mem_map.mp member
  cases same

theorem orphanless_each (body : Slot → Slot × List TraceEvent) (slots : List Slot) :
    Orphanless (each body slots).2 ↔ ∀ slot ∈ slots, Orphanless (body slot).2 := by
  simp only [each, Orphanless, List.mem_flatMap, not_exists, not_and]
  constructor
  · exact fun none slot present pid shell => none pid shell slot present
  · exact fun none pid shell slot present => none slot present pid shell

theorem undisturbed_orphanless (trace : List TraceEvent) (undisturbed : ∀ event ∈ trace, event.Undisturbed) :
    Orphanless trace :=
  fun _ _ member => undisturbed _ member

theorem orphanless_signal_child (run : GroupRun) (slot : Slot) :
    Orphanless (signalChild run slot).2 ↔ CleanSignal run slot := by
  rcases signal_child_cases run slot with ⟨idle, settled⟩ | ⟨forked, running, hit⟩
  · rw [idle]
    refine ⟨fun _ begun alive => ?_, fun _ => orphanless_nil⟩
    exact absurd ((settled begun).symm.trans alive) nofun
  · rw [hit]
    cases stranded : strandedShell run slot with
    | none => simp [Orphanless, CleanSignal, stranded]
    | some shell => simp [Orphanless, CleanSignal, stranded, forked, running]

theorem orphanless_move_child (run : GroupRun) (move : Move) (slot : Slot) :
    Orphanless (moveChild run move slot).2 ↔ CleanMove run slot move := by
  cases move with
  | step _ => exact iff_of_true (undisturbed_orphanless _ (child_step_undisturbed slot)) trivial
  | signal _ => exact orphanless_signal_child run slot

theorem orphanless_kill_straggler (group : Group) (run : GroupRun) (slot : Slot) :
    Orphanless (killStraggler group run slot).2 ↔ CleanKill run slot := by
  rw [killStraggler]
  by_cases skipped : (slot.done || !slot.forked) = true
  · rw [if_pos skipped]
    refine iff_of_true orphanless_nil fun waiting _ forked _ => ?_
    simp [waiting, forked] at skipped
  · have running : slot.done = false ∧ slot.forked = true := by simpa using skipped
    rw [if_neg skipped]
    by_cases kills : run.sigtermKills = true
    · simp only [kills, if_true, List.cons_append]
      have both : Orphanless (.killed slot.id :: ((signalChild run slot).2 ++
          [.worker (.report group.name slot.name "killed (timeout)")])) ↔ Orphanless (signalChild run slot).2 := by
        simp [Orphanless]
      rw [both, orphanless_signal_child]
      exact ⟨fun clean _ _ => clean, fun clean => clean running.1 kills⟩
    · simp [kills, Orphanless, CleanKill]

theorem orphanless_schedule (run : GroupRun) (slots : List Slot) (schedule : List Move) :
    Orphanless (runSchedule run slots schedule).2 ↔ CleanSchedule run slots schedule := by
  induction schedule generalizing slots with
  | nil => exact iff_of_true orphanless_nil trivial
  | cons move rest ih =>
    rw [runSchedule, CleanSchedule]
    cases found : slots[move.index]? with
    | none => exact ih slots
    | some slot => simp only [orphanless_append, orphanless_move_child, ih]

theorem orphanless_wait_loop (group : Group) (run : GroupRun) (polls : List Poll) (slots : List Slot) :
    Orphanless (waitLoop group run polls slots).2 ↔ CleanLoop group run polls slots := by
  induction polls generalizing slots with
  | nil =>
    refine iff_of_true ?_ trivial
    have drained : ∀ slot, Orphanless (drain slot).2 := fun slot => undisturbed_orphanless _ (drain_undisturbed slot)
    have waited : ∀ slot, Orphanless (waitChild group [] slot).2 := fun slot =>
      undisturbed_orphanless _ (wait_child_undisturbed group [] slot)
    simp only [waitLoop, orphanless_append, orphanless_each, drained, waited, implies_true, and_self]
  | cons poll rest ih =>
    have scanned : ∀ scan, Orphanless (each (waitChild group poll.waitFails) scan).2 := fun scan =>
      (orphanless_each _ scan).mpr fun slot _ =>
        undisturbed_orphanless _ (wait_child_undisturbed group poll.waitFails slot)
    simp only [waitLoop, CleanLoop]
    split
    · simp only [orphanless_append, orphanless_schedule, scanned, and_true]
    split
    · have reaped : ∀ scan, Orphanless (each reapStraggler scan).2 := fun scan =>
        (orphanless_each _ scan).mpr fun slot _ => undisturbed_orphanless _ (reap_straggler_undisturbed slot)
      simp only [orphanless_append, orphanless_schedule, orphanless_each, orphanless_kill_straggler, reaped, scanned,
        and_true, and_assoc]
    · have slept : Orphanless [.worker (.sleep 1)] := orphanless_worker [.sleep 1]
      simp only [orphanless_append, orphanless_schedule, scanned, slept, ih, and_true]

theorem orphanless_sequential (group : Group) (position : Nat) (run : GroupRun) (targets : List Target) :
    Orphanless (executeGroupSequential group position run targets) := by
  intro pid shell member
  obtain ⟨entry, _, emitted⟩ := List.mem_flatMap.mp member
  exact orphanless_worker _ pid shell emitted

theorem orphanless_parallel (group : Group) (position : Nat) (run : GroupRun) (targets : List Target) :
    Orphanless (executeGroupParallel group position run targets) ↔
      CleanLoop group run run.polls (forkAll position run targets) := by
  have forks : Orphanless ((forkAll position run targets).flatMap (forkTrace group)) := by
    intro pid shell member
    obtain ⟨slot, _, emitted⟩ := List.mem_flatMap.mp member
    rcases fork_trace_cases group slot _ emitted with same | ⟨_, same⟩ <;> cases same
  have rows : ∀ slots : List Slot, Orphanless (slots.map fun slot => .worker (.row (outcomeRow group slot))) := by
    intro slots pid shell member
    obtain ⟨slot, _, same⟩ := List.mem_map.mp member
    cases same
  simp only [executeGroupParallel, orphanless_append, forks, rows, orphanless_wait_loop, true_and, and_true]

end AiriesUps.Shutdown
