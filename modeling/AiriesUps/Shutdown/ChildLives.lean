import AiriesUps.Lib.Sequences
import AiriesUps.Shutdown.Ceiling
import AiriesUps.Shutdown.WorkflowOrder

set_option autoImplicit false

namespace AiriesUps.Shutdown

open Ups (Config)

-- What is seen of one child: its start, what it does, and its end.
inductive Deed where
  | born
  | did (effect : Effect)
  | ended (status : ExitStatus)
deriving DecidableEq, Repr

def TraceEvent.deedOf (pid : TargetId) : TraceEvent → Option Deed
  | .forked owner => if owner = pid then some .born else none
  | .child owner effect => if owner = pid then some (.did effect) else none
  | .ended owner status => if owner = pid then some (.ended status) else none
  | .worker _ | .killed _ | .orphaned _ _ => none

def deeds (pid : TargetId) (trace : List TraceEvent) : List Deed := trace.filterMap (TraceEvent.deedOf pid)

def exitOf (executed : List Effect × Int) : ExitStatus := .exited (if executed.2 = 0 then 0 else 1)

-- The life of a child that has ended: it ran its cycle from the start, to the end
-- or to the signal that cut it off, and nothing is seen of it afterwards.
def Life (executed : List Effect × Int) (life : List Deed) : Prop :=
  ∃ done rest status, executed.1 = done ++ rest ∧ life = .born :: done.map .did ++ [.ended status] ∧
    (status = .signalled ∨ (status = exitOf executed ∧ rest = []))

-- The child of one target of a workflow, if there is one, by what it is to execute.
def forkedChild (dryRun : Bool) (env : Environment) {tables : Tables} (answers : Answers tables) (pid : TargetId) :
    Option (List Effect × Int) :=
  if dryRun then none
  else
    answers.groups[pid.group]?.bind fun group =>
      if group.parallel then
        (answers.targets group.id)[pid.index]?.bind fun target =>
          if (env.runs pid.group).forks pid.index then
            some (executeTarget pid target ((env.runs pid.group).cycles pid.index))
          else none
      else none

@[simp] theorem deeds_nil (pid : TargetId) : deeds pid [] = [] := rfl

@[simp] theorem deeds_append (pid : TargetId) (before after : List TraceEvent) :
    deeds pid (before ++ after) = deeds pid before ++ deeds pid after :=
  List.filterMap_append

theorem deeds_silent (pid : TargetId) (trace : List TraceEvent) (silent : ∀ event ∈ trace, event.deedOf pid = none) :
    deeds pid trace = [] :=
  List.filterMap_eq_nil_iff.mpr silent

@[simp] theorem deeds_worker (pid : TargetId) (effects : List Effect) : deeds pid (effects.map .worker) = [] :=
  deeds_silent pid _ fun event member => by
    obtain ⟨effect, _, rfl⟩ := List.mem_map.mp member
    rfl

theorem deeds_flat_map {Item : Type} (pid : TargetId) (items : List Item) (emit : Item → List TraceEvent) :
    deeds pid (items.flatMap emit) = items.flatMap fun item => deeds pid (emit item) := by
  rw [deeds, List.filterMap_flatMap]
  rfl

theorem deeds_cycle (pid : TargetId) (effects : List Effect) :
    deeds pid (effects.map (.child pid)) = effects.map .did := by
  rw [deeds, List.filterMap_map]
  exact List.filterMap_eq_map_iff_forall_eq_some.mpr fun _ _ => if_pos rfl

theorem deeds_effect (pid owner : TargetId) (effect : Effect) :
    deeds pid [.child owner effect] = if owner = pid then [.did effect] else [] := by
  by_cases own : owner = pid <;> simp [deeds, TraceEvent.deedOf, own]

theorem deeds_end (pid owner : TargetId) (status : ExitStatus) :
    deeds pid [.ended owner status] = if owner = pid then [.ended status] else [] := by
  by_cases own : owner = pid <;> simp [deeds, TraceEvent.deedOf, own]

-- Where a child stands, given the cycle and the exit status it started with.
structure Lived (cycle : List Effect) (exit : ExitStatus) (slot : Slot) (life : List Deed) : Prop where
  unforked : slot.forked = false → life = []
  living : slot.forked = true → slot.ended = false →
    slot.status = exit ∧ ∃ done, cycle = done ++ slot.remaining ∧ life = .born :: done.map .did
  finished : slot.forked = true → slot.ended = true →
    ∃ done rest status, cycle = done ++ rest ∧ life = .born :: done.map .did ++ [.ended status] ∧
      (status = .signalled ∨ (status = exit ∧ rest = []))

-- One body of the loops over the children: it does nothing in another child's name,
-- and takes its own child's life further.
structure LivesOn (body : Slot → Slot × List TraceEvent) : Prop where
  key : ∀ slot, (body slot).1.key = slot.key
  others : ∀ slot pid, pid ≠ slot.id → deeds pid (body slot).2 = []
  own : ∀ cycle exit slot life, Lived cycle exit slot life →
    Lived cycle exit (body slot).1 (life ++ deeds slot.id (body slot).2)

theorem lived_idle (cycle : List Effect) (exit : ExitStatus) (slot : Slot) (life : List Deed)
    (lived : Lived cycle exit slot life) : Lived cycle exit slot (life ++ []) := by
  rwa [List.append_nil]

theorem lived_silent (cycle : List Effect) (exit : ExitStatus) (slot next : Slot) (life : List Deed)
    (lived : Lived cycle exit slot life) (forked : next.forked = slot.forked) (ended : next.ended = slot.ended)
    (status : next.status = slot.status) (remaining : next.remaining = slot.remaining) :
    Lived cycle exit next life := by
  refine ⟨?_, ?_, ?_⟩
  · rw [forked]
    exact lived.unforked
  · rw [forked, ended, status, remaining]
    exact lived.living
  · rw [forked, ended]
    exact lived.finished

theorem lives_on_child_step : LivesOn childStep := by
  refine ⟨(keeps_child_step false).key, ?_, ?_⟩
  · intro slot pid other
    rcases child_step_cases slot with idle | ⟨_, _, _, last⟩ | ⟨_, _, _, _, _, next⟩
    · rw [idle, deeds_nil]
    · rw [last, deeds_end, if_neg other.symm]
    · rw [next, deeds_effect, if_neg other.symm]
  · intro cycle exit slot life lived
    rcases child_step_cases slot with idle | ⟨forked, alive, steps, last⟩ | ⟨forked, alive, effect, rest, steps, next⟩
    · rw [idle]
      exact lived_idle cycle exit slot life lived
    · obtain ⟨status, done, ran, past⟩ := lived.living forked alive
      rw [last, deeds_end, if_pos rfl]
      refine ⟨fun unforked => absurd (forked.symm.trans unforked) nofun, fun _ wrong => absurd wrong nofun, fun _ _ => ?_⟩
      exact ⟨done, [], exit, by rw [ran, steps], by rw [past, status], Or.inr ⟨rfl, rfl⟩⟩
    · obtain ⟨status, done, ran, past⟩ := lived.living forked alive
      rw [next, deeds_effect, if_pos rfl]
      refine ⟨fun unforked => absurd (forked.symm.trans unforked) nofun, fun _ _ => ⟨status, done ++ [effect], ?_, ?_⟩,
        fun _ ended => absurd (alive.symm.trans ended) nofun⟩
      · rw [ran, steps, List.append_assoc, List.singleton_append]
      · rw [past, List.map_append, List.map_singleton, List.cons_append]

theorem lives_on_signal_child (run : GroupRun) : LivesOn (signalChild run) := by
  have stranded : ∀ slot pid, deeds pid ((strandedShell run slot).map (TraceEvent.orphaned slot.id)).toList = [] := by
    intro slot pid
    cases strandedShell run slot <;> rfl
  refine ⟨(keeps_signal_child false run).key, ?_, ?_⟩
  · intro slot pid other
    rcases signal_child_cases run slot with ⟨idle, _⟩ | ⟨_, _, hit⟩
    · rw [idle, deeds_nil]
    · rw [hit, deeds_append, stranded, deeds_end, if_neg other.symm, List.append_nil]
  · intro cycle exit slot life lived
    rcases signal_child_cases run slot with ⟨idle, _⟩ | ⟨forked, alive, hit⟩
    · rw [idle]
      exact lived_idle cycle exit slot life lived
    · obtain ⟨_, done, ran, past⟩ := lived.living forked alive
      rw [hit, deeds_append, stranded, deeds_end, if_pos rfl, List.nil_append]
      refine ⟨fun unforked => absurd (forked.symm.trans unforked) nofun, fun _ wrong => absurd wrong nofun, fun _ _ => ?_⟩
      exact ⟨done, slot.remaining, .signalled, ran, by rw [past], Or.inl rfl⟩

theorem lives_on_move_child (run : GroupRun) (move : Move) : LivesOn (moveChild run move) := by
  cases move with
  | step index => exact lives_on_child_step
  | signal index => exact lives_on_signal_child run

theorem lives_on_drain : LivesOn drain := by
  refine ⟨(keeps_drain false).key, ?_, ?_⟩
  · intro slot pid other
    rcases drain_cases slot with ⟨idle, _⟩ | ⟨_, _, ran⟩
    · rw [idle, deeds_nil]
    · rw [ran]
      refine deeds_silent pid _ fun event member => ?_
      rcases List.mem_append.mp member with step | last
      · obtain ⟨effect, _, rfl⟩ := List.mem_map.mp step
        exact if_neg other.symm
      · rw [List.mem_singleton.mp last]
        exact if_neg other.symm
  · intro cycle exit slot life lived
    rcases drain_cases slot with ⟨idle, _⟩ | ⟨forked, alive, drained⟩
    · rw [idle]
      exact lived_idle cycle exit slot life lived
    · obtain ⟨status, done, ran, past⟩ := lived.living forked alive
      rw [drained, deeds_append, deeds_cycle, deeds_end, if_pos rfl, status]
      refine ⟨fun unforked => absurd (forked.symm.trans unforked) nofun, fun _ wrong => absurd wrong nofun, fun _ _ => ?_⟩
      refine ⟨cycle, [], exit, (List.append_nil _).symm, ?_, Or.inr ⟨rfl, rfl⟩⟩
      rw [past, ran, List.map_append, List.cons_append, List.cons_append, List.append_assoc]

theorem lives_on_wait_child (group : Group) (waitFails : List Nat) : LivesOn (waitChild group waitFails) := by
  refine ⟨(keeps_wait_child group waitFails).key, ?_, ?_⟩
  · intro slot pid _
    rcases wait_child_cases group waitFails slot with idle | ⟨_, _, _, waited⟩
    · rw [idle, deeds_nil]
    · rw [waited]
      rfl
  · intro cycle exit slot life lived
    rcases wait_child_cases group waitFails slot with idle | ⟨_, _, _, waited⟩
    · rw [idle]
      exact lived_idle cycle exit slot life lived
    · rw [waited]
      exact lived_idle cycle exit _ life (lived_silent cycle exit slot _ life lived rfl rfl rfl rfl)

theorem deeds_killed (group : Group) (slot : Slot) (pid : TargetId) (hit : List TraceEvent) :
    deeds pid (.killed slot.id :: hit ++ [.worker (.report group.name slot.name "killed (timeout)")]) = deeds pid hit := by
  rw [deeds_append]
  exact List.append_nil _

theorem lives_on_kill_straggler (group : Group) (run : GroupRun) : LivesOn (killStraggler group run) := by
  have signalled := lives_on_signal_child run
  refine ⟨(keeps_kill_straggler group run).key, ?_, ?_⟩
  · intro slot pid other
    rcases kill_straggler_cases group run slot with ⟨idle, _⟩ | ⟨_, _, hit, rfl | rfl, killed⟩
    · rw [idle, deeds_nil]
    · rw [killed, deeds_killed]
      exact signalled.others slot pid other
    · rw [killed, deeds_killed, deeds_nil]
  · intro cycle exit slot life lived
    rcases kill_straggler_cases group run slot with ⟨idle, _⟩ | ⟨_, _, hit, rfl | rfl, killed⟩
    · rw [idle]
      exact lived_idle cycle exit slot life lived
    · rw [killed, deeds_killed]
      exact lived_silent cycle exit _ _ _ (signalled.own cycle exit slot life lived) rfl rfl rfl rfl
    · rw [killed, deeds_killed]
      exact lived_idle cycle exit _ life (lived_silent cycle exit slot _ life lived rfl rfl rfl rfl)

theorem lives_on_reap_straggler : LivesOn reapStraggler := by
  refine ⟨keeps_reap_straggler.key, ?_, ?_⟩
  · intro slot pid other
    rcases reap_straggler_cases slot with ⟨idle, _⟩ | ⟨_, _, reaped⟩
    · rw [idle, deeds_nil]
    · rw [reaped]
      exact lives_on_drain.others slot pid other
  · intro cycle exit slot life lived
    rcases reap_straggler_cases slot with ⟨idle, _⟩ | ⟨_, _, reaped⟩
    · rw [idle]
      exact lived_idle cycle exit slot life lived
    · rw [reaped]
      exact lived_silent cycle exit _ _ _ (lives_on_drain.own cycle exit slot life lived) rfl rfl rfl rfl

-- The lives of all children, each with the cycle it was forked to run.
def Lives (forked : TargetId → List Effect × Int) (slots : List Slot) (trace : List TraceEvent) : Prop :=
  ∀ slot ∈ slots, Lived (forked slot.id).1 (exitOf (forked slot.id)) slot (deeds slot.id trace)

-- One piece of the execution: the lives of the children, and of no others, go on.
structure Survives (slots : List Slot) (result : List Slot × List TraceEvent) : Prop where
  key : result.1.map Slot.key = slots.map Slot.key
  others : ∀ pid, pid ∉ slots.map Slot.id → deeds pid result.2 = []
  own : ∀ forked trace, Lives forked slots trace → Lives forked result.1 (trace ++ result.2)

theorem same_ids (slots later : List Slot) (key : later.map Slot.key = slots.map Slot.key) :
    later.map Slot.id = slots.map Slot.id := by
  rw [ids_of_keys, key, ← ids_of_keys]

theorem survives_trans (slots : List Slot) (first second : List Slot × List TraceEvent) (one : Survives slots first)
    (two : Survives first.1 second) : Survives slots (second.1, first.2 ++ second.2) := by
  refine ⟨two.key.trans one.key, ?_, ?_⟩
  · intro pid absent
    rw [deeds_append, one.others pid absent, two.others pid (by rwa [same_ids slots first.1 one.key])]
    rfl
  · intro forked trace lives
    have later := two.own forked _ (one.own forked trace lives)
    rwa [List.append_assoc] at later

theorem survives_nothing (slots : List Slot) (trace : List TraceEvent) (silent : ∀ pid, deeds pid trace = []) :
    Survives slots (slots, trace) := by
  refine ⟨rfl, fun pid _ => silent pid, ?_⟩
  intro forked before lives slot member
  rw [deeds_append, silent, List.append_nil]
  exact lives slot member

theorem survives_each (body : Slot → Slot × List TraceEvent) (on : LivesOn body) (slots : List Slot)
    (distinct : (slots.map Slot.id).Nodup) : Survives slots (each body slots) := by
  have emitted : ∀ pid, deeds pid (each body slots).2 = slots.flatMap fun slot => deeds pid (body slot).2 :=
    fun pid => deeds_flat_map pid slots fun slot => (body slot).2
  refine ⟨?_, ?_, ?_⟩
  · rw [each, List.map_map]
    exact List.map_congr_left fun slot _ => on.key slot
  · intro pid absent
    rw [emitted]
    refine List.flatMap_eq_nil_iff.mpr fun slot present => on.others slot pid fun same => absent ?_
    rw [same]
    exact List.mem_map_of_mem present
  · intro forked trace lives slot member
    obtain ⟨original, present, rfl⟩ := List.mem_map.mp member
    have sameId : (body original).1.id = original.id := congrArg Prod.fst (on.key original)
    have alone := Sequences.flat_map_only slots (fun slot => deeds original.id (body slot).2) original
      (List.Nodup.of_map Slot.id distinct) present fun other inside apart => on.others other original.id fun same =>
        apart (List.inj_on_of_nodup_map distinct inside present same.symm)
    rw [sameId, deeds_append, emitted, alone]
    exact on.own _ _ original _ (lives original present)

theorem survives_one (body : Slot → Slot × List TraceEvent) (on : LivesOn body) (slots : List Slot)
    (distinct : (slots.map Slot.id).Nodup) (index : Nat) (slot : Slot) (found : slots[index]? = some slot) :
    Survives slots (slots.set index (body slot).1, (body slot).2) := by
  have present : slot ∈ slots := List.mem_of_getElem? found
  refine ⟨?_, ?_, ?_⟩
  · rw [List.map_set, on.key slot]
    exact Tables.set_found (slots.map Slot.key) index slot.key (by rw [List.getElem?_map, found]; rfl)
  · intro pid absent
    exact on.others slot pid fun same => absent (same ▸ List.mem_map_of_mem present)
  · intro forked trace lives moved member
    obtain ⟨position, there⟩ := List.mem_iff_getElem?.mp member
    rw [deeds_append]
    by_cases here : index = position
    · subst here
      have same : (body slot).1 = moved := by
        rw [List.getElem?_set_self (List.getElem?_eq_some_iff.mp found).1] at there
        exact Option.some.inj there
      have sameId : moved.id = slot.id := same ▸ congrArg Prod.fst (on.key slot)
      rw [sameId, ← same]
      exact on.own _ _ slot _ (lives slot present)
    · rw [List.getElem?_set_ne here] at there
      have old : moved ∈ slots := List.mem_of_getElem? there
      have apart : moved.id ≠ slot.id := by
        intro same
        have bounds := (List.getElem?_eq_some_iff.mp found).1
        have twice : (slots.map Slot.id)[index]? = (slots.map Slot.id)[position]? := by
          rw [List.getElem?_map, List.getElem?_map, found, there, Option.map_some, Option.map_some, same]
        exact here ((List.getElem?_inj (by rwa [List.length_map]) distinct).mp twice)
      rw [on.others slot moved.id apart, List.append_nil]
      exact lives moved old

theorem survives_schedule (run : GroupRun) (schedule : List Move) (slots : List Slot)
    (distinct : (slots.map Slot.id).Nodup) : Survives slots (runSchedule run slots schedule) := by
  induction schedule generalizing slots with
  | nil => exact survives_nothing slots [] fun _ => rfl
  | cons move rest ih =>
    simp only [runSchedule]
    cases found : slots[move.index]? with
    | none => exact ih slots distinct
    | some slot =>
      have moved := survives_one (moveChild run move) (lives_on_move_child run move) slots distinct move.index slot found
      exact survives_trans slots _ _ moved (ih _ (by rw [same_ids slots _ moved.key]; exact distinct))

theorem survives_turn (group : Group) (run : GroupRun) (poll : Poll) (slots : List Slot)
    (distinct : (slots.map Slot.id).Nodup) :
    Survives slots ((each (waitChild group poll.waitFails) (runSchedule run slots poll.schedule).1).1,
      (runSchedule run slots poll.schedule).2 ++ (each (waitChild group poll.waitFails) (runSchedule run slots poll.schedule).1).2) := by
  have moved := survives_schedule run poll.schedule slots distinct
  exact survives_trans slots _ _ moved
    (survives_each _ (lives_on_wait_child group poll.waitFails) _ (by rwa [same_ids slots _ moved.key]))

theorem survives_wait_loop (group : Group) (run : GroupRun) (polls : List Poll) (slots : List Slot)
    (distinct : (slots.map Slot.id).Nodup) : Survives slots (waitLoop group run polls slots) := by
  induction polls generalizing slots with
  | nil =>
    have drained := survives_each drain lives_on_drain slots distinct
    exact survives_trans slots _ _ drained
      (survives_each _ (lives_on_wait_child group []) _ (by rwa [same_ids slots _ drained.key]))
  | cons poll rest ih =>
    have turn := survives_turn group run poll slots distinct
    have distinctNow := (same_ids slots _ turn.key).symm ▸ distinct
    simp only [waitLoop]
    split
    · exact turn
    split
    · have killed := survives_trans slots _ _ turn
        (survives_each _ (lives_on_kill_straggler group run) _ distinctNow)
      have running := survives_trans slots _ _ killed
        (survives_schedule run run.reap _ ((same_ids slots _ killed.key).symm ▸ distinct))
      exact survives_trans slots _ _ running
        (survives_each _ lives_on_reap_straggler _ ((same_ids slots _ running.key).symm ▸ distinct))
    · have slept := survives_trans slots _ _ turn (survives_nothing _ [.worker (.sleep 1)] fun _ => rfl)
      exact survives_trans slots _ _ slept (ih _ distinctNow)

theorem fork_all_member (position : Nat) (run : GroupRun) (targets : List Target) (slot : Slot) :
    slot ∈ forkAll position run targets ↔ ∃ index target, targets[index]? = some target ∧
      slot = forkChild position run target index := by
  simp only [forkAll, List.mem_map, Prod.exists, List.mem_zipIdx_iff_getElem?]
  constructor
  · rintro ⟨target, index, listed, rfl⟩
    exact ⟨index, target, listed, rfl⟩
  · rintro ⟨index, target, listed, rfl⟩
    exact ⟨target, index, listed, rfl⟩

theorem deeds_fork_trace (group : Group) (slot : Slot) (pid : TargetId) :
    deeds pid (forkTrace group slot) = if slot.id = pid ∧ slot.forked = true then [.born] else [] := by
  by_cases own : slot.id = pid <;> by_cases forked : slot.forked = true <;>
    simp [forkTrace, deeds, List.filterMap_cons, TraceEvent.deedOf, own, forked]

def childOf (run : GroupRun) (targets : List Target) (pid : TargetId) : List Effect × Int :=
  match targets[pid.index]? with
  | some target => executeTarget pid target (run.cycles pid.index)
  | none => ([], 0)

theorem lives_forked (group : Group) (position : Nat) (run : GroupRun) (targets : List Target) :
    Lives (childOf run targets) (forkAll position run targets)
      ((forkAll position run targets).flatMap (forkTrace group)) := by
  have distinct := (fork_all_looped position run targets).distinct
  intro slot member
  have alone := Sequences.flat_map_only _ (fun other => deeds slot.id (forkTrace group other)) slot
    (List.Nodup.of_map Slot.id distinct) member fun other inside apart => by
      rw [deeds_fork_trace]
      exact if_neg fun own => apart (List.inj_on_of_nodup_map distinct inside member own.1)
  obtain ⟨index, target, listed, rfl⟩ := (fork_all_member position run targets slot).mp member
  have cycle : childOf run targets { group := position, index := index } =
      executeTarget { group := position, index := index } target (run.cycles index) := by
    rw [childOf, listed]
  rw [deeds_flat_map, alone, deeds_fork_trace]
  refine ⟨?_, ?_, fun _ => nofun⟩
  · intro unforked
    exact if_neg fun own => by rw [unforked] at own; exact absurd own.2 nofun
  · intro forked _
    refine ⟨congrArg exitOf cycle.symm, [], congrArg Prod.fst cycle, if_pos ⟨rfl, forked⟩⟩

-- What a parallel group leaves of a child: its whole life, if the fork succeeded.
theorem parallel_life (group : Group) (position : Nat) (run : GroupRun) (targets : List Target) (index : Nat)
    (target : Target) (listed : targets[index]? = some target) :
    let pid : TargetId := { group := position, index := index }
    if run.forks index then
      Life (executeTarget pid target (run.cycles index)) (deeds pid (executeGroupParallel group position run targets))
    else deeds pid (executeGroupParallel group position run targets) = [] := by
  intro pid
  have distinct := (fork_all_looped position run targets).distinct
  have settled := wait_loop_settled group position run targets
  obtain ⟨killed, inv⟩ := settled.inv
  have survived := survives_wait_loop group run run.polls _ distinct
  have lives := survived.own (childOf run targets) _ (lives_forked group position run targets)
  have born : forkChild position run target index ∈ forkAll position run targets :=
    (fork_all_member position run targets _).mpr ⟨index, target, listed, rfl⟩
  have key : (forkChild position run target index).key ∈
      (waitLoop group run run.polls (forkAll position run targets)).1.map Slot.key := by
    rw [survived.key]
    exact List.mem_map_of_mem born
  obtain ⟨slot, last, same⟩ := List.mem_map.mp key
  have sameId : slot.id = pid := congrArg Prod.fst same
  have sameFork : slot.forked = run.forks index := congrArg (fun key => key.2.2) same
  have whole : deeds pid (executeGroupParallel group position run targets) =
      deeds pid ((forkAll position run targets).flatMap (forkTrace group) ++
        (waitLoop group run run.polls (forkAll position run targets)).2) := by
    rw [executeGroupParallel, deeds_append, deeds_silent pid (List.map _ _), List.append_nil]
    intro event member
    obtain ⟨_, _, rfl⟩ := List.mem_map.mp member
    rfl
  have cycle : childOf run targets pid = executeTarget pid target (run.cycles index) := by
    rw [childOf, listed]
  have lived := lives slot last
  rw [sameId, cycle] at lived
  rw [whole]
  by_cases forked : run.forks index = true
  · rw [if_pos forked]
    have alive := sameFork.trans forked
    exact lived.finished alive ((inv slot last).doneEnded (settled.done slot last alive))
  · rw [if_neg forked]
    exact lived.unforked (sameFork.trans (Bool.eq_false_iff.mpr forked))

theorem parallel_lifeless (group : Group) (position : Nat) (run : GroupRun) (targets : List Target) (pid : TargetId)
    (absent : pid.group = position → targets[pid.index]? = none) :
    deeds pid (executeGroupParallel group position run targets) = [] := by
  have distinct := (fork_all_looped position run targets).distinct
  have survived := survives_wait_loop group run run.polls _ distinct
  have outside : ∀ slot ∈ forkAll position run targets, slot.id ≠ pid := by
    intro slot member own
    obtain ⟨index, target, listed, rfl⟩ := (fork_all_member position run targets slot).mp member
    subst own
    exact absurd ((absent rfl).symm.trans listed) nofun
  have forks : deeds pid ((forkAll position run targets).flatMap (forkTrace group)) = [] := by
    rw [deeds_flat_map]
    refine List.flatMap_eq_nil_iff.mpr fun slot member => ?_
    rw [deeds_fork_trace]
    exact if_neg fun own => outside slot member own.1
  have loop := survived.others pid fun inside => by
    obtain ⟨slot, member, own⟩ := List.mem_map.mp inside
    exact outside slot member own
  rw [executeGroupParallel, deeds_append, deeds_append, forks, loop, deeds_silent pid (List.map _ _)]
  · rfl
  · intro event member
    obtain ⟨_, _, rfl⟩ := List.mem_map.mp member
    rfl

theorem deeds_of_workers {Item : Type} (pid : TargetId) (items : List Item) (emit : Item → List Effect) :
    deeds pid (items.flatMap fun item => (emit item).map .worker) = [] := by
  rw [deeds_flat_map]
  exact List.flatMap_eq_nil_iff.mpr fun item _ => deeds_worker pid (emit item)

theorem group_life (dryRun : Bool) (env : Environment) (group : Group) (position : Nat) (targets : List Target)
    (pid : TargetId) :
    deeds pid (executeGroup dryRun env group position targets) =
      if dryRun = false ∧ group.parallel = true then
        deeds pid (executeGroupParallel group position (env.runs position) targets)
      else [] := by
  have delay : deeds pid (if group.postGroupDelay > 0 ∧ dryRun = false then [.worker (.sleep group.postGroupDelay)] else []) = [] := by
    split <;> rfl
  rw [executeGroup]
  by_cases empty : targets = []
  · rw [if_pos empty]
    split
    · rw [parallel_lifeless _ _ _ _ _ fun _ => by rw [empty, List.getElem?_nil]]
      rfl
    · rfl
  rw [if_neg empty, deeds_append, delay, List.append_nil]
  cases dryRun with
  | true => exact deeds_of_workers pid targets.zipIdx fun entry => validateTarget group entry.1 (env.probes position entry.2)
  | false =>
    by_cases parallel : group.parallel = true
    · rw [if_neg Bool.false_ne_true, if_pos parallel, if_pos ⟨rfl, parallel⟩]
    · rw [if_neg Bool.false_ne_true, if_neg parallel, if_neg fun both => parallel both.2]
      exact deeds_of_workers pid targets.zipIdx fun entry =>
        sequentialTarget group position (env.runs position) entry.1 entry.2

theorem phase1_life (dryRun : Bool) (env : Environment) {tables : Tables} (answers : Answers tables) (pid : TargetId) :
    deeds pid (phase1 dryRun env answers) =
      match answers.groups[pid.group]? with
      | some group => deeds pid (executeGroup dryRun env group pid.group (answers.targets group.id))
      | none => [] := by
  have elsewhere : ∀ entry ∈ answers.groups.zipIdx, entry.2 ≠ pid.group →
      deeds pid (executeGroup dryRun env entry.1 entry.2 (answers.targets entry.1.id)) = [] := by
    intro entry _ other
    rw [group_life]
    split
    · exact parallel_lifeless _ _ _ _ pid fun same => absurd same.symm other
    · rfl
  rw [phase1, deeds_flat_map]
  cases found : answers.groups[pid.group]? with
  | none =>
    refine List.flatMap_eq_nil_iff.mpr fun entry member => elsewhere entry member fun same => ?_
    have listed := List.mem_zipIdx_iff_getElem?.mp member
    rw [same, found] at listed
    cases listed
  | some group =>
    have distinct : answers.groups.zipIdx.Nodup := by
      refine List.Nodup.of_map Prod.snd ?_
      rw [List.zipIdx_map_snd]
      exact List.nodup_range'
    refine Sequences.flat_map_only _ _ (group, pid.group) distinct (List.mem_zipIdx_iff_getElem?.mpr found) ?_
    intro entry member apart
    refine elsewhere entry member fun same => apart ?_
    have listed := List.mem_zipIdx_iff_getElem?.mp member
    rw [same, found] at listed
    exact Prod.ext (Option.some.inj listed).symm same

theorem workflow_life (dryRun : Bool) (config : Config) (env : Environment) {tables : Tables} (answers : Answers tables)
    (pid : TargetId) :
    deeds pid (shutdownExecuteEx dryRun config env answers) = deeds pid (phase1 dryRun env answers) := by
  simp only [shutdownExecuteEx, throughPhase2, throughPhase1, deeds_append, deeds_worker, List.append_nil]
  rfl

-- In every workflow the children are those of the targets of parallel groups whose
-- fork succeeded, and each of them lives one whole life, whatever the others do.
theorem children_live (dryRun : Bool) (config : Config) (env : Environment) {tables : Tables} (answers : Answers tables)
    (pid : TargetId) :
    match forkedChild dryRun env answers pid with
    | some executed => Life executed (deeds pid (shutdownExecuteEx dryRun config env answers))
    | none => deeds pid (shutdownExecuteEx dryRun config env answers) = [] := by
  rw [workflow_life, phase1_life, forkedChild]
  cases dryRun with
  | true =>
    cases answers.groups[pid.group]? with
    | none => rfl
    | some group => exact (group_life true env group pid.group _ pid).trans (if_neg fun both => absurd both.1 nofun)
  | false =>
    rw [if_neg Bool.false_ne_true]
    cases answers.groups[pid.group]? with
    | none => rfl
    | some group =>
      simp only [Option.bind_some, group_life]
      by_cases parallel : group.parallel = true
      · rw [if_pos parallel, if_pos ⟨trivial, parallel⟩]
        cases listed : (answers.targets group.id)[pid.index]? with
        | none => exact parallel_lifeless _ _ _ _ pid fun _ => listed
        | some target =>
          have life := parallel_life group pid.group (env.runs pid.group) _ pid.index target listed
          by_cases forked : (env.runs pid.group).forks pid.index = true
          · simpa only [Option.bind_some, if_pos forked] using life
          · simpa only [Option.bind_some, if_neg forked] using life
      · rw [if_neg parallel, if_neg fun both => parallel both.2]

end AiriesUps.Shutdown
