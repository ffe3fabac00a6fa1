import AiriesUps.Shutdown.GroupRows
import Mathlib.Data.List.Nodup

set_option autoImplicit false

namespace AiriesUps.Shutdown

inductive Disposition where
  | default
  | ignore
  | handler
deriving DecidableEq, Repr

-- sig_handler clears the running flag of the process it runs in, which no target
-- cycle reads.
def Disposition.ends : Disposition → Bool
  | .default => true
  | .ignore | .handler => false

structure Process where
  sigterm : Disposition

def Process.started : Process := { sigterm := .default }

-- signal(SIGTERM, sig_handler)
def Process.handleSigterm (process : Process) : Process := { process with sigterm := .handler }

-- A forked child keeps the dispositions of its parent, and execute_target sets none.
def Process.fork (process : Process) : Process := process

-- main once it sleeps in its loop
def daemon : Process := Process.started.handleSigterm

-- The test of the ceiling installs no handler.
def unitTest : Process := Process.started

def GroupRun.inside (parent : Process) (run : GroupRun) : GroupRun :=
  { run with sigtermKills := parent.fork.sigterm.ends }

def TraceEvent.ofChild : TraceEvent → Option TargetId
  | .child pid _ | .orphaned pid _ | .ended pid _ => some pid
  | .worker _ | .forked _ | .killed _ => none

-- What follows a SIGTERM that stops the child's cycle: the child's end by the signal,
-- behind no more than the shell it leaves, and nothing of the child afterwards.
def CutOff (pid : TargetId) (after : List TraceEvent) : Prop :=
  ∃ (shell : Option Effect) (rest : List TraceEvent),
    after = (shell.map (.orphaned pid)).toList ++ .ended pid .signalled :: rest ∧
      ∀ event ∈ rest, event.ofChild ≠ some pid

def KillsCutOff : List TraceEvent → Prop
  | [] => True
  | .killed pid :: after => CutOff pid after ∧ KillsCutOff after
  | _ :: after => KillsCutOff after

-- A row that tells of a kill is that of a child SIGTERM was sent to.
structure StragglersCutOff (position : Nat) (trace : List TraceEvent) : Prop where
  kills : KillsCutOff trace
  rows : ∀ index row, (rowsOf trace)[index]? = some row → row.error = "killed: group timeout exceeded" →
    .killed { group := position, index := index } ∈ trace

-- A condition on every child that is unfinished when the ceiling is found passed.
def EachStraggler (group : Group) (run : GroupRun) (meets : Slot → Prop) : List Poll → List Slot → Prop
  | [], _ => True
  | poll :: rest, slots =>
    let waited := (each (waitChild group poll.waitFails) (runSchedule run slots poll.schedule).1).1
    if allDone waited then True
    else if pastCeiling group run.start poll.now then
      ∀ slot ∈ waited, slot.forked = true → slot.done = false → meets slot
    else EachStraggler group run meets rest waited

def NoStraggler (group : Group) (position : Nat) (run : GroupRun) (targets : List Target) : Prop :=
  EachStraggler group run (fun _ => False) run.polls (forkAll position run targets)

-- SIGTERM ends a straggler if it is at its default and finds the child alive.
def Struck (run : GroupRun) (slot : Slot) : Prop := run.sigtermKills = true ∧ slot.ended = false

def Killless (trace : List TraceEvent) : Prop := ∀ pid, TraceEvent.killed pid ∉ trace

@[simp] theorem killless_append (before after : List TraceEvent) :
    Killless (before ++ after) ↔ Killless before ∧ Killless after := by
  simp only [Killless, List.mem_append, not_or, forall_and]

theorem killless_each (body : Slot → Slot × List TraceEvent) (slots : List Slot)
    (none_ : ∀ slot, Killless (body slot).2) : Killless (each body slots).2 := by
  intro pid member
  obtain ⟨slot, _, emitted⟩ := List.mem_flatMap.mp member
  exact none_ slot pid emitted

theorem undisturbed_killless (trace : List TraceEvent) (undisturbed : ∀ event ∈ trace, event.Undisturbed) :
    Killless trace :=
  fun _ member => undisturbed _ member

theorem killless_move_child (run : GroupRun) (move : Move) (slot : Slot) : Killless (moveChild run move slot).2 := by
  cases move with
  | step _ => exact undisturbed_killless _ (child_step_undisturbed slot)
  | signal _ =>
    change Killless (signalChild run slot).2
    rcases signal_child_cases run slot with ⟨idle, _⟩ | ⟨_, _, hit⟩
    · simp [idle, Killless]
    · simp [hit, Killless]

theorem killless_schedule (run : GroupRun) (slots : List Slot) (schedule : List Move) :
    Killless (runSchedule run slots schedule).2 := by
  induction schedule generalizing slots with
  | nil => exact fun _ => List.not_mem_nil
  | cons move rest ih =>
    rw [runSchedule]
    cases slots[move.index]? with
    | none => exact ih slots
    | some slot => exact (killless_append _ _).mpr ⟨killless_move_child run move slot, ih _⟩

theorem killless_waited (group : Group) (waitFails : List Nat) (slots : List Slot) :
    Killless (each (waitChild group waitFails) slots).2 :=
  killless_each _ slots fun slot => undisturbed_killless _ (wait_child_undisturbed group waitFails slot)

theorem killless_forks (group : Group) (slots : List Slot) : Killless (slots.flatMap (forkTrace group)) := by
  intro pid member
  obtain ⟨slot, _, emitted⟩ := List.mem_flatMap.mp member
  rcases fork_trace_cases group slot _ emitted with same | ⟨_, same⟩ <;> cases same

theorem killless_cut_off (trace : List TraceEvent) (killless : Killless trace) : KillsCutOff trace := by
  induction trace with
  | nil => trivial
  | cons event after ih =>
    have later := ih fun pid member => killless pid (List.mem_cons_of_mem _ member)
    cases event with
    | killed pid => exact absurd (List.mem_cons_self ..) (killless pid)
    | _ => exact later

theorem kills_cut_off_suffix (before after : List TraceEvent) (kills : KillsCutOff (before ++ after)) :
    KillsCutOff after := by
  induction before with
  | nil => exact kills
  | cons event rest ih =>
    cases event with
    | killed pid => exact ih kills.2
    | _ => exact ih kills

theorem kills_cut_off_append (before after : List TraceEvent) (killless : Killless before) :
    KillsCutOff (before ++ after) ↔ KillsCutOff after := by
  refine ⟨kills_cut_off_suffix before after, fun kills => ?_⟩
  induction before with
  | nil => exact kills
  | cons event rest ih =>
    have later := ih fun pid member => killless pid (List.mem_cons_of_mem _ member)
    cases event with
    | killed pid => exact absurd (List.mem_cons_self ..) (killless pid)
    | _ => exact later

theorem not_cut_off_worker (pid : TargetId) (effect : Effect) (after : List TraceEvent) :
    ¬CutOff pid (.worker effect :: after) := by
  rintro ⟨shell, rest, same, _⟩
  cases shell <;> cases same

def killedReport (group : Group) (slot : Slot) : TraceEvent :=
  .worker (.report group.name slot.name "killed (timeout)")

theorem kill_straggler_struck (group : Group) (run : GroupRun) (slot : Slot) (forked : slot.forked = true)
    (waiting : slot.done = false) (struck : Struck run slot) :
    killStraggler group run slot =
      ({ slot with remaining := [], status := .signalled, ended := true, outcome := 2 },
        .killed slot.id :: (((strandedShell run slot).map (.orphaned slot.id)).toList ++
          .ended slot.id .signalled :: [killedReport group slot])) := by
  simp [killStraggler, signalChild, forked, waiting, struck.1, struck.2, killedReport]

-- The signal is caught, or the child had ended unnoticed: its cycle is left as it is.
theorem kill_straggler_missed (group : Group) (run : GroupRun) (slot : Slot) (forked : slot.forked = true)
    (waiting : slot.done = false) (missed : ¬Struck run slot) :
    killStraggler group run slot = ({ slot with outcome := 2 }, [.killed slot.id, killedReport group slot]) := by
  have unhit : (if run.sigtermKills then signalChild run slot else (slot, [])) = (slot, []) := by
    by_cases kills : run.sigtermKills = true
    · have ended : slot.ended = true := by
        by_contra alive
        exact missed ⟨kills, Bool.eq_false_iff.mpr alive⟩
      rw [if_pos kills, signalChild, ended, Bool.or_true, if_pos rfl]
    · rw [if_neg kills]
  have unskipped : ¬(slot.done || !slot.forked) = true := by simp [forked, waiting]
  rw [killStraggler, if_neg unskipped, unhit]
  rfl

theorem settled_or_straggler (slot : Slot) :
    (slot.forked = true → slot.done = true) ∨ slot.forked = true ∧ slot.done = false := by
  cases slot.forked with
  | false => exact Or.inl nofun
  | true =>
    cases slot.done with
    | false => exact Or.inr ⟨rfl, rfl⟩
    | true => exact Or.inl fun _ => rfl

theorem kill_straggler_settled (group : Group) (run : GroupRun) (slot : Slot)
    (settled : slot.forked = true → slot.done = true) : killStraggler group run slot = (slot, []) := by
  rcases kill_straggler_cases group run slot with ⟨idle, _⟩ | ⟨forked, waiting, _⟩
  · exact idle
  · exact absurd (waiting.symm.trans (settled forked)) nofun

theorem kill_straggler_events (group : Group) (run : GroupRun) (slot : Slot) :
    ∀ event ∈ (killStraggler group run slot).2, ∀ pid, event.ofChild = some pid → pid = slot.id := by
  intro event member pid own
  rcases settled_or_straggler slot with settled | ⟨forked, waiting⟩
  · rw [kill_straggler_settled group run slot settled] at member
    cases member
  · by_cases struck : Struck run slot
    · rw [kill_straggler_struck group run slot forked waiting struck] at member
      simp only [List.mem_cons, List.mem_append, Option.mem_toList, Option.map_eq_some_iff, List.not_mem_nil,
        or_false] at member
      rcases member with rfl | ⟨shell, _, rfl⟩ | rfl | rfl <;> cases own <;> rfl
    · rw [kill_straggler_missed group run slot forked waiting struck] at member
      simp only [List.mem_cons, List.not_mem_nil, or_false] at member
      rcases member with rfl | rfl <;> cases own

theorem kills_struck (group : Group) (run : GroupRun) (slots : List Slot) (tail : List TraceEvent)
    (kills : KillsCutOff ((each (killStraggler group run) slots).2 ++ tail)) :
    ∀ slot ∈ slots, slot.forked = true → slot.done = false → Struck run slot := by
  induction slots with
  | nil => exact nofun
  | cons first rest ih =>
    have split : (each (killStraggler group run) (first :: rest)).2 ++ tail =
        (killStraggler group run first).2 ++ ((each (killStraggler group run) rest).2 ++ tail) := by
      rw [← List.append_assoc]
      rfl
    rw [split] at kills
    intro slot member forked waiting
    rcases List.mem_cons.mp member with rfl | later
    · by_contra missed
      rw [kill_straggler_missed group run slot forked waiting missed] at kills
      exact not_cut_off_worker _ _ _ kills.1
    · exact ih (kills_cut_off_suffix _ _ kills) slot later forked waiting

theorem struck_kills (group : Group) (run : GroupRun) (slots : List Slot) (tail : List TraceEvent)
    (distinct : (slots.map Slot.id).Nodup) (silent : ∀ event ∈ tail, event.ofChild = none) (killless : Killless tail)
    (struck : ∀ slot ∈ slots, slot.forked = true → slot.done = false → Struck run slot) :
    KillsCutOff ((each (killStraggler group run) slots).2 ++ tail) := by
  induction slots with
  | nil => exact killless_cut_off tail killless
  | cons first rest ih =>
    have split : (each (killStraggler group run) (first :: rest)).2 ++ tail =
        (killStraggler group run first).2 ++ ((each (killStraggler group run) rest).2 ++ tail) := by
      rw [← List.append_assoc]
      rfl
    rw [List.map_cons, List.nodup_cons] at distinct
    have later := ih distinct.2 fun slot member => struck slot (List.mem_cons_of_mem _ member)
    rw [split]
    rcases settled_or_straggler first with settled | ⟨forked, waiting⟩
    · rw [kill_straggler_settled group run first settled]
      exact later
    · rw [kill_straggler_struck group run first forked waiting (struck first (List.mem_cons_self ..) forked waiting)]
      refine ⟨⟨strandedShell run first,
        killedReport group first :: ((each (killStraggler group run) rest).2 ++ tail), List.append_assoc _ _ _, ?_⟩, ?_⟩
      · intro event member own
        rcases List.mem_cons.mp member with rfl | others
        · cases own
        rcases List.mem_append.mp others with killed | after
        · obtain ⟨slot, present, emitted⟩ := List.mem_flatMap.mp killed
          have same := kill_straggler_events group run slot event emitted first.id own
          exact distinct.1 (same ▸ List.mem_map_of_mem present)
        · exact absurd ((silent event after).symm.trans own) nofun
      · change KillsCutOff ((((strandedShell run first).map (.orphaned first.id)).toList ++
          .ended first.id .signalled :: [killedReport group first]) ++ _)
        refine (kills_cut_off_append _ _ ?_).mpr later
        intro pid member
        simp [killedReport] at member

-- A slot whose child can do no more.
def Idle (slot : Slot) : Prop := slot.forked = true → slot.ended = true

theorem idle_schedule (run : GroupRun) (slots : List Slot) (schedule : List Move) (idle : ∀ slot ∈ slots, Idle slot) :
    runSchedule run slots schedule = (slots, []) := by
  induction schedule with
  | nil => rfl
  | cons move rest ih =>
    rw [runSchedule]
    cases found : slots[move.index]? with
    | none => exact ih
    | some slot =>
      have stuck : (!slot.forked || slot.ended) = true := by
        have settled := idle slot (List.mem_of_getElem? found)
        cases begun : slot.forked with
        | false => rfl
        | true => rw [settled begun]; rfl
      have still : moveChild run move slot = (slot, []) := by
        cases move with
        | step _ => exact if_pos stuck
        | signal _ => exact if_pos stuck
      simp only [still, Tables.set_found slots move.index slot found, ih, List.append_nil]

theorem idle_reaped (slots : List Slot) (idle : ∀ slot ∈ slots, Idle slot) : (each reapStraggler slots).2 = [] := by
  refine List.flatMap_eq_nil_iff.mpr fun slot member => ?_
  rcases reap_straggler_cases slot with ⟨settled, _⟩ | ⟨forked, _, reaped⟩
  · rw [settled]
  · rcases drain_cases slot with ⟨drained, _⟩ | ⟨_, alive, _⟩
    · rw [reaped, drained]
    · exact absurd (alive.symm.trans (idle slot member forked)) nofun

theorem struck_idle (group : Group) (run : GroupRun) (slots : List Slot) (ended : ∀ slot ∈ slots, slot.done = true → slot.ended = true)
    (struck : ∀ slot ∈ slots, slot.forked = true → slot.done = false → Struck run slot) :
    ∀ slot ∈ (each (killStraggler group run) slots).1, Idle slot := by
  intro slot member
  obtain ⟨original, present, rfl⟩ := List.mem_map.mp member
  rcases settled_or_straggler original with settled | ⟨forked, waiting⟩
  · rw [kill_straggler_settled group run original settled]
    exact fun forked => ended original present (settled forked)
  · rw [kill_straggler_struck group run original forked waiting (struck original present forked waiting)]
    exact fun _ => rfl

-- What the loop needs of the slots it is entered with.
structure Looped (slots : List Slot) : Prop where
  distinct : (slots.map Slot.id).Nodup
  ended : ∃ trace, AllInv false trace slots

theorem ids_of_keys (slots : List Slot) : slots.map Slot.id = (slots.map Slot.key).map Prod.fst := by
  rw [List.map_map]
  rfl

theorem looped_moved (slots : List Slot) (result : List Slot × List TraceEvent) (looped : Looped slots)
    (moved : Moved false false slots result) : Looped result.1 := by
  obtain ⟨trace, inv⟩ := looped.ended
  refine ⟨?_, trace ++ result.2, moved.inv trace inv⟩
  rw [ids_of_keys, moved.key, ← ids_of_keys]
  exact looped.distinct

theorem fork_all_looped (position : Nat) (run : GroupRun) (targets : List Target) :
    Looped (forkAll position run targets) := by
  refine ⟨?_, [], fork_all_inv position run targets []⟩
  have ids : (forkAll position run targets).map Slot.id =
      (targets.zipIdx.map Prod.snd).map fun index => { group := position, index := index } := by
    rw [ids_of_keys, fork_all_keys, List.map_map, List.map_map]
    rfl
  rw [ids, List.zipIdx_map_snd]
  exact List.Nodup.map (fun _ _ same => congrArg TargetId.index same) List.nodup_range'

theorem ceiling_cut_off_iff (group : Group) (run : GroupRun) (slots : List Slot) (tail : List TraceEvent)
    (looped : Looped slots) (silent : ∀ event ∈ tail, event.ofChild = none) (killless : Killless tail) :
    KillsCutOff ((each (killStraggler group run) slots).2 ++
        ((runSchedule run (each (killStraggler group run) slots).1 run.reap).2 ++
          ((each reapStraggler (runSchedule run (each (killStraggler group run) slots).1 run.reap).1).2 ++ tail))) ↔
      ∀ slot ∈ slots, slot.forked = true → slot.done = false → Struck run slot := by
  refine ⟨kills_struck group run slots _, fun struck => ?_⟩
  obtain ⟨trace, inv⟩ := looped.ended
  have idle := struck_idle group run slots (fun slot member => (inv slot member).doneEnded) struck
  rw [idle_schedule run _ run.reap idle, idle_reaped _ idle]
  exact struck_kills group run slots tail looped.distinct silent killless struck

theorem wait_loop_cut_off_iff (group : Group) (run : GroupRun) (polls : List Poll) (slots : List Slot)
    (tail : List TraceEvent) (looped : Looped slots) (silent : ∀ event ∈ tail, event.ofChild = none)
    (killless : Killless tail) :
    KillsCutOff ((waitLoop group run polls slots).2 ++ tail) ↔ EachStraggler group run (Struck run) polls slots := by
  induction polls generalizing slots with
  | nil =>
    refine iff_of_true (killless_cut_off _ ?_) trivial
    simp only [waitLoop, killless_append]
    have drained := killless_each drain slots fun slot => undisturbed_killless _ (drain_undisturbed slot)
    exact ⟨⟨drained, killless_waited group [] _⟩, killless⟩
  | cons poll rest ih =>
    have later := looped_moved slots _ looped (moved_turn group run poll slots)
    have scheduled := killless_schedule run slots poll.schedule
    have scanned := killless_waited group poll.waitFails (runSchedule run slots poll.schedule).1
    simp only [waitLoop, EachStraggler]
    split
    · refine iff_of_true (killless_cut_off _ ?_) trivial
      simp only [killless_append]
      exact ⟨⟨scheduled, scanned⟩, killless⟩
    split
    · simp only [List.append_assoc]
      rw [kills_cut_off_append _ _ scheduled, kills_cut_off_append _ _ scanned]
      exact ceiling_cut_off_iff group run _ tail later silent killless
    · have slept : Killless [.worker (.sleep 1)] := by simp [Killless]
      simp only [List.append_assoc]
      rw [kills_cut_off_append _ _ scheduled, kills_cut_off_append _ _ scanned, kills_cut_off_append _ _ slept]
      exact ih _ later

def Slot.mark (slot : Slot) : TargetId × Nat := (slot.id, slot.outcome)

theorem move_child_mark (run : GroupRun) (move : Move) (slot : Slot) : (moveChild run move slot).1.mark = slot.mark := by
  cases move with
  | step _ =>
    change (childStep slot).1.mark = slot.mark
    rcases child_step_cases slot with idle | ⟨_, _, _, last⟩ | ⟨_, _, _, _, _, next⟩
    · rw [idle]
    · rw [last]; rfl
    · rw [next]; rfl
  | signal _ =>
    change (signalChild run slot).1.mark = slot.mark
    rcases signal_child_cases run slot with ⟨idle, _⟩ | ⟨_, _, hit⟩
    · rw [idle]
    · rw [hit]; rfl

theorem schedule_marks (run : GroupRun) (slots : List Slot) (schedule : List Move) :
    (runSchedule run slots schedule).1.map Slot.mark = slots.map Slot.mark := by
  induction schedule generalizing slots with
  | nil => rfl
  | cons move rest ih =>
    rw [runSchedule]
    cases found : slots[move.index]? with
    | none => exact ih slots
    | some slot =>
      change (runSchedule run (slots.set move.index (moveChild run move slot).1) rest).1.map Slot.mark = _
      rw [ih, List.map_set, move_child_mark]
      exact Tables.set_found (slots.map Slot.mark) move.index slot.mark (by rw [List.getElem?_map, found]; rfl)

theorem reap_straggler_mark (slot : Slot) : (reapStraggler slot).1.mark = slot.mark := by
  rcases reap_straggler_cases slot with ⟨idle, _⟩ | ⟨_, _, reaped⟩
  · rw [idle]
  · rw [reaped]
    rcases drain_cases slot with ⟨drained, _⟩ | ⟨_, _, drained⟩
    · rw [drained]; rfl
    · rw [drained]; rfl

theorem wait_child_unkilled (group : Group) (waitFails : List Nat) (slot : Slot) (unkilled : slot.outcome ≠ 2) :
    (waitChild group waitFails slot).1.outcome ≠ 2 := by
  rcases wait_child_cases group waitFails slot with idle | ⟨_, _, _, waited⟩
  · rw [idle]
    exact unkilled
  · rw [waited]
    split
    · exact (by decide : 0 ≠ 2)
    · exact (by decide : 1 ≠ 2)

def Unkilled (slots : List Slot) : Prop := ∀ slot ∈ slots, slot.outcome ≠ 2

theorem unkilled_turn (group : Group) (run : GroupRun) (poll : Poll) (slots : List Slot) (unkilled : Unkilled slots) :
    Unkilled (each (waitChild group poll.waitFails) (runSchedule run slots poll.schedule).1).1 := by
  intro slot member
  obtain ⟨original, present, rfl⟩ := List.mem_map.mp member
  apply wait_child_unkilled
  have marked := List.mem_map_of_mem (f := Slot.mark) present
  rw [schedule_marks] at marked
  obtain ⟨first, before, same⟩ := List.mem_map.mp marked
  have outcome : first.outcome = original.outcome := congrArg Prod.snd same
  rw [← outcome]
  exact unkilled first before

theorem ceiling_marks (group : Group) (run : GroupRun) (slots : List Slot) (unkilled : Unkilled slots) :
    ∀ slot ∈ (each reapStraggler (runSchedule run (each (killStraggler group run) slots).1 run.reap).1).1,
      slot.outcome = 2 → .killed slot.id ∈ (each (killStraggler group run) slots).2 := by
  intro slot member killed
  obtain ⟨reaped, ran, rfl⟩ := List.mem_map.mp member
  have marked := List.mem_map_of_mem (f := Slot.mark) ran
  rw [schedule_marks] at marked
  obtain ⟨hit, struck, same⟩ := List.mem_map.mp marked
  obtain ⟨original, present, rfl⟩ := List.mem_map.mp struck
  have mark := same.trans (reap_straggler_mark reaped).symm
  have id : (killStraggler group run original).1.id = (reapStraggler reaped).1.id := congrArg Prod.fst mark
  have outcome : (killStraggler group run original).1.outcome = 2 := (congrArg Prod.snd mark).trans killed
  refine List.mem_flatMap.mpr ⟨original, present, ?_⟩
  rw [← id]
  rcases settled_or_straggler original with settled | ⟨forked, waiting⟩
  · rw [kill_straggler_settled group run original settled] at outcome
    exact absurd outcome (unkilled original present)
  · have key : (killStraggler group run original).1.id = original.id :=
      congrArg Prod.fst ((keeps_kill_straggler group run).key original)
    rw [key]
    by_cases struckNow : Struck run original
    · rw [kill_straggler_struck group run original forked waiting struckNow]
      exact List.mem_cons_self ..
    · rw [kill_straggler_missed group run original forked waiting struckNow]
      exact List.mem_cons_self ..

theorem wait_loop_killed (group : Group) (run : GroupRun) (polls : List Poll) (slots : List Slot)
    (unkilled : Unkilled slots) :
    ∀ slot ∈ (waitLoop group run polls slots).1, slot.outcome = 2 → .killed slot.id ∈ (waitLoop group run polls slots).2 := by
  induction polls generalizing slots with
  | nil =>
    intro slot member killed
    obtain ⟨drained, ran, rfl⟩ := List.mem_map.mp member
    obtain ⟨original, present, rfl⟩ := List.mem_map.mp ran
    have untouched : (drain original).1.outcome ≠ 2 := by
      rw [(drain_keeps_outcome original).1]
      exact unkilled original present
    exact absurd killed (wait_child_unkilled group [] _ untouched)
  | cons poll rest ih =>
    have turned := unkilled_turn group run poll slots unkilled
    simp only [waitLoop]
    split
    · exact fun slot member killed => absurd killed (turned slot member)
    split
    · intro slot member killed
      have sent := ceiling_marks group run _ turned slot member killed
      simp only [List.mem_append]
      exact Or.inl (Or.inl (Or.inr sent))
    · intro slot member killed
      exact List.mem_append_right _ (ih _ turned slot member killed)

theorem outcome_row_killed (group : Group) (slot : Slot)
    (killed : (outcomeRow group slot).error = "killed: group timeout exceeded") : slot.outcome = 2 := by
  rw [outcomeRow] at killed
  by_cases ok : slot.outcome = 0
  · rw [if_pos ok] at killed
    have empty : "" ≠ "killed: group timeout exceeded" := by decide
    exact absurd killed empty
  rw [if_neg ok] at killed
  by_contra failed
  rw [if_neg failed] at killed
  have stepFailed : snprintf 256 "step failed (see daemon log)" ≠ "killed: group timeout exceeded" := by decide +kernel
  exact absurd killed stepFailed

theorem parallel_killed_rows (group : Group) (position : Nat) (run : GroupRun) (targets : List Target) (index : Nat)
    (row : StepResult) (found : (rowsOf (executeGroupParallel group position run targets))[index]? = some row)
    (killed : row.error = "killed: group timeout exceeded") :
    .killed { group := position, index := index } ∈ executeGroupParallel group position run targets := by
  have unkilled : Unkilled (forkAll position run targets) := by
    intro slot member
    obtain ⟨entry, _, rfl⟩ := List.mem_map.mp member
    exact (by decide : 0 ≠ 2)
  have keys := (wait_loop_settled group position run targets).key
  rw [parallel_rows, List.getElem?_map] at found
  obtain ⟨slot, present, rfl⟩ := Option.map_eq_some_iff.mp found
  have sent := wait_loop_killed group run run.polls _ unkilled slot (List.mem_of_getElem? present)
    (outcome_row_killed group slot killed)
  have place : ((waitLoop group run run.polls (forkAll position run targets)).1.map Slot.key)[index]? = some slot.key := by
    rw [List.getElem?_map, present]
    rfl
  rw [keys, fork_all_keys, List.getElem?_map, List.getElem?_zipIdx] at place
  have id : slot.id = { group := position, index := index } := by
    cases listed : targets[index]? with
    | none =>
      rw [listed] at place
      cases place
    | some target =>
      rw [listed] at place
      have same := congrArg Prod.fst (Option.some.inj place)
      rw [Nat.zero_add] at same
      exact same.symm
  rw [id] at sent
  exact List.mem_append_left _ (List.mem_append_right _ sent)

-- Under whatever disposition of SIGTERM the children were forked with.
theorem parallel_cut_off_iff (group : Group) (position : Nat) (run : GroupRun) (targets : List Target) :
    StragglersCutOff position (executeGroupParallel group position run targets) ↔
      EachStraggler group run (Struck run) run.polls (forkAll position run targets) := by
  have rowsSilent : ∀ slots : List Slot,
      ∀ event ∈ slots.map fun slot => TraceEvent.worker (.row (outcomeRow group slot)), event.ofChild = none := by
    intro slots event member
    obtain ⟨slot, _, rfl⟩ := List.mem_map.mp member
    rfl
  have rowsKillless : ∀ slots : List Slot, Killless (slots.map fun slot => .worker (.row (outcomeRow group slot))) := by
    intro slots pid member
    obtain ⟨slot, _, same⟩ := List.mem_map.mp member
    cases same
  rw [← wait_loop_cut_off_iff group run run.polls _ _ (fork_all_looped position run targets) (rowsSilent _)
    (rowsKillless _), ← kills_cut_off_append _ _ (killless_forks group (forkAll position run targets)),
    ← List.append_assoc]
  exact ⟨fun stopped => stopped.kills, fun kills => ⟨kills, parallel_killed_rows group position run targets⟩⟩

theorem struck_in_daemon (run : GroupRun) : Struck (run.inside daemon) = fun _ => False :=
  funext fun _ => propext ⟨fun struck => absurd struck.1 Bool.false_ne_true, False.elim⟩

theorem struck_in_test (run : GroupRun) : Struck (run.inside unitTest) = fun slot => slot.ended = false :=
  funext fun _ => propext ⟨fun struck => struck.2, fun alive => ⟨rfl, alive⟩⟩

-- The children of the daemon catch SIGTERM as it does.
theorem stragglers_cut_off_iff (group : Group) (position : Nat) (run : GroupRun) (targets : List Target) :
    StragglersCutOff position (executeGroupParallel group position (run.inside daemon) targets) ↔
      NoStraggler group position (run.inside daemon) targets := by
  rw [parallel_cut_off_iff, struck_in_daemon]
  rfl

-- The children of the test do not: only one that ended since the last scan is missed.
theorem test_stragglers_cut_off_iff (group : Group) (position : Nat) (run : GroupRun) (targets : List Target) :
    StragglersCutOff position (executeGroupParallel group position (run.inside unitTest) targets) ↔
      EachStraggler group (run.inside unitTest) (fun slot => slot.ended = false) run.polls
        (forkAll position (run.inside unitTest) targets) := by
  rw [parallel_cut_off_iff, struck_in_test]
  rfl

-- In the daemon the rest of a straggler's cycle runs, but for a sleep the signal cuts
-- short, and reaping waits for its end.
theorem straggler_runs_on (group : Group) (run : GroupRun) (slot : Slot) (forked : slot.forked = true)
    (waiting : slot.done = false) (alive : slot.ended = false) :
    (reapStraggler (killStraggler group (run.inside daemon) slot).1).2 =
      slot.remaining.map (.child slot.id) ++ [.ended slot.id slot.status] := by
  have missed : ¬Struck (run.inside daemon) slot := by
    rw [struck_in_daemon]
    exact not_false
  rw [kill_straggler_missed group _ slot forked waiting missed]
  simp [reapStraggler, drain, forked, waiting, alive]

def slowGroup : Group :=
  { id := 1, name := "slow", executionOrder := 1, parallel := true, maxTimeoutSec := 1, postGroupDelay := 0 }

def slowTarget : Target :=
  { groupId := 1
    orderInGroup := 1
    name := "slow"
    method := "command"
    host := ""
    username := ""
    credential := ""
    command := "sleep 5"
    timeoutSec := 0
    confirmMethod := "none"
    confirmPort := 0
    confirmCommand := ""
    postConfirmDelay := 30 }

def slowRun : GroupRun :=
  { start := 0
    now := fun _ => 0
    cycles := fun _ => { keyPath := none, actionRc := 0, confirmStart := 0, stillUp := [], error := "" }
    forks := fun _ => true
    polls := [{ schedule := [], waitFails := [], now := 1 }]
    reap := []
    sigtermKills := true
    outlives := fun _ => false }

def slowTrace : List TraceEvent :=
  [.worker (.report "slow" "slow" "starting"), .forked ⟨0, 0⟩, .killed ⟨0, 0⟩,
    .worker (.report "slow" "slow" "killed (timeout)"), .child ⟨0, 0⟩ (.action ⟨0, 0⟩ "sleep 5" 0),
    .child ⟨0, 0⟩ (.sleep 30), .ended ⟨0, 0⟩ (.exited 0),
    .worker (.row ⟨"phase1", "slow/slow", 1, "killed: group timeout exceeded"⟩)]

theorem killed_straggler_finishes :
    executeGroupParallel slowGroup 0 (slowRun.inside daemon) [slowTarget] = slowTrace ∧
      ¬StragglersCutOff 0 (executeGroupParallel slowGroup 0 (slowRun.inside daemon) [slowTarget]) := by
  have trace : executeGroupParallel slowGroup 0 (slowRun.inside daemon) [slowTarget] = slowTrace := by decide +kernel
  refine ⟨trace, fun stopped => ?_⟩
  have kills := stopped.kills
  rw [trace] at kills
  exact not_cut_off_worker _ _ _ kills.1

end AiriesUps.Shutdown
