import AiriesUps.Shutdown.Group

set_option autoImplicit false

namespace AiriesUps.Shutdown

-- What holds of a slot at every point of a parallel group, given the trace so far
-- and whether the stragglers have been killed.
structure SlotInv (killed : Bool) (trace : List TraceEvent) (slot : Slot) : Prop where
  cycle : ∀ effect ∈ slot.remaining, effect.OfCycle slot.id
  endedSeen : slot.ended = true → ∃ status, .ended slot.id status ∈ trace
  doneEnded : slot.done = true → slot.ended = true
  endedEmpty : slot.ended = true → slot.remaining = []
  ran : slot.status = .exited 0 →
    ∃ command, .action slot.id command 0 ∈ slot.remaining ∨ .child slot.id (.action slot.id command 0) ∈ trace
  succeeded : slot.done = true → slot.outcome = 0 → slot.status = .exited 0
  unforked : slot.forked = false → slot.outcome = 0
  condemned : killed = true → slot.forked = true → slot.done = false → slot.outcome = 2

def AllInv (killed : Bool) (trace : List TraceEvent) (slots : List Slot) : Prop :=
  ∀ slot ∈ slots, SlotInv killed trace slot

def Slot.key (slot : Slot) : TargetId × String × Bool := (slot.id, slot.name, slot.forked)

-- The events of the loops over the slots: reports and sleeps of the worker, and
-- steps and ends of children that were forked.
def TraceEvent.OfSlots (keys : List (TargetId × String × Bool)) : TraceEvent → Prop
  | .worker (.report _ _ _) | .worker (.sleep _) => True
  | .worker _ => False
  | .child pid effect | .orphaned pid effect => (∃ name, (pid, name, true) ∈ keys) ∧ effect.OfCycle pid
  | .forked _ => False
  | .killed pid | .ended pid _ => ∃ name, (pid, name, true) ∈ keys

-- One piece of the parallel execution: it keeps the keys and the invariant, and
-- emits events of the slots only.
structure Moved (before after : Bool) (slots : List Slot) (result : List Slot × List TraceEvent) : Prop where
  key : result.1.map Slot.key = slots.map Slot.key
  inv : ∀ trace, AllInv before trace slots → AllInv after (trace ++ result.2) result.1
  events : ∀ trace, AllInv before trace slots → ∀ event ∈ result.2, event.OfSlots (slots.map Slot.key)

theorem slot_inv_mono (killed : Bool) (before after : List TraceEvent) (slot : Slot) (inv : SlotInv killed before slot)
    (included : before ⊆ after) : SlotInv killed after slot := by
  refine ⟨inv.cycle, ?_, inv.doneEnded, inv.endedEmpty, ?_, inv.succeeded, inv.unforked, inv.condemned⟩
  · intro ended
    obtain ⟨status, seen⟩ := inv.endedSeen ended
    exact ⟨status, included seen⟩
  · intro exited
    obtain ⟨command, later | seen⟩ := inv.ran exited
    · exact ⟨command, Or.inl later⟩
    · exact ⟨command, Or.inr (included seen)⟩

theorem moved_trans (before middle after : Bool) (slots : List Slot) (first second : List Slot × List TraceEvent)
    (movedFirst : Moved before middle slots first) (movedSecond : Moved middle after first.1 second) :
    Moved before after slots (second.1, first.2 ++ second.2) := by
  refine ⟨movedSecond.key.trans movedFirst.key, ?_, ?_⟩
  · intro trace inv
    have result := movedSecond.inv (trace ++ first.2) (movedFirst.inv trace inv)
    rwa [List.append_assoc] at result
  · intro trace inv event member
    rcases List.mem_append.mp member with early | late
    · exact movedFirst.events trace inv event early
    · have ofSecond := movedSecond.events (trace ++ first.2) (movedFirst.inv trace inv) event late
      rwa [movedFirst.key] at ofSecond

structure Keeps (before after : Bool) (body : Slot → Slot × List TraceEvent) : Prop where
  key : ∀ slot, (body slot).1.key = slot.key
  inv : ∀ trace slot, SlotInv before trace slot → SlotInv after (trace ++ (body slot).2) (body slot).1
  events : ∀ trace slot, SlotInv before trace slot → ∀ event ∈ (body slot).2, event.OfSlots [slot.key]

theorem of_slots_mono (few many : List (TargetId × String × Bool)) (event : TraceEvent) (ofFew : event.OfSlots few)
    (included : few ⊆ many) : event.OfSlots many := by
  cases event with
  | worker effect => cases effect <;> trivial
  | child pid effect =>
    obtain ⟨⟨name, member⟩, cycle⟩ := ofFew
    exact ⟨⟨name, included member⟩, cycle⟩
  | orphaned pid shell =>
    obtain ⟨⟨name, member⟩, cycle⟩ := ofFew
    exact ⟨⟨name, included member⟩, cycle⟩
  | forked pid => exact ofFew
  | killed pid =>
    obtain ⟨name, member⟩ := ofFew
    exact ⟨name, included member⟩
  | ended pid status =>
    obtain ⟨name, member⟩ := ofFew
    exact ⟨name, included member⟩

theorem moved_each (before after : Bool) (body : Slot → Slot × List TraceEvent) (keeps : Keeps before after body)
    (slots : List Slot) : Moved before after slots (each body slots) := by
  refine ⟨?_, ?_, ?_⟩
  · rw [each, List.map_map]
    exact List.map_congr_left fun slot _ => keeps.key slot
  · intro trace inv slot member
    obtain ⟨original, present, rfl⟩ := List.mem_map.mp member
    apply slot_inv_mono _ _ _ _ (keeps.inv trace original (inv original present))
    intro event emitted
    rcases List.mem_append.mp emitted with old | new
    · exact List.mem_append_left _ old
    · exact List.mem_append_right _ (List.mem_flatMap.mpr ⟨original, present, new⟩)
  · intro trace inv event emitted
    obtain ⟨slot, present, new⟩ := List.mem_flatMap.mp emitted
    apply of_slots_mono _ _ event (keeps.events trace slot (inv slot present) event new)
    intro key same
    rw [List.mem_singleton.mp same]
    exact List.mem_map_of_mem present

theorem moved_one (killed : Bool) (body : Slot → Slot × List TraceEvent) (keeps : Keeps killed killed body)
    (slots : List Slot) (index : Nat) (slot : Slot) (found : slots[index]? = some slot) :
    Moved killed killed slots (slots.set index (body slot).1, (body slot).2) := by
  have present : slot ∈ slots := List.mem_of_getElem? found
  refine ⟨?_, ?_, ?_⟩
  · rw [List.map_set, keeps.key slot]
    exact Tables.set_found (slots.map Slot.key) index slot.key (by rw [List.getElem?_map, found]; rfl)
  · intro trace inv other member
    rcases List.mem_or_eq_of_mem_set member with old | new
    · exact slot_inv_mono _ _ _ _ (inv other old) (List.subset_append_left _ _)
    · rw [new]
      exact keeps.inv trace slot (inv slot present)
  · intro trace inv event emitted
    apply of_slots_mono _ _ event (keeps.events trace slot (inv slot present) event emitted)
    intro key same
    rw [List.mem_singleton.mp same]
    exact List.mem_map_of_mem present

theorem moved_nothing (killed : Bool) (slots : List Slot) : Moved killed killed slots (slots, []) :=
  ⟨rfl, fun _ inv => by rwa [List.append_nil], fun _ _ _ member => by cases member⟩

theorem child_step_cases (slot : Slot) :
    childStep slot = (slot, []) ∨
      (slot.forked = true ∧ slot.ended = false ∧ slot.remaining = [] ∧
        childStep slot = ({ slot with ended := true }, [.ended slot.id slot.status])) ∨
      (slot.forked = true ∧ slot.ended = false ∧ ∃ effect rest, slot.remaining = effect :: rest ∧
        childStep slot = ({ slot with remaining := rest }, [.child slot.id effect])) := by
  by_cases idle : (!slot.forked || slot.ended) = true
  · exact Or.inl (by rw [childStep, if_pos idle])
  have running : slot.forked = true ∧ slot.ended = false := by simpa using idle
  right
  cases steps : slot.remaining with
  | nil => exact Or.inl ⟨running.1, running.2, rfl, by rw [childStep, if_neg idle, steps]⟩
  | cons effect rest => exact Or.inr ⟨running.1, running.2, effect, rest, rfl, by rw [childStep, if_neg idle, steps]⟩

theorem own_key (slot : Slot) (forked : slot.forked = true) : ∃ name, (slot.id, name, true) ∈ [slot.key] := by
  refine ⟨slot.name, ?_⟩
  rw [Slot.key, forked]
  exact List.mem_singleton.mpr rfl

theorem keeps_child_step (killed : Bool) : Keeps killed killed childStep := by
  refine ⟨?_, ?_, ?_⟩
  · intro slot
    rcases child_step_cases slot with idle | ⟨_, _, _, last⟩ | ⟨_, _, _, _, _, next⟩
    · rw [idle]
    · rw [last]; rfl
    · rw [next]; rfl
  · intro trace slot inv
    rcases child_step_cases slot with idle | ⟨_, _, steps, last⟩ | ⟨_, running, effect, rest, steps, next⟩
    · rw [idle, List.append_nil]
      exact inv
    · rw [last]
      have later := slot_inv_mono _ trace _ slot inv (List.subset_append_left trace [.ended slot.id slot.status])
      exact ⟨later.cycle, fun _ => ⟨slot.status, List.mem_append_right _ (List.mem_singleton.mpr rfl)⟩, fun _ => rfl,
        fun _ => steps, later.ran, later.succeeded, later.unforked, later.condemned⟩
    · rw [next]
      have later := slot_inv_mono _ trace _ slot inv (List.subset_append_left trace [.child slot.id effect])
      refine ⟨?_, later.endedSeen, later.doneEnded, ?_, ?_, later.succeeded, later.unforked, later.condemned⟩
      · intro other member
        exact inv.cycle other (by rw [steps]; exact List.mem_cons_of_mem _ member)
      · intro ended
        exact absurd (running.symm.trans ended) Bool.false_ne_true
      · intro exited
        obtain ⟨command, unrun | seen⟩ := later.ran exited
        · rw [steps] at unrun
          rcases List.mem_cons.mp unrun with now | afterwards
          · exact ⟨command, Or.inr (List.mem_append_right _ (by rw [now]; exact List.mem_singleton.mpr rfl))⟩
          · exact ⟨command, Or.inl afterwards⟩
        · exact ⟨command, Or.inr seen⟩
  · intro trace slot inv event member
    rcases child_step_cases slot with idle | ⟨forked, _, _, last⟩ | ⟨forked, _, effect, rest, steps, next⟩
    · rw [idle] at member
      cases member
    · rw [last] at member
      rw [List.mem_singleton.mp member]
      exact own_key slot forked
    · rw [next] at member
      rw [List.mem_singleton.mp member]
      exact ⟨own_key slot forked, inv.cycle effect (by rw [steps]; exact List.mem_cons_self ..)⟩

theorem signal_child_cases (run : GroupRun) (slot : Slot) :
    (signalChild run slot = (slot, []) ∧ (slot.forked = true → slot.ended = true)) ∨
      (slot.forked = true ∧ slot.ended = false ∧
        signalChild run slot = ({ slot with remaining := [], status := .signalled, ended := true },
          ((strandedShell run slot).map (.orphaned slot.id)).toList ++ [.ended slot.id .signalled])) := by
  by_cases idle : (!slot.forked || slot.ended) = true
  · refine Or.inl ⟨by rw [signalChild, if_pos idle], ?_⟩
    intro forked
    simpa [forked] using idle
  · have running : slot.forked = true ∧ slot.ended = false := by simpa using idle
    exact Or.inr ⟨running.1, running.2, by rw [signalChild, if_neg idle]⟩

theorem stranded_shell_next (run : GroupRun) (slot : Slot) (shell : Effect) (stranded : strandedShell run slot = some shell) :
    shell ∈ slot.remaining := by
  rw [strandedShell] at stranded
  by_cases outlives : run.outlives slot.id.index = true
  · rw [if_pos outlives] at stranded
    exact List.mem_of_mem_head? (Option.filter_eq_some_iff.mp stranded).1
  · rw [if_neg outlives] at stranded
    cases stranded

theorem keeps_signal_child (killed : Bool) (run : GroupRun) : Keeps killed killed (signalChild run) := by
  refine ⟨?_, ?_, ?_⟩
  · intro slot
    rcases signal_child_cases run slot with ⟨idle, _⟩ | ⟨_, _, hit⟩
    · rw [idle]
    · rw [hit]; rfl
  · intro trace slot inv
    rcases signal_child_cases run slot with ⟨idle, _⟩ | ⟨_, running, hit⟩
    · rw [idle, List.append_nil]
      exact inv
    · rw [hit]
      refine ⟨nofun, ?_, fun _ => rfl, fun _ => rfl, nofun, ?_, inv.unforked, inv.condemned⟩
      · exact fun _ => ⟨.signalled, List.mem_append_right _ (List.mem_append_right _ (List.mem_singleton.mpr rfl))⟩
      · intro done _
        exact absurd (running.symm.trans (inv.doneEnded done)) Bool.false_ne_true
  · intro trace slot inv event member
    rcases signal_child_cases run slot with ⟨idle, _⟩ | ⟨forked, _, hit⟩
    · rw [idle] at member
      cases member
    · rw [hit] at member
      rcases List.mem_append.mp member with left | last
      · obtain ⟨shell, stranded, rfl⟩ := Option.map_eq_some_iff.mp (Option.mem_toList.mp left)
        exact ⟨own_key slot forked, inv.cycle shell (stranded_shell_next run slot shell stranded)⟩
      · rw [List.mem_singleton.mp last]
        exact own_key slot forked

theorem keeps_move_child (killed : Bool) (run : GroupRun) (move : Move) : Keeps killed killed (moveChild run move) := by
  cases move with
  | step _ => exact keeps_child_step killed
  | signal _ => exact keeps_signal_child killed run

theorem moved_schedule (killed : Bool) (run : GroupRun) (slots : List Slot) (schedule : List Move) :
    Moved killed killed slots (runSchedule run slots schedule) := by
  induction schedule generalizing slots with
  | nil => exact moved_nothing killed slots
  | cons move rest ih =>
    rw [runSchedule]
    cases found : slots[move.index]? with
    | none => exact ih slots
    | some slot =>
      exact moved_trans killed killed killed slots _ _
        (moved_one killed (moveChild run move) (keeps_move_child killed run move) slots move.index slot found) (ih _)

theorem drain_cases (slot : Slot) :
    (drain slot = (slot, []) ∧ (slot.forked = true → slot.ended = true)) ∨
      (slot.forked = true ∧ slot.ended = false ∧
        drain slot = ({ slot with remaining := [], ended := true },
          slot.remaining.map (.child slot.id) ++ [.ended slot.id slot.status])) := by
  by_cases idle : (!slot.forked || slot.ended) = true
  · refine Or.inl ⟨by rw [drain, if_pos idle], ?_⟩
    intro forked
    simpa [forked] using idle
  · have running : slot.forked = true ∧ slot.ended = false := by simpa using idle
    exact Or.inr ⟨running.1, running.2, by rw [drain, if_neg idle]⟩

theorem keeps_drain (killed : Bool) : Keeps killed killed drain := by
  refine ⟨?_, ?_, ?_⟩
  · intro slot
    rcases drain_cases slot with ⟨idle, _⟩ | ⟨_, _, run⟩
    · rw [idle]
    · rw [run]; rfl
  · intro trace slot inv
    rcases drain_cases slot with ⟨idle, _⟩ | ⟨_, running, run⟩
    · rw [idle, List.append_nil]
      exact inv
    · rw [run]
      have later := slot_inv_mono _ trace _ slot inv (List.subset_append_left trace
        (slot.remaining.map (.child slot.id) ++ [.ended slot.id slot.status]))
      refine ⟨nofun, ?_, fun _ => rfl, fun _ => rfl, ?_, later.succeeded, later.unforked, later.condemned⟩
      · exact fun _ => ⟨slot.status, List.mem_append_right _ (List.mem_append_right _ (List.mem_singleton.mpr rfl))⟩
      · intro exited
        obtain ⟨command, unrun | seen⟩ := later.ran exited
        · refine ⟨command, Or.inr (List.mem_append_right _ (List.mem_append_left _ ?_))⟩
          exact List.mem_map_of_mem unrun
        · exact ⟨command, Or.inr seen⟩
  · intro trace slot inv event member
    rcases drain_cases slot with ⟨idle, _⟩ | ⟨forked, _, run⟩
    · rw [idle] at member
      cases member
    · rw [run] at member
      rcases List.mem_append.mp member with step | last
      · obtain ⟨effect, present, rfl⟩ := List.mem_map.mp step
        exact ⟨own_key slot forked, inv.cycle effect present⟩
      · rw [List.mem_singleton.mp last]
        exact own_key slot forked

theorem wait_child_cases (group : Group) (waitFails : List Nat) (slot : Slot) :
    waitChild group waitFails slot = (slot, []) ∨
      (slot.forked = true ∧ slot.ended = true ∧ ∃ status,
        waitChild group waitFails slot =
          ({ slot with done := true, outcome := if slot.status = .exited 0 then 0 else 1 },
            [.worker (.report group.name slot.name status)])) := by
  by_cases skipped : (slot.done || !slot.forked) = true
  · exact Or.inl (by rw [waitChild, if_pos skipped])
  by_cases reported : (slot.ended && !waitFails.contains slot.id.index) = true
  · right
    have ended : slot.ended = true := (Bool.and_eq_true_iff.mp reported).1
    have forked : slot.forked = true := by
      by_contra unforked
      exact skipped (by simp [unforked])
    refine ⟨forked, ended, if slot.status = .exited 0 then "completed" else "failed", ?_⟩
    rw [waitChild, if_neg skipped, if_pos reported]
    by_cases ok : slot.status = .exited 0 <;> simp only [ok, decide_true, decide_false, if_true, Bool.false_eq_true, if_false]
  · exact Or.inl (by rw [waitChild, if_neg skipped, if_neg reported])

theorem keeps_wait_child (group : Group) (waitFails : List Nat) : Keeps false false (waitChild group waitFails) := by
  refine ⟨?_, ?_, ?_⟩
  · intro slot
    rcases wait_child_cases group waitFails slot with idle | ⟨_, _, _, waited⟩
    · rw [idle]
    · rw [waited]; rfl
  · intro trace slot inv
    rcases wait_child_cases group waitFails slot with idle | ⟨forked, ended, status, waited⟩
    · rw [idle, List.append_nil]
      exact inv
    · rw [waited]
      have later := slot_inv_mono _ trace _ slot inv (List.subset_append_left trace
        [.worker (.report group.name slot.name status)])
      refine ⟨later.cycle, later.endedSeen, fun _ => ended, later.endedEmpty, later.ran, ?_, ?_, nofun⟩
      · intro _ zero
        by_contra failed
        simp only [failed, if_false] at zero
        cases zero
      · intro unforked
        exact absurd (forked.symm.trans unforked) nofun
  · intro trace slot inv event member
    rcases wait_child_cases group waitFails slot with idle | ⟨_, _, status, waited⟩
    · rw [idle] at member
      cases member
    · rw [waited] at member
      rw [List.mem_singleton.mp member]
      trivial

theorem kill_straggler_cases (group : Group) (run : GroupRun) (slot : Slot) :
    (killStraggler group run slot = (slot, []) ∧ (slot.forked = true → slot.done = true)) ∨
      (slot.forked = true ∧ slot.done = false ∧ ∃ hit, (hit = signalChild run slot ∨ hit = (slot, [])) ∧
        killStraggler group run slot = ({ hit.1 with outcome := 2 },
          .killed slot.id :: hit.2 ++ [.worker (.report group.name slot.name "killed (timeout)")])) := by
  by_cases skipped : (slot.done || !slot.forked) = true
  · refine Or.inl ⟨by rw [killStraggler, if_pos skipped], ?_⟩
    intro forked
    simpa [forked] using skipped
  · have running : slot.done = false ∧ slot.forked = true := by simpa using skipped
    refine Or.inr ⟨running.2, running.1, if run.sigtermKills then signalChild run slot else (slot, []), ?_,
      by rw [killStraggler, if_neg skipped]⟩
    by_cases kills : run.sigtermKills = true
    · exact Or.inl (if_pos kills)
    · exact Or.inr (if_neg kills)

theorem slot_inv_hit (trace : List TraceEvent) (run : GroupRun) (slot : Slot) (hit : Slot × List TraceEvent)
    (inv : SlotInv false trace slot) (how : hit = signalChild run slot ∨ hit = (slot, [])) :
    hit.1.key = slot.key ∧ SlotInv false (trace ++ hit.2) hit.1 ∧ ∀ event ∈ hit.2, event.OfSlots [slot.key] := by
  rcases how with rfl | rfl
  · have keeps := keeps_signal_child false run
    exact ⟨keeps.key slot, keeps.inv trace slot inv, keeps.events trace slot inv⟩
  · exact ⟨rfl, by rwa [List.append_nil], nofun⟩

theorem keeps_kill_straggler (group : Group) (run : GroupRun) : Keeps false true (killStraggler group run) := by
  refine ⟨?_, ?_, ?_⟩
  · intro slot
    rcases kill_straggler_cases group run slot with ⟨idle, _⟩ | ⟨_, _, hit, rfl | rfl, killed⟩
    · rw [idle]
    · rw [killed]
      exact (keeps_signal_child false run).key slot
    · rw [killed]; rfl
  · intro trace slot inv
    rcases kill_straggler_cases group run slot with ⟨idle, settled⟩ | ⟨forked, running, hit, how, killed⟩
    · rw [idle, List.append_nil]
      refine ⟨inv.cycle, inv.endedSeen, inv.doneEnded, inv.endedEmpty, inv.ran, inv.succeeded, inv.unforked, ?_⟩
      intro _ forked waiting
      exact absurd ((settled forked).symm.trans waiting) nofun
    · rw [killed]
      obtain ⟨key, invHit, _⟩ := slot_inv_hit trace run slot hit inv how
      have stillForked : hit.1.forked = true := (congrArg (fun key => key.2.2) key).trans forked
      have later := slot_inv_mono false (trace ++ hit.2)
        (trace ++ (.killed slot.id :: hit.2 ++ [.worker (.report group.name slot.name "killed (timeout)")])) hit.1 invHit
        (by intro event; simp only [List.mem_append, List.mem_cons]; tauto)
      refine ⟨later.cycle, later.endedSeen, later.doneEnded, later.endedEmpty, later.ran, fun _ => nofun, ?_,
        fun _ _ _ => rfl⟩
      exact fun unforked => absurd (stillForked.symm.trans unforked) nofun
  · intro trace slot inv event member
    rcases kill_straggler_cases group run slot with ⟨idle, _⟩ | ⟨forked, _, hit, how, killed⟩
    · rw [idle] at member
      cases member
    · rw [killed] at member
      rcases List.mem_append.mp member with early | last
      · rcases List.mem_cons.mp early with first | hitEvent
        · rw [first]
          exact own_key slot forked
        · exact (slot_inv_hit trace run slot hit inv how).2.2 event hitEvent
      · rw [List.mem_singleton.mp last]
        trivial

theorem reap_straggler_cases (slot : Slot) :
    (reapStraggler slot = (slot, []) ∧ (slot.forked = true → slot.done = true)) ∨
      (slot.forked = true ∧ slot.done = false ∧
        reapStraggler slot = ({ (drain slot).1 with done := true }, (drain slot).2)) := by
  by_cases skipped : (slot.done || !slot.forked) = true
  · refine Or.inl ⟨by rw [reapStraggler, if_pos skipped], ?_⟩
    intro forked
    simpa [forked] using skipped
  · have running : slot.done = false ∧ slot.forked = true := by simpa using skipped
    exact Or.inr ⟨running.2, running.1, by rw [reapStraggler, if_neg skipped]⟩

theorem drain_ends (slot : Slot) (forked : slot.forked = true) : (drain slot).1.ended = true := by
  rcases drain_cases slot with ⟨idle, settled⟩ | ⟨_, _, run⟩
  · rw [idle]
    exact settled forked
  · rw [run]

theorem drain_keeps_outcome (slot : Slot) :
    (drain slot).1.outcome = slot.outcome ∧ (drain slot).1.done = slot.done ∧ (drain slot).1.forked = slot.forked := by
  rcases drain_cases slot with ⟨idle, _⟩ | ⟨_, _, run⟩
  · rw [idle]
    exact ⟨rfl, rfl, rfl⟩
  · rw [run]
    exact ⟨rfl, rfl, rfl⟩

-- The events of children that are left to themselves, and of the scans for their ends.
def TraceEvent.Undisturbed : TraceEvent → Prop
  | .worker _ | .child _ _ | .ended _ _ => True
  | .forked _ | .killed _ | .orphaned _ _ => False

theorem child_step_undisturbed (slot : Slot) : ∀ event ∈ (childStep slot).2, event.Undisturbed := by
  rcases child_step_cases slot with idle | ⟨_, _, _, last⟩ | ⟨_, _, _, _, _, next⟩
  · simp [idle]
  · simp [last, TraceEvent.Undisturbed]
  · simp [next, TraceEvent.Undisturbed]

theorem drain_undisturbed (slot : Slot) : ∀ event ∈ (drain slot).2, event.Undisturbed := by
  intro event member
  rcases drain_cases slot with ⟨idle, _⟩ | ⟨_, _, run⟩
  · rw [idle] at member
    cases member
  · rw [run] at member
    rcases List.mem_append.mp member with step | last
    · obtain ⟨effect, _, rfl⟩ := List.mem_map.mp step
      trivial
    · rw [List.mem_singleton.mp last]
      trivial

theorem wait_child_undisturbed (group : Group) (waitFails : List Nat) (slot : Slot) :
    ∀ event ∈ (waitChild group waitFails slot).2, event.Undisturbed := by
  rcases wait_child_cases group waitFails slot with idle | ⟨_, _, _, waited⟩
  · simp [idle]
  · simp [waited, TraceEvent.Undisturbed]

theorem reap_straggler_undisturbed (slot : Slot) : ∀ event ∈ (reapStraggler slot).2, event.Undisturbed := by
  rcases reap_straggler_cases slot with ⟨idle, _⟩ | ⟨_, _, reaped⟩
  · simp [idle]
  · rw [reaped]
    exact drain_undisturbed slot

theorem keeps_reap_straggler : Keeps true true reapStraggler := by
  refine ⟨?_, ?_, ?_⟩
  · intro slot
    rcases reap_straggler_cases slot with ⟨idle, _⟩ | ⟨_, _, reaped⟩
    · rw [idle]
    · rw [reaped]
      exact (keeps_drain true).key slot
  · intro trace slot inv
    rcases reap_straggler_cases slot with ⟨idle, _⟩ | ⟨forked, waiting, reaped⟩
    · rw [idle, List.append_nil]
      exact inv
    · rw [reaped]
      have later := (keeps_drain true).inv trace slot inv
      have condemned := inv.condemned rfl forked waiting
      refine ⟨later.cycle, later.endedSeen, fun _ => drain_ends slot forked, later.endedEmpty, later.ran, ?_,
        later.unforked, fun _ _ => nofun⟩
      intro _ zero
      rw [(drain_keeps_outcome slot).1, condemned] at zero
      cases zero
  · intro trace slot inv event member
    rcases reap_straggler_cases slot with ⟨idle, _⟩ | ⟨_, _, reaped⟩
    · rw [idle] at member
      cases member
    · rw [reaped] at member
      exact (keeps_drain true).events trace slot inv event member

theorem moved_sleep (killed : Bool) (slots : List Slot) (seconds : Int) :
    Moved killed killed slots (slots, [.worker (.sleep seconds)]) := by
  refine ⟨rfl, ?_, ?_⟩
  · intro trace inv slot member
    exact slot_inv_mono killed _ _ slot (inv slot member) (List.subset_append_left _ _)
  · intro _ _ event member
    rw [List.mem_singleton.mp member]
    trivial

theorem moved_turn (group : Group) (run : GroupRun) (poll : Poll) (slots : List Slot) :
    Moved false false slots
      ((each (waitChild group poll.waitFails) (runSchedule run slots poll.schedule).1).1,
        (runSchedule run slots poll.schedule).2 ++ (each (waitChild group poll.waitFails) (runSchedule run slots poll.schedule).1).2) :=
  moved_trans false false false slots _ _ (moved_schedule false run slots poll.schedule)
    (moved_each false false _ (keeps_wait_child group poll.waitFails) _)

theorem moved_wait_loop (group : Group) (run : GroupRun) (polls : List Poll) (slots : List Slot) :
    ∃ killed, Moved false killed slots (waitLoop group run polls slots) := by
  induction polls generalizing slots with
  | nil =>
    refine ⟨false, ?_⟩
    exact moved_trans false false false slots _ _ (moved_each false false drain (keeps_drain false) slots)
      (moved_each false false _ (keeps_wait_child group []) _)
  | cons poll rest ih =>
    have turn := moved_turn group run poll slots
    simp only [waitLoop]
    split
    · exact ⟨false, turn⟩
    split
    · refine ⟨true, ?_⟩
      have killed := moved_trans false false true slots _ _ turn
        (moved_each false true _ (keeps_kill_straggler group run) _)
      have running := moved_trans false true true slots _ _ killed
        (moved_schedule true run _ run.reap)
      exact moved_trans false true true slots _ _ running (moved_each true true _ keeps_reap_straggler _)
    · obtain ⟨killed, later⟩ := ih (each (waitChild group poll.waitFails) (runSchedule run slots poll.schedule).1).1
      have slept := moved_trans false false false slots _ _ turn (moved_sleep false _ 1)
      exact ⟨killed, moved_trans false false killed slots _ _ slept later⟩

theorem wait_loop_all_done (group : Group) (run : GroupRun) (polls : List Poll) (slots : List Slot) :
    ∀ slot ∈ (waitLoop group run polls slots).1, slot.forked = true → slot.done = true := by
  induction polls generalizing slots with
  | nil =>
    intro slot member forked
    simp only [waitLoop, each, List.map_map, List.mem_map, Function.comp] at member
    obtain ⟨original, _, rfl⟩ := member
    have key := congrArg (fun key => key.2.2) ((keeps_wait_child group []).key (drain original).1)
    have drainedForked : (drain original).1.forked = true := key.symm.trans forked
    have ended := drain_ends original ((drain_keeps_outcome original).2.2.symm.trans drainedForked)
    rw [waitChild]
    by_cases done : (drain original).1.done = true
    · simp only [done, Bool.true_or, if_true]
    · simp [done, drainedForked, ended]
  | cons poll rest ih =>
    simp only [waitLoop]
    split
    · rename_i finished
      intro slot member forked
      have settled := List.all_eq_true.mp finished slot member
      simpa [forked] using settled
    split
    · intro slot member forked
      obtain ⟨original, _, rfl⟩ := List.mem_map.mp member
      rcases reap_straggler_cases original with ⟨idle, settled⟩ | ⟨_, _, reaped⟩
      · rw [idle] at forked ⊢
        exact settled forked
      · rw [reaped]
    · exact ih _

end AiriesUps.Shutdown
