import AiriesUps.Ups.Descriptors

set_option autoImplicit false

namespace AiriesUps.Ups

-- Whoever may still dereference a descriptor holds one of the live set.
def PointersCurrent (readers : List Reader) (sets : RegSets) : Prop :=
  ∀ reader ∈ readers, reader.script.needs = true → sets.current.isSome = true ∧ reader.pointer = sets.current

-- The thread inside cmd_mutex is inside the call its script is at.
def Engaged (readers : List Reader) (registry : Registry) : Prop :=
  ∀ holder, registry.holder = some holder → ∃ succeeded failed pointer rc,
    readers[holder.thread]? = some ⟨.call holder.op succeeded failed, pointer, some rc⟩

structure Held (state : Descriptors) : Prop where
  engaged : Engaged state.readers state.registry
  pointers : PointersCurrent state.readers state.sets
  uses : ∀ access ∈ state.uses, access.live = true

theorem routine_needs_nothing (routine : Routine) : routine.script.needs = false := by
  cases routine <;> rfl

theorem use_needs (next : Script) : (Script.use next).needs = true := rfl

theorem returns_needs (reader : Reader) (needs : reader.returns.script.needs = true) : reader.script.needs = true := by
  rw [Reader.returns] at needs
  split at needs
  · rename_i op succeeded failed rc atCall _
    rw [atCall, Script.needs]
    cases rc with
    | true => simp_all
    | false => simp_all
  · exact needs

theorem returns_pointer (reader : Reader) : reader.returns.pointer = reader.pointer := by
  rw [Reader.returns]
  split <;> rfl

theorem pointers_change (readers : List Reader) (sets : RegSets) (thread : Nat) (change : Reader → Reader) (reader : Reader)
    (found : readers[thread]? = some reader) (pointers : PointersCurrent readers sets)
    (moved : (change reader).script.needs = true → sets.current.isSome = true ∧ (change reader).pointer = sets.current) :
    PointersCurrent (readers.modify thread change) sets := by
  intro changed member needs
  obtain rfl | kept := Tables.changed_member readers thread change _ changed found member
  · exact moved needs
  · exact pointers changed kept needs

theorem pointers_shrink (readers : List Reader) (sets : RegSets) (thread : Nat) (change : Reader → Reader) (reader : Reader)
    (found : readers[thread]? = some reader) (pointers : PointersCurrent readers sets)
    (fewer : (change reader).script.needs = true → reader.script.needs = true)
    (same : (change reader).pointer = reader.pointer) : PointersCurrent (readers.modify thread change) sets :=
  pointers_change readers sets thread change reader found pointers fun needs => by
    obtain ⟨live, current⟩ := pointers reader (List.mem_of_getElem? found) (fewer needs)
    exact ⟨live, same.trans current⟩

theorem pointers_unneeded (readers : List Reader) (sets : RegSets)
    (unheld : ∀ reader ∈ readers, reader.script.needs = false) : PointersCurrent readers sets := by
  intro reader member needs
  rw [unheld reader member] at needs
  cases needs

theorem engaged_change (readers : List Reader) (registry : Registry) (thread : Nat) (change : Reader → Reader)
    (reader : Reader) (found : readers[thread]? = some reader) (outside : reader.result = none)
    (engaged : Engaged readers registry) : Engaged (readers.modify thread change) registry := by
  intro holder held
  obtain ⟨succeeded, failed, pointer, rc, inside⟩ := engaged holder held
  have other : thread ≠ holder.thread := by
    rintro rfl
    rw [found, Option.some.injEq] at inside
    rw [inside] at outside
    cases outside
  exact ⟨succeeded, failed, pointer, rc, by rw [List.getElem?_modify_ne change readers other, inside]⟩

-- The thread inside cmd_mutex stays there with its call, or leaves.
def StaysOrLeaves (holder : Holder) (next : Registry) : Prop :=
  next.holder = none ∨ ∃ phase, next.holder = some { holder with phase := phase }

theorem goto_stays (state : Registry) (holder : Holder) (phase : Phase) : StaysOrLeaves holder (state.goto holder phase) :=
  Or.inr ⟨phase, rfl⟩

theorem advance_stays_or_leaves (driver : Driver) (state : Registry) (holder : Holder) (ok : Bool) (now : Int) :
    StaysOrLeaves holder (advance driver state holder ok now) := by
  rw [advance]
  cases holder.phase with
  | ensuring =>
    dsimp only
    split
    · exact goto_stays _ _ _
    · rw [tryReconnect]
      split
      · exact goto_stays _ _ _
      · split <;> exact goto_stays _ _ _
  | connecting =>
    dsimp only
    split <;> exact goto_stays _ _ _
  | invoking =>
    dsimp only
    split
    · split <;> exact goto_stays _ _ _
    · exact goto_stays _ _ _
  | failed =>
    dsimp only
    rw [handleError]
    dsimp only
    split <;> exact goto_stays _ _ _
  | leaving => exact Or.inl rfl
  | _ => exact goto_stays _ _ _

theorem engaged_advance (driver : Driver) (readers : List Reader) (state : Registry) (holder : Holder) (ok : Bool) (now : Int)
    (held : state.holder = some holder) (engaged : Engaged readers state) :
    Engaged readers (advance driver state holder ok now) := by
  intro later heldLater
  obtain left | ⟨phase, same⟩ := advance_stays_or_leaves driver state holder ok now
  · rw [left] at heldLater
    cases heldLater
  · rw [same, Option.some.injEq] at heldLater
    subst heldLater
    exact engaged holder held

theorem engaged_enters (readers : List Reader) (registry : Registry) (thread : Nat) (rc : Bool)
    (engaged : Engaged readers registry) : Engaged (readers.modify thread (Reader.enters rc)) registry := by
  intro holder held
  obtain ⟨succeeded, failed, pointer, before, inside⟩ := engaged holder held
  by_cases same : thread = holder.thread
  · subst same
    exact ⟨succeeded, failed, pointer, rc, Tables.modify_same readers holder.thread (Reader.enters rc) _ inside⟩
  · exact ⟨succeeded, failed, pointer, before, by rw [List.getElem?_modify_ne (Reader.enters rc) readers same, inside]⟩

theorem held_script (state : Descriptors) (thread : Nat) (change : Reader → Reader) (reader : Reader) (held : Held state)
    (found : state.readers[thread]? = some reader) (outside : reader.result = none)
    (moved : (change reader).script.needs = true →
      state.sets.current.isSome = true ∧ (change reader).pointer = state.sets.current) : Held (state.change thread change) :=
  ⟨engaged_change state.readers state.registry thread change reader found outside held.engaged,
    pointers_change state.readers state.sets thread change reader found held.pointers moved, held.uses⟩

theorem held_dereference (state : Descriptors) (thread : Nat) (pointer : Option RegSet) (held : Held state)
    (live : state.sets.current.isSome = true) (same : pointer = state.sets.current) :
    Held (state.dereference thread pointer) := by
  refine ⟨held.engaged, held.pointers, ?_⟩
  intro access member
  obtain old | new := List.mem_append.mp member
  · exact held.uses access old
  · rw [List.mem_singleton.mp new]
    simp [same, live]

theorem held_use (state : Descriptors) (thread : Nat) (next : Script) (pointer : Option RegSet) (held : Held state)
    (found : state.readers[thread]? = some ⟨.use next, pointer, none⟩) :
    Held ((state.dereference thread pointer).change thread (Reader.goto next)) := by
  obtain ⟨live, same⟩ := held.pointers _ (List.mem_of_getElem? found) (use_needs next)
  exact held_script _ thread (Reader.goto next) _ (held_dereference state thread pointer held live same) found rfl
    (fun _ => ⟨live, same⟩)

-- The array that is fetched is the live set, except between the free and the NULL.
theorem held_get (state : Descriptors) (thread : Nat) (next : Script) (pointer : Option RegSet) (held : Held state)
    (found : state.readers[thread]? = some ⟨.get next, pointer, none⟩) (live : state.sets.current.isSome = true) :
    Held (state.change thread (Reader.fetches state.sets.fetch next)) := by
  have fetched : some state.sets.fetch = state.sets.current := by
    rw [RegSets.current] at live ⊢
    split at live
    · cases live
    · rename_i steady
      rw [if_neg steady]
  exact held_script state thread _ _ held found rfl (fun _ => ⟨live, fetched⟩)

theorem held_registry (state : Descriptors) (registry : Registry) (held : Held state)
    (same : registry.holder = state.registry.holder) : Held { state with registry := registry } := by
  refine ⟨?_, held.pointers, held.uses⟩
  intro holder found
  exact held.engaged holder (same.symm.trans found)

theorem held_call (driver : Driver) (state : Descriptors) (registry : Registry) (thread : Nat) (op : Op)
    (succeeded failed : Script) (pointer : Option RegSet) (held : Held state)
    (found : state.readers[thread]? = some ⟨.call op succeeded failed, pointer, none⟩)
    (taken : state.registry.step driver (.call thread op) = some registry) :
    Held ({ state with registry := registry }.change thread (Reader.enters false)) := by
  simp only [Registry.step, Option.ite_none_right_eq_some, Option.some.injEq] at taken
  obtain ⟨_, rfl⟩ := taken
  refine ⟨?_, ?_, held.uses⟩
  · intro holder entered
    cases entered
    exact ⟨succeeded, failed, pointer, false, Tables.modify_same state.readers thread (Reader.enters false) _ found⟩
  · exact pointers_shrink state.readers state.sets thread (Reader.enters false) _ found held.pointers id rfl

-- The register part of ups_resolve_runtime: the step that replaces the set is taken
-- when nobody needs a descriptor, and the others leave the live set as it is.
theorem pointers_resolve (readers : List Reader) (sets next : RegSets) (replaces : Bool) (pointers : PointersCurrent readers sets)
    (unheld : replaces = true → ∀ reader ∈ readers, reader.script.needs = false)
    (same : replaces = false → sets.current.isSome = true → next.current = sets.current) : PointersCurrent readers next := by
  cases replaces with
  | true => exact pointers_unneeded readers next (unheld rfl)
  | false =>
    intro reader member needs
    obtain ⟨live, current⟩ := pointers reader member needs
    rw [same rfl live]
    exact ⟨live, current⟩

theorem held_resolve (driver : Driver) (state : Descriptors) (holder : Holder) (id : Nat) (ok : Bool) (now : Int) (kept : Bool)
    (held : Held state) (inside : state.registry.holder = some holder) (phase : holder.phase = .resolvingRegs id)
    (unheld : state.replaces driver ok kept = true → ∀ reader ∈ state.readers, reader.script.needs = false) :
    Held (advanceCall driver state holder ok now kept) := by
  have moved := engaged_advance driver state.readers state.registry holder ok now inside held.engaged
  obtain ⟨thread, op, at_⟩ := holder
  cases phase
  rw [Descriptors.replaces, inside] at unheld
  rw [advanceCall]
  cases pc : state.sets.pc with
  | idle =>
    rw [pc] at unheld
    refine ⟨held.engaged, pointers_resolve state.readers state.sets _ _ held.pointers unheld ?_, held.uses⟩
    intro static _
    simp_all [RegSets.current, RegSets.fetch]
  | freed =>
    refine ⟨held.engaged, pointers_resolve state.readers state.sets _ false held.pointers nofun ?_, held.uses⟩
    intro _ live
    cases pointer : state.sets.resolved with
    | none => simp [RegSets.current, RegSets.fetch, pointer]
    | some block => simp [RegSets.current, pc, pointer] at live
  | cleared =>
    rw [pc] at unheld
    refine ⟨moved, pointers_resolve state.readers state.sets _ _ held.pointers unheld ?_, held.uses⟩
    intro none_ _
    simp [RegSets.assign, none_, RegSets.current, RegSets.fetch, pc]

theorem held_invoking (driver : Driver) (state : Descriptors) (holder : Holder) (ok : Bool) (now : Int) (kept : Bool)
    (held : Held state) (inside : state.registry.holder = some holder) (phase : holder.phase = .invoking) :
    Held (advanceCall driver state holder ok now kept) := by
  have moved : Held { state with registry := advance driver state.registry holder ok now } :=
    ⟨engaged_advance driver state.readers state.registry holder ok now inside held.engaged, held.pointers, held.uses⟩
  obtain ⟨succeeded, failed, pointer, rc, found⟩ := held.engaged holder inside
  have enters : ∀ after : Descriptors, after.readers = state.readers → Held after →
      Held (after.change holder.thread (Reader.enters ok)) := fun after same heldAfter =>
    ⟨engaged_enters after.readers after.registry holder.thread ok heldAfter.engaged,
      pointers_shrink after.readers after.sets holder.thread (Reader.enters ok) _ (same ▸ found) heldAfter.pointers id rfl,
      heldAfter.uses⟩
  simp only [advanceCall, phase, found, Option.bind_some]
  apply enters
  · split <;> rfl
  · split
    · rename_i takes
      have needs : (Script.call holder.op succeeded failed).needs = true := by simp [Script.needs, takes]
      obtain ⟨live, same⟩ := held.pointers _ (List.mem_of_getElem? found) needs
      exact held_dereference _ holder.thread pointer moved live same
    · exact moved

theorem held_leaving (driver : Driver) (state : Descriptors) (holder : Holder) (ok : Bool) (now : Int) (kept : Bool)
    (held : Held state) (inside : state.registry.holder = some holder) (phase : holder.phase = .leaving) :
    Held (advanceCall driver state holder ok now kept) := by
  obtain ⟨succeeded, failed, pointer, rc, found⟩ := held.engaged holder inside
  simp only [advanceCall, phase]
  refine ⟨?_, ?_, held.uses⟩
  · intro later entered
    simp [Descriptors.change, advance, phase] at entered
  · exact pointers_shrink state.readers state.sets holder.thread Reader.returns _ found held.pointers
      (returns_needs _) (returns_pointer _)

theorem held_advance (driver : Driver) (state : Descriptors) (holder : Holder) (ok : Bool) (now : Int) (kept : Bool)
    (held : Held state) (inside : state.registry.holder = some holder)
    (unheld : state.replaces driver ok kept = true → ∀ reader ∈ state.readers, reader.script.needs = false) :
    Held (advanceCall driver state holder ok now kept) := by
  have moved : Held { state with registry := advance driver state.registry holder ok now } :=
    ⟨engaged_advance driver state.readers state.registry holder ok now inside held.engaged, held.pointers, held.uses⟩
  cases phase : holder.phase with
  | resolvingRegs id => exact held_resolve driver state holder id ok now kept held inside phase unheld
  | invoking => exact held_invoking driver state holder ok now kept held inside phase
  | leaving => exact held_leaving driver state holder ok now kept held inside phase
  | _ => simpa only [advanceCall, phase] using moved

theorem held_step (driver : Driver) (state next : Descriptors) (label : DescLabel) (held : Held state)
    (unheld : Unheld driver state label) (taken : state.step driver label = some next) : Held next := by
  cases label with
  | start thread routine =>
    simp only [Descriptors.step] at taken
    split at taken
    · rename_i pointer found
      cases taken
      have idle : (Reader.goto routine.script ⟨.done, pointer, none⟩).script.needs = false := routine_needs_nothing routine
      exact held_script state thread _ _ held found rfl fun needs => by simp [idle] at needs
    · cases taken
  | get thread =>
    simp only [Descriptors.step] at taken
    split at taken
    · rename_i next pointer found
      cases taken
      exact held_get state thread next pointer held found unheld
    · cases taken
  | use thread =>
    simp only [Descriptors.step] at taken
    split at taken
    · rename_i next pointer found
      cases taken
      exact held_use state thread next pointer held found
    · cases taken
  | begin thread =>
    simp only [Descriptors.step] at taken
    split at taken
    · rename_i op succeeded failed pointer found
      split at taken
      · obtain ⟨registry, called, rfl⟩ := Option.map_eq_some_iff.mp taken
        exact held_call driver state registry thread op succeeded failed pointer held found called
      · cases taken
        refine held_script state thread _ _ held found rfl fun needs => ?_
        have whole : (Script.call op succeeded failed).needs = true := by
          have part : failed.needs = true := needs
          simp [Script.needs, part]
        exact held.pointers ⟨.call op succeeded failed, pointer, none⟩ (List.mem_of_getElem? found) whole
    · cases taken
  | advance ok now kept =>
    obtain ⟨holder, inside, rfl⟩ := Option.map_eq_some_iff.mp taken
    exact held_advance driver state holder ok now kept held inside unheld
  | topology thread =>
    obtain ⟨registry, called, rfl⟩ := Option.map_eq_some_iff.mp taken
    simp only [Registry.step, Option.ite_none_right_eq_some, Option.some.injEq] at called
    obtain ⟨_, rfl⟩ := called
    exact held_registry state _ held rfl
  | getTopology thread =>
    obtain ⟨registry, called, rfl⟩ := Option.map_eq_some_iff.mp taken
    obtain ⟨entry, _, rfl⟩ := Option.map_eq_some_iff.mp called
    exact held_registry state _ held rfl

theorem open_handle_idle (driver : Driver) (resolves : Bool) (state : Registry) (id : Nat) :
    (openHandle driver resolves state id).holder = state.holder := by
  rw [openHandle]
  dsimp only
  split <;> split <;> split <;> rfl

theorem connect_loop_idle (attempts : List Attempt) (state : Registry) (driver : Driver) (opened : Registry)
    (connected : connectLoop state attempts = some (driver, opened)) : opened.holder = state.holder := by
  induction attempts generalizing state with
  | nil => cases connected
  | cons attempt rest ih =>
    rw [connectLoop] at connected
    split at connected
    · exact ih state connected
    · dsimp only at connected
      split at connected
      · split at connected
        · cases connected
          exact open_handle_idle _ _ _ _
        · cases connected
      · have same := ih _ connected
        split at same <;> exact same

theorem held_opened (attempts : List Attempt) (driver : Driver) (registry : Registry) (kept : Bool) (threads : Nat)
    (connected : upsConnect attempts = some (driver, registry)) : Held (Descriptors.opened driver registry kept threads) := by
  have idle : registry.holder = none := connect_loop_idle attempts .blank driver registry connected
  refine ⟨?_, ?_, nofun⟩
  · intro holder inside
    have absent : registry.holder = some holder := inside
    rw [idle] at absent
    cases absent
  · intro reader member needs
    rw [List.eq_of_mem_replicate member] at needs
    cases needs

-- A run of the readers is a run of the handle, which makes steps of its own in between.
theorem step_of_registry (driver : Driver) (state next : Descriptors) (label : DescLabel)
    (taken : state.step driver label = some next) :
    next.registry = state.registry ∨ ∃ label, state.registry.step driver label = some next.registry := by
  cases label with
  | start thread routine =>
    simp only [Descriptors.step] at taken
    split at taken <;> cases taken
    exact Or.inl rfl
  | get thread =>
    simp only [Descriptors.step] at taken
    split at taken <;> cases taken
    exact Or.inl rfl
  | use thread =>
    simp only [Descriptors.step] at taken
    split at taken <;> cases taken
    exact Or.inl rfl
  | begin thread =>
    simp only [Descriptors.step] at taken
    split at taken
    · split at taken
      · obtain ⟨registry, called, rfl⟩ := Option.map_eq_some_iff.mp taken
        exact Or.inr ⟨_, called⟩
      · cases taken
        exact Or.inl rfl
    · cases taken
  | advance ok now kept =>
    obtain ⟨holder, inside, rfl⟩ := Option.map_eq_some_iff.mp taken
    have stepped : state.registry.step driver (.advance ok now) = some (advance driver state.registry holder ok now) := by
      rw [Registry.step, inside, Option.map_some]
    unfold advanceCall
    cases holder.phase with
    | resolvingRegs id =>
      cases state.sets.pc with
      | idle => exact Or.inl rfl
      | freed => exact Or.inl rfl
      | cleared => exact Or.inr ⟨_, stepped⟩
    | invoking =>
      dsimp only
      split <;> exact Or.inr ⟨_, stepped⟩
    | _ => exact Or.inr ⟨_, stepped⟩
  | topology thread =>
    obtain ⟨registry, called, rfl⟩ := Option.map_eq_some_iff.mp taken
    exact Or.inr ⟨_, called⟩
  | getTopology thread =>
    obtain ⟨registry, called, rfl⟩ := Option.map_eq_some_iff.mp taken
    exact Or.inr ⟨_, called⟩

theorem run_of_registry (driver : Driver) (start final : Descriptors) (labels : List DescLabel)
    (reached : Runs.run (Descriptors.step driver) start labels = some final) :
    ∃ steps, Runs.run (Registry.step driver) start.registry steps = some final.registry :=
  Runs.run_invariant (Descriptors.step driver) start
    (fun _ state => ∃ steps, Runs.run (Registry.step driver) start.registry steps = some state.registry)
    ⟨[], rfl⟩
    (fun _ state label next before taken => by
      obtain ⟨steps, run⟩ := before
      obtain same | ⟨step, stepped⟩ := step_of_registry driver state next label taken
      · exact ⟨steps, by rw [same, run]⟩
      · exact ⟨steps ++ [step], (Runs.run_concat _ _ _ _ _).mpr ⟨state.registry, run, stepped⟩⟩)
    labels final reached

-- A read that fails, one that fails for the fifth time, and one that finds the
-- transport down and reconnects.
def failing (thread : Nat) : List DescLabel :=
  [.begin thread, .advance true 100 true, .advance false 100 true, .advance true 100 true, .advance true 100 true]

def tearingDown (thread : Nat) : List DescLabel :=
  failing thread ++ [.advance true 100 true, .advance true 100 true]

def reconnecting (thread : Nat) : List DescLabel :=
  .begin thread :: List.replicate 10 (.advance true 103 true)

def settings : List Visit :=
  ["transfer_low", "transfer_high", "sensitivity", "alarm_setting", "low_battery_warning", "low_battery_threshold"].map
    fun name => { name := name, config := true, fields := 2 }

-- The snapshot of the monitor while the device is away: five registers fail, the
-- sixth read reconnects, frees the array the loop is walking and hands the driver
-- a descriptor of it.
def snapshotRun : List DescLabel :=
  [.start 0 (.snapshotConfigRegisters settings), .get 0] ++
    (List.replicate 4 (DescLabel.use 0 :: failing 0)).flatten ++ .use 0 :: tearingDown 0 ++ .use 0 :: reconnecting 0

-- The same snapshot, of one register, before the device goes away and after a
-- status read has reconnected it.
def snapshotOnce : List DescLabel :=
  [.start 1 (.snapshotConfigRegisters (settings.take 1)), .get 1, .use 1, .begin 1, .advance true 100 true,
    .advance true 100 true, .advance true 100 true, .use 1, .use 1]

def pollRun : List DescLabel :=
  snapshotOnce ++ (List.replicate 4 (DescLabel.start 0 .readStatus :: failing 0)).flatten ++
    .start 0 .readStatus :: tearingDown 0 ++ .start 0 .readStatus :: reconnecting 0 ++ .advance true 103 true :: snapshotOnce

end AiriesUps.Ups
