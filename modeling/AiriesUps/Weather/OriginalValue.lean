import AiriesUps.Weather.Threads

set_option autoImplicit false

namespace AiriesUps.Weather

open Ups Monitor

-- Points at which the register is back at its original value, whatever the monitor did.
def WeatherPc.settles : WeatherPc → Bool
  | .loaded _ false | .reading | .overriding | .lifting | .unnaming | .uncounting | .ended false => true
  | _ => false

-- The override is in force, and the thread has what it takes to end it.
structure Threads.Recoverable (state : Threads) : Prop where
  saved : state.weather.hasSaved = true
  flag : state.pc.reliesOnFlag = true → state.inhibit.active = true
  source : state.pc.reliesOnSource = true → state.inhibit.source = "weather"

structure Threads.Inv (state : Threads) : Prop where
  target : state.weather.normalRawValue = restoreSavedValue
  recorded : state.overridden = true → state.original.isSome = true
  kept : state.pc ≠ .overriding → state.weather.hasSaved = true →
    state.original = some (state.weather.savedValue.setWidth 32)
  fetched : state.pc = .overriding →
    state.weather.hasSaved = true ∧ state.weather.savedValue.setWidth 32 = state.register
  settled : state.Settled ∨ state.pc.settles = false ∧ state.Recoverable

theorem settled_of_pc (state : Threads) (inv : state.Inv) (settles : state.pc.settles = true) : state.Settled := by
  cases inv.settled with
  | inl settled => exact settled
  | inr armed =>
    rw [settles] at armed
    cases armed.1

theorem initial_inv (severeRawValue : Raw) (register : Word) : (Threads.initial severeRawValue register).Inv := by
  constructor
  · rfl
  · intro overridden
    cases overridden
  · intro _ saved
    cases saved
  · intro fetching
    cases fetching
  · apply Or.inl
    intro value original
    cases original

-- A step of the weather thread that leaves the register and what was saved of it.
theorem inv_of_same_values (state next : Threads) (inv : state.Inv) (weather : next.weather = state.weather)
    (original : next.original = state.original) (overridden : next.overridden = true → state.overridden = true)
    (pc : state.pc ≠ .overriding) (nextPc : next.pc ≠ .overriding)
    (settled : next.Settled ∨ next.pc.settles = false ∧ next.Recoverable) : next.Inv := by
  constructor
  · rw [weather]
    exact inv.target
  · intro flagged
    rw [original]
    exact inv.recorded (overridden flagged)
  · intro _ saved
    rw [weather] at saved ⊢
    rw [original]
    exact inv.kept pc saved
  · intro fetching
    exact absurd fetching nextPc
  · exact settled

theorem inv_monitor (state next : Threads) (inv : state.Inv) (weather : next.weather = state.weather)
    (original : next.original = state.original) (overridden : next.overridden = state.overridden)
    (register : next.register = state.register) (pc : next.pc = state.pc)
    (flag : state.inhibit.active = true → state.pc.reliesOnFlag = true → next.inhibit.active = true ∨ state.Settled)
    (source : state.inhibit.source = "weather" → state.pc.reliesOnSource = true →
      next.inhibit.source = "weather" ∨ state.Settled) : next.Inv := by
  have carry : state.Settled → next.Settled := by
    intro settled value same
    rw [register]
    exact settled value (original ▸ same)
  constructor
  · rw [weather]
    exact inv.target
  · rw [overridden, original]
    exact inv.recorded
  · rw [pc, weather, original]
    exact inv.kept
  · rw [pc, weather, register]
    exact inv.fetched
  · obtain settled | ⟨unsettled, armed⟩ := inv.settled
    · exact Or.inl (carry settled)
    · by_cases settled : state.Settled
      · exact Or.inl (carry settled)
      · apply Or.inr
        rw [pc]
        constructor
        · exact unsettled
        · constructor
          · rw [weather]
            exact armed.saved
          · intro relies
            rw [pc] at relies
            exact (flag (armed.flag relies) relies).resolve_right settled
          · intro relies
            rw [pc] at relies
            exact (source (armed.source relies) relies).resolve_right settled

theorem monitor_step_inv (state next : Threads) (inv : state.Inv) (allowed : state.Undisturbed .monitor)
    (taken : state.monitorStep = some next) : next.Inv := by
  obtain ⟨unflagged, unsourced⟩ := allowed
  rw [Threads.monitorStep] at taken
  split at taken
  · cases taken
  · cases taken
    exact inv_monitor state _ inv rfl rfl rfl rfl rfl (fun active _ => Or.inl active) (fun source _ => Or.inl source)
  · cases taken
    exact inv_monitor state _ inv rfl rfl rfl rfl rfl (fun active _ => Or.inl active) (fun source _ => Or.inl source)
  · rename_i clearing
    cases taken
    exact inv_monitor state _ inv rfl rfl rfl rfl rfl
      (fun active relies => Or.inr (unflagged clearing active relies)) (fun source _ => Or.inl source)
  · rename_i unnaming
    cases taken
    exact inv_monitor state _ inv rfl rfl rfl rfl rfl (fun active _ => Or.inl active)
      (fun source relies => Or.inr (unsourced unnaming source relies))
  · cases taken
    exact inv_monitor state _ inv rfl rfl rfl rfl rfl (fun active _ => Or.inl active) (fun source _ => Or.inl source)

theorem poll_step_inv (state next : Threads) (inv : state.Inv) (heMode engaged : Bool)
    (taken : Threads.step state (.poll heMode engaged) = some next) : next.Inv := by
  rw [Threads.step] at taken
  split at taken
  · split at taken
    · cases taken
      exact inv_monitor state _ inv rfl rfl rfl rfl rfl (fun active _ => Or.inl active) (fun source _ => Or.inl source)
    · cases taken
      exact inv
  · cases taken

theorem wake_inv (state next : Threads) (inv : state.Inv) (severe : Bool)
    (taken : Threads.step state (.wake severe) = some next) : next.Inv := by
  rw [Threads.step] at taken
  split at taken
  · rename_i asleep
    cases taken
    have notOverriding : state.pc ≠ .overriding := by
      intro same
      rw [same] at asleep
      cases asleep
    have relies : state.pc.reliesOnFlag = true ∧ state.pc.reliesOnSource = true := by
      cases pc : state.pc <;> rw [pc] at asleep <;> first | exact ⟨rfl, rfl⟩ | cases asleep
    refine inv_of_same_values state _ inv rfl rfl id notOverriding (fun same => by cases same) ?_
    obtain settled | ⟨_, armed⟩ := inv.settled
    · exact Or.inl settled
    · exact Or.inr ⟨rfl, armed.saved, fun _ => armed.flag relies.1, fun _ => armed.source relies.2⟩
  · cases taken

theorem load_inv (state : Threads) (inv : state.Inv) (severe : Bool) (pc : state.pc = .assessed severe) :
    ({ state with pc := .loaded severe state.inhibit.active } : Threads).Inv := by
  refine inv_of_same_values state _ inv rfl rfl id (fun same => by rw [pc] at same; cases same)
    (fun same => by cases same) ?_
  obtain settled | ⟨_, armed⟩ := inv.settled
  · exact Or.inl settled
  · have active : state.inhibit.active = true := armed.flag (by rw [pc]; rfl)
    have source : state.inhibit.source = "weather" := armed.source (by rw [pc]; rfl)
    apply Or.inr
    constructor
    · change WeatherPc.settles (.loaded severe state.inhibit.active) = false
      rw [active]
      cases severe <;> rfl
    · exact ⟨armed.saved, fun _ => active, fun _ => source⟩

theorem branch_inv (state : Threads) (inv : state.Inv) (severe active : Bool) (pc : state.pc = .loaded severe active) :
    (state.branch severe active).Inv := by
  have notOverriding : state.pc ≠ .overriding := fun same => by rw [pc] at same; cases same
  rw [Threads.branch]
  split
  · rename_i overrides
    rw [Bool.and_eq_true, Bool.not_eq_true'] at overrides
    have settled : state.Settled := settled_of_pc state inv (by rw [pc, overrides.2]; rfl)
    exact inv_of_same_values state _ inv rfl rfl id notOverriding (fun same => by cases same) (Or.inl settled)
  split
  · refine inv_of_same_values state _ inv rfl rfl id notOverriding (fun same => by cases same) ?_
    obtain settled | ⟨_, armed⟩ := inv.settled
    · exact Or.inl settled
    · exact Or.inr ⟨rfl, armed.saved, (fun relies => by cases relies), (fun relies => by cases relies)⟩
  · rename_i overrides restores
    refine inv_of_same_values state _ inv rfl rfl (fun both => ((Bool.and_eq_true _ _).mp both).1) notOverriding
      (fun same => by cases same) ?_
    obtain settled | ⟨unsettled, armed⟩ := inv.settled
    · exact Or.inl settled
    · have source : state.inhibit.source = "weather" := armed.source (by rw [pc]; cases severe <;> rfl)
      cases severe with
      | true =>
        have flag : state.inhibit.active = true := armed.flag (by rw [pc]; rfl)
        exact Or.inr ⟨rfl, armed.saved, fun _ => flag, fun _ => source⟩
      | false =>
        cases active with
        | true =>
          rw [source] at restores
          exact absurd rfl restores
        | false =>
          rw [pc] at unsettled
          cases unsettled

theorem read_inv (state : Threads) (inv : state.Inv) (pc : state.pc = .reading) (narrow : state.register.toNat < 2 ^ 16) :
    ({ state with weather := readAndSaveParam state.weather (.read 0 state.register), pc := .overriding } : Threads).Inv := by
  have settled : state.Settled := settled_of_pc state inv (by rw [pc]; rfl)
  constructor
  · exact inv.target
  · exact inv.recorded
  · intro notOverriding
    exact absurd rfl notOverriding
  · intro _
    constructor
    · rfl
    · apply BitVec.eq_of_toNat_eq
      change ((state.register.setWidth 16).setWidth 32).toNat = state.register.toNat
      rw [BitVec.toNat_setWidth, BitVec.toNat_setWidth, Nat.mod_eq_of_lt narrow, Nat.mod_eq_of_lt state.register.isLt]
  · exact Or.inl settled

theorem override_inv (state : Threads) (inv : state.Inv) (pc : state.pc = .overriding) : state.override.Inv := by
  obtain ⟨saved, value⟩ := inv.fetched pc
  have settled : state.Settled := settled_of_pc state inv (by rw [pc]; rfl)
  have original : state.override.original = some state.register := by
    rw [Threads.override]
    cases overridden : state.overridden with
    | false => rfl
    | true =>
      obtain ⟨earlier, recorded⟩ := Option.isSome_iff_exists.mp (inv.recorded overridden)
      rw [settled earlier recorded]
      exact recorded
  constructor
  · exact inv.target
  · intro _
    rw [original]
    rfl
  · intro _ _
    rw [original]
    exact congrArg some value.symm
  · intro wrong
    cases wrong
  · exact Or.inr ⟨rfl, saved, (fun relies => by cases relies), (fun relies => by cases relies)⟩

theorem restore_inv (state : Threads) (inv : state.Inv) (pc : state.pc = .restoring) : state.restore.Inv := by
  have kept := inv.kept (fun same => by rw [pc] at same; cases same)
  have target : state.weather.restoreTarget =
      if state.weather.hasSaved then some (state.weather.savedValue, "restore (saved)") else none := by
    rw [WeatherParams.restoreTarget, if_pos inv.target]
  cases saved : state.weather.hasSaved with
  | false =>
    have settled : state.Settled := by
      obtain settled | ⟨_, armed⟩ := inv.settled
      · exact settled
      · cases saved.symm.trans armed.saved
    rw [saved] at target
    have same : state.restore = { state with pc := .lifting } := by
      rw [Threads.restore, applyRestore, target]
      rfl
    rw [same]
    exact inv_of_same_values state _ inv rfl rfl id (fun same => by rw [pc] at same; cases same)
      (fun same => by cases same) (Or.inl settled)
  | true =>
    rw [saved] at target
    have restored : state.restore = { state with
        weather := { state.weather with hasSaved := false }
        register := state.weather.savedValue.setWidth 32
        pc := .lifting } := by
      rw [Threads.restore, applyRestore, target]
      rfl
    rw [restored]
    constructor
    · exact inv.target
    · exact inv.recorded
    · intro _ stillSaved
      cases stillSaved
    · intro wrong
      cases wrong
    · apply Or.inl
      intro value original
      exact Option.some.inj ((kept saved).symm.trans original)

-- The stores of monitor_he_inhibit_set and of the weather thread's clear.
theorem store_inv (state : Threads) (inv : state.Inv) (inhibit : HeInhibit) (pc : WeatherPc) (overridden : Bool)
    (notOverriding : state.pc ≠ .overriding) (notOverridingNext : pc ≠ .overriding)
    (kept : overridden = true → state.overridden = true)
    (settled : state.Settled ∨ pc.settles = false ∧ state.weather.hasSaved = true ∧
      (pc.reliesOnFlag = true → inhibit.active = true) ∧ (pc.reliesOnSource = true → inhibit.source = "weather")) :
    ({ state with inhibit := inhibit, pc := pc, overridden := overridden } : Threads).Inv := by
  refine inv_of_same_values state _ inv rfl rfl kept notOverriding notOverridingNext ?_
  obtain settled | ⟨unsettled, saved, flag, source⟩ := settled
  · exact Or.inl settled
  · exact Or.inr ⟨unsettled, saved, flag, source⟩

theorem settling_store_inv (state : Threads) (inv : state.Inv) (inhibit : HeInhibit) (pc : WeatherPc)
    (overridden : Bool) (settles : state.pc.settles = true) (notOverriding : state.pc ≠ .overriding)
    (notOverridingNext : pc ≠ .overriding) (kept : overridden = true → state.overridden = true) :
    ({ state with inhibit := inhibit, pc := pc, overridden := overridden } : Threads).Inv :=
  store_inv state inv inhibit pc overridden notOverriding notOverridingNext kept
    (Or.inl (settled_of_pc state inv settles))

theorem weather_step_inv (state next : Threads) (inv : state.Inv) (allowed : state.Undisturbed .weather)
    (taken : state.weatherStep = some next) : next.Inv := by
  rw [Threads.weatherStep] at taken
  split at taken
  · cases taken
  · cases taken
  · rename_i severe pc
    cases taken
    exact load_inv state inv severe pc
  · rename_i severe active pc
    cases taken
    exact branch_inv state inv severe active pc
  · rename_i pc
    cases taken
    exact read_inv state inv pc (allowed pc)
  · rename_i pc
    cases taken
    exact override_inv state inv pc
  · rename_i pc
    cases taken
    apply store_inv state inv _ _ state.overridden (fun same => by rw [pc] at same; cases same)
      (fun same => by cases same) id
    obtain settled | ⟨_, armed⟩ := inv.settled
    · exact Or.inl settled
    · exact Or.inr ⟨rfl, armed.saved, (fun _ => rfl), (fun relies => by cases relies)⟩
  · rename_i pc
    cases taken
    apply store_inv state inv _ _ (state.overridden && true) (fun same => by rw [pc] at same; cases same)
      (fun same => by cases same) (fun both => ((Bool.and_eq_true _ _).mp both).1)
    obtain settled | ⟨_, armed⟩ := inv.settled
    · exact Or.inl settled
    · exact Or.inr ⟨rfl, armed.saved, (fun _ => armed.flag (by rw [pc]; rfl)), (fun _ => rfl)⟩
  · rename_i pc
    cases taken
    exact restore_inv state inv pc
  all_goals
    rename_i pc
    cases taken
    exact settling_store_inv state inv _ _ _ (by rw [pc]; rfl) (fun same => by rw [pc] at same; cases same)
      (fun same => by cases same) (fun flagged => by first | exact flagged | exact ((Bool.and_eq_true _ _).mp flagged).1)

theorem step_inv (state next : Threads) (label : Label) (inv : state.Inv) (allowed : state.Undisturbed label)
    (taken : Threads.step state label = some next) : next.Inv := by
  cases label with
  | wake severe => exact wake_inv state next inv severe taken
  | weather => exact weather_step_inv state next inv allowed taken
  | poll heMode engaged => exact poll_step_inv state next inv heMode engaged taken
  | monitor => exact monitor_step_inv state next inv allowed taken

theorem restored_of_inv (state : Threads) (inv : state.Inv) : state.Restored := by
  intro ended
  exact settled_of_pc state inv (by rw [ended]; rfl)

theorem calm_cycles_restore_the_original (severeRawValue : Raw) (register : Word) (labels : List Label)
    (admitted : Runs.Admitted Threads.step Threads.Undisturbed (.initial severeRawValue register) labels) :
    Runs.Throughout Threads.step (.initial severeRawValue register) labels Threads.Restored :=
  Runs.throughout_of_admitted Threads.step Threads.Undisturbed (.initial severeRawValue register) Threads.Inv
    Threads.Restored (initial_inv severeRawValue register)
    (fun state label next inv allowed taken => step_inv state next label inv allowed taken)
    restored_of_inv labels admitted

def severeCycle : List Label := .wake true :: List.replicate 6 .weather

def clearCycle : List Label := .wake false :: List.replicate 6 .weather

def engagedPolls (count : Nat) : List Label := (List.replicate count [Label.poll true true, .monitor]).flatten

theorem short_storm_restored :
    Runs.Throughout Threads.step (.initial 16 8) (severeCycle ++ engagedPolls 3 ++ clearCycle) Threads.Restored ∧
      (Runs.final Threads.step (.initial 16 8) (severeCycle ++ engagedPolls 3 ++ clearCycle)).pc = .ended false :=
  ⟨calm_cycles_restore_the_original 16 8 _ (by decide +kernel), by decide +kernel⟩

-- The monitor clears the inhibit in the middle of a storm; the next severe cycle saves
-- the override as the original.
def resavedStorm : List Label :=
  severeCycle ++ engagedPolls heReengageThreshold ++ List.replicate 3 .monitor ++ severeCycle ++ clearCycle

theorem resaved_storm_keeps_the_override :
    ¬Runs.Throughout Threads.step (.initial 16 8) resavedStorm Threads.Restored := by
  intro kept
  have reached := Runs.run_final Threads.step (.initial 16 8) resavedStorm (by decide +kernel)
  have restored := kept resavedStorm [] _ (List.append_nil _).symm reached (by decide +kernel) 8 (by decide +kernel)
  exact absurd restored (by decide +kernel)

-- The condition leaves out no harmless clear: once the inhibit is taken away with the
-- override in force, the next cycle without severe weather strands it.
theorem cleared_inhibit_strands_the_override (state : Threads) (clearing : state.monitor = .clearing)
    (asleep : state.pc.sleeping = true) (inForce : ¬state.Settled) :
    ∃ next, Runs.run Threads.step state [.monitor, .wake false, .weather, .weather] = some next ∧ ¬next.Restored := by
  let lifted : Threads := { state with inhibit := { state.inhibit with active := false }, monitor := .unnaming }
  refine ⟨({ lifted with pc := .loaded false false } : Threads).finish false, ?_, fun restored => inForce (restored rfl)⟩
  have cleared : Threads.step state .monitor = some lifted := by
    rw [Threads.step, Threads.monitorStep, clearing]
  have woken : Threads.step lifted (.wake false) = some { lifted with pc := .assessed false } := by
    rw [Threads.step]
    exact if_pos asleep
  rw [Runs.run_cons, cleared, Option.bind_some, Runs.run_cons, woken]
  rfl

end AiriesUps.Weather
