import AiriesUps.Weather.Restore

set_option autoImplicit false

namespace AiriesUps.Weather

open Ups Monitor

-- Where the weather thread is between two accesses to what it shares with the monitor
-- or to the register. loaded carries he_active.
inductive WeatherPc where
  | idle
  | ended (severe : Bool)
  | assessed (severe : Bool)
  | loaded (severe active : Bool)
  | reading
  | overriding
  | inhibiting
  | naming
  | restoring
  | lifting
  | unnaming
  | uncounting
deriving DecidableEq, Repr

-- Where the monitor is in the HE auto-clear of its poll.
inductive MonitorPc where
  | idle
  | counting
  | recounting
  | clearing
  | unnaming
  | uncounting
deriving DecidableEq, Repr

-- Both threads with the control register. original is ghost: the register just before
-- the first override write of the latest severe period; overridden says that the period
-- has had that write.
structure Threads where
  weather : WeatherParams
  inhibit : HeInhibit
  register : Word
  pc : WeatherPc
  monitor : MonitorPc
  overridden : Bool
  original : Option Word
deriving DecidableEq, Repr

inductive Label where
  | wake (severe : Bool)
  | weather
  | poll (heMode engaged : Bool)
  | monitor
deriving DecidableEq, Repr

def Threads.finish (state : Threads) (severe : Bool) : Threads :=
  { state with pc := .ended severe, overridden := state.overridden && severe }

def Threads.override (state : Threads) : Threads :=
  { state with
    register := state.weather.severeRawValue.setWidth 32
    pc := .inhibiting
    overridden := true
    original := if state.overridden then state.original else some state.register }

def Threads.restore (state : Threads) : Threads :=
  { state with
    weather := (applyRestore state.weather (.wrote 0)).1
    register := match state.weather.restoreTarget with
      | some target => target.1.setWidth 32
      | none => state.register
    pc := .lifting }

def Threads.branch (state : Threads) (severe active : Bool) : Threads :=
  if severe && !active then { state with pc := .reading }
  else if !severe && active && state.inhibit.source == "weather" then { state with pc := .restoring }
  else state.finish severe

-- The weather thread, its reads and writes of the register succeeding.
def Threads.weatherStep (state : Threads) : Option Threads :=
  match state.pc with
  | .idle | .ended _ => none
  | .assessed severe => some { state with pc := .loaded severe state.inhibit.active }
  | .loaded severe active => some (state.branch severe active)
  | .reading =>
    some { state with weather := readAndSaveParam state.weather (.read 0 state.register), pc := .overriding }
  | .overriding => some state.override
  | .inhibiting => some { state with inhibit := { state.inhibit with active := true }, pc := .naming }
  | .naming => some ({ state with inhibit := { state.inhibit with source := "weather" } }.finish true)
  | .restoring => some state.restore
  | .lifting => some { state with inhibit := { state.inhibit with active := false }, pc := .unnaming }
  | .unnaming => some { state with inhibit := { state.inhibit with source := "" }, pc := .uncounting }
  | .uncounting => some ({ state with inhibit := { state.inhibit with reengageCount := 0 } }.finish false)

def Threads.monitorStep (state : Threads) : Option Threads :=
  match state.monitor with
  | .idle => none
  | .counting =>
    some
      { state with
        inhibit := { state.inhibit with reengageCount := state.inhibit.reengageCount + 1 }
        monitor := if state.inhibit.reengageCount + 1 ≥ heReengageThreshold then .clearing else .idle }
  | .recounting => some { state with inhibit := { state.inhibit with reengageCount := 0 }, monitor := .idle }
  | .clearing => some { state with inhibit := { state.inhibit with active := false }, monitor := .unnaming }
  | .unnaming => some { state with inhibit := { state.inhibit with source := "" }, monitor := .uncounting }
  | .uncounting => some { state with inhibit := { state.inhibit with reengageCount := 0 }, monitor := .idle }

def WeatherPc.sleeping : WeatherPc → Bool
  | .idle | .ended _ => true
  | _ => false

def Threads.step : Runs.Step Threads Label
  | state, .wake severe => if state.pc.sleeping then some { state with pc := .assessed severe } else none
  | state, .weather => state.weatherStep
  | state, .poll heMode engaged =>
    if state.monitor = .idle then
      if state.inhibit.active && heMode then some { state with monitor := if engaged then .counting else .recounting }
      else some state
    else none
  | state, .monitor => state.monitorStep

def Threads.initial (severeRawValue : Raw) (register : Word) : Threads :=
  { weather := (Control.initial severeRawValue restoreSavedValue).weather
    inhibit := .clear
    register := register
    pc := .idle
    monitor := .idle
    overridden := false
    original := none }

def Threads.control (state : Threads) : Control := { weather := state.weather, inhibit := state.inhibit }

-- What a cycle without severe weather has to leave.
def Threads.Restored (state : Threads) : Prop :=
  state.pc = .ended false → ∀ value, state.original = some value → state.register = value

def Threads.Settled (state : Threads) : Prop := ∀ value, state.original = some value → state.register = value

-- Whether the thread, from here on, still goes by the inhibit being set, or by its source.
def WeatherPc.reliesOnFlag : WeatherPc → Bool
  | .idle | .ended _ | .assessed _ | .naming | .loaded true _ => true
  | _ => false

def WeatherPc.reliesOnSource : WeatherPc → Bool
  | .idle | .ended _ | .assessed _ | .loaded _ _ => true
  | _ => false

-- The monitor takes the inhibit away only when the register is back at its original
-- value, and the value saved fits saved_value.
def Threads.Undisturbed (state : Threads) : Label → Prop
  | .monitor =>
    (state.monitor = .clearing → state.inhibit.active = true → state.pc.reliesOnFlag = true → state.Settled) ∧
      (state.monitor = .unnaming → state.inhibit.source = "weather" → state.pc.reliesOnSource = true → state.Settled)
  | .weather => state.pc = .reading → state.register.toNat < 2 ^ 16
  | _ => True

instance (state : Threads) : Decidable state.Settled :=
  decidable_of_iff (state.original = none ∨ state.original = some state.register) (by
    rw [Threads.Settled]
    cases state.original with
    | none => simp
    | some value => simp [eq_comm])

instance (state : Threads) : (label : Label) → Decidable (state.Undisturbed label)
  | .monitor => inferInstanceAs (Decidable ((_ → _ → _ → state.Settled) ∧ (_ → _ → _ → state.Settled)))
  | .weather => inferInstanceAs (Decidable (_ = _ → _ < _))
  | .wake _ | .poll _ _ => inferInstanceAs (Decidable True)

def cleanCycle (severe : Bool) (reasons : String) (register : Word) : Cycle :=
  { severe := severe, reasons := reasons, read := .read 0 register, write := .wrote 0 }

-- A cycle the monitor does not interrupt is controlCycle with a device that answers.
theorem cycle_alone (state : Threads) (severe : Bool) (reasons : String) (asleep : state.pc.sleeping = true) :
    ∃ count next, Runs.run Threads.step state (.wake severe :: List.replicate count .weather) = some next ∧
      next.pc = .ended severe ∧
      next.control = (controlCycle state.control (cleanCycle severe reasons state.register)).1 := by
  have woken : Threads.step state (.wake severe) = some { state with pc := .assessed severe } := by
    rw [Threads.step, if_pos asleep]
  cases overrides : severe && !state.inhibit.active with
  | true =>
    obtain ⟨rfl, inactive⟩ : severe = true ∧ state.inhibit.active = false := by
      simpa only [Bool.and_eq_true, Bool.not_eq_true'] using overrides
    refine ⟨6, ?_⟩
    rw [Runs.run_cons, woken, controlCycle]
    simp [Runs.run_cons, List.replicate, Threads.step, Threads.weatherStep, Threads.branch, inactive, Threads.override,
      Threads.finish, Threads.control, applySevere, HeInhibit.set, cleanCycle]
  | false =>
    cases restores : !severe && state.control.ownsInhibit with
    | true =>
      obtain ⟨rfl, active, source⟩ : severe = false ∧ state.inhibit.active = true ∧ state.inhibit.source = "weather" := by
        simpa only [Threads.control, Control.ownsInhibit, Bool.and_eq_true, Bool.not_eq_true', beq_iff_eq] using restores
      refine ⟨6, ?_⟩
      rw [Runs.run_cons, woken, cycle_when_due state.control (cleanCycle false reasons state.register) restores]
      simp [Runs.run_cons, List.replicate, Threads.step, Threads.weatherStep, Threads.branch, active, source,
        Threads.restore, Threads.finish, Threads.control, HeInhibit.clear, cleanCycle]
    | false =>
      have idle : (!severe && state.inhibit.active && state.inhibit.source == "weather") = false := by
        rw [Bool.and_assoc]
        exact restores
      have branched : ({ state with pc := .loaded severe state.inhibit.active } : Threads).branch severe state.inhibit.active =
          ({ state with pc := .loaded severe state.inhibit.active } : Threads).finish severe := by
        rw [Threads.branch, overrides, idle]
        rfl
      refine ⟨2, ({ state with pc := .loaded severe state.inhibit.active } : Threads).finish severe, ?_, rfl, ?_⟩
      · rw [Runs.run_cons, woken, ← branched]
        rfl
      · rw [cycle_when_idle state.control (cleanCycle severe reasons state.register) overrides restores]
        rfl

end AiriesUps.Weather
