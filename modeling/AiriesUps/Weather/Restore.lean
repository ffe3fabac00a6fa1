import AiriesUps.Weather.Control

set_option autoImplicit false

namespace AiriesUps.Weather

open Monitor

-- weather_create: calloc, then the two configured values.
def Control.initial (severeRawValue normalRawValue : Raw) : Control :=
  { weather := { severeRawValue := severeRawValue, normalRawValue := normalRawValue, savedValue := 0, hasSaved := false }
    inhibit := .clear }

-- The restore that was due has reached the register.
def restoreWritten (before : Control) (report : Report) : Bool :=
  match before.weather.restoreTarget with
  | some (value, label) => report.writes.contains { value := value, label := label, rc := 0 }
  | none => false

def restoreDue (control : Control) (cycle : Cycle) : Bool := !cycle.severe && control.ownsInhibit

structure CycleSound (before : Control) (cycle : Cycle) : Prop where
  discarded : before.weather.hasSaved = true → (controlCycle before cycle).1.weather.hasSaved = false →
    restoreWritten before (controlCycle before cycle).2 = true
  cleared : before.ownsInhibit = true → (controlCycle before cycle).1.inhibit.active = false →
    restoreWritten before (controlCycle before cycle).2 = true
  reported : clearEvent ∈ (controlCycle before cycle).2.events →
    restoreWritten before (controlCycle before cycle).2 = true
  retried : restoreDue before cycle = true → restoreWritten before (controlCycle before cycle).2 = false →
    (controlCycle before cycle).1.ownsInhibit = true ∧
      (controlCycle before cycle).1.weather.restoreTarget = before.weather.restoreTarget

-- There is a value to restore, and the register is found, writable and written.
def RestoreSucceeds (control : Control) (cycle : Cycle) : Prop :=
  restoreDue control cycle = true → control.weather.restoreTarget.isSome = true ∧ cycle.write = .wrote 0

theorem write_param_succeeds (outcome : WriteOutcome) (value : Raw) (label : String) :
    (writeParam outcome value label).rc = 0 ↔ outcome = .wrote 0 := by
  cases outcome with
  | notFound => simp [writeParam]
  | readOnly => simp [writeParam]
  | wrote rc => simp [writeParam]

theorem cycle_when_due (control : Control) (cycle : Cycle) (due : restoreDue control cycle = true) :
    controlCycle control cycle =
      ({ weather := (applyRestore control.weather cycle.write).1, inhibit := .clear },
        { writes := (applyRestore control.weather cycle.write).2, events := [clearEvent] }) := by
  have calm : cycle.severe = false := by
    have both := due
    rw [restoreDue, Bool.and_eq_true, Bool.not_eq_true'] at both
    exact both.1
  have owned : control.ownsInhibit = true := by
    have both := due
    rw [restoreDue, Bool.and_eq_true] at both
    exact both.2
  rw [controlCycle, calm, owned]
  rfl

theorem cycle_when_idle (control : Control) (cycle : Cycle) (inForce : (cycle.severe && !control.inhibit.active) = false)
    (idle : restoreDue control cycle = false) : controlCycle control cycle = (control, .silent) := by
  rw [restoreDue] at idle
  rw [controlCycle, inForce, idle]
  rfl

theorem read_and_save_keeps (weather : WeatherParams) (outcome : ReadOutcome) (saved : weather.hasSaved = true) :
    (readAndSaveParam weather outcome).hasSaved = true := by
  cases outcome with
  | notFound => exact saved
  | read rc current =>
    rw [readAndSaveParam]
    split
    · rfl
    · exact saved

theorem cycle_keeps_saved (control : Control) (cycle : Cycle) (idle : restoreDue control cycle = false)
    (saved : control.weather.hasSaved = true) : (controlCycle control cycle).1.weather.hasSaved = true := by
  rw [restoreDue] at idle
  rw [controlCycle, idle]
  split
  · exact read_and_save_keeps control.weather cycle.read saved
  · exact saved

theorem cycle_silent_on_clear (control : Control) (cycle : Cycle) (idle : restoreDue control cycle = false) :
    clearEvent ∉ (controlCycle control cycle).2.events := by
  rw [restoreDue] at idle
  rw [controlCycle, idle]
  split
  · intro reported
    have same := congrArg MonitorEvent.title (List.mem_singleton.mp reported)
    rw [clearEvent, severeEvent, fire_event_title, fire_event_title] at same
    exact absurd same (by decide)
  · intro reported
    cases reported

theorem cycle_keeps_inhibit (control : Control) (cycle : Cycle) (idle : restoreDue control cycle = false)
    (owned : control.ownsInhibit = true) : (controlCycle control cycle).1.inhibit.active = true := by
  have active : control.inhibit.active = true := by
    rw [Control.ownsInhibit, Bool.and_eq_true] at owned
    exact owned.1
  rw [restoreDue] at idle
  rw [controlCycle, idle, active]
  simp only [Bool.not_true, Bool.and_false, Bool.false_eq_true, if_false]
  exact active

theorem restore_written_iff (control : Control) (outcome : WriteOutcome) (events : List MonitorEvent) :
    restoreWritten control { writes := (applyRestore control.weather outcome).2, events := events } = true ↔
      control.weather.restoreTarget.isSome = true ∧ outcome = .wrote 0 := by
  rw [restoreWritten, applyRestore]
  cases target : control.weather.restoreTarget with
  | none => simp
  | some pair =>
    obtain ⟨value, label⟩ := pair
    rw [← write_param_succeeds outcome value label]
    simp only [List.contains_cons, List.contains_nil, Bool.or_false, beq_iff_eq, Option.isSome_some, true_and]
    constructor
    · intro same
      rw [← same]
    · intro succeeded
      change _ = ({ value := value, label := label, rc := (writeParam outcome value label).rc } : ParamWrite)
      rw [succeeded]

theorem cycle_sound_iff (control : Control) (cycle : Cycle) :
    CycleSound control cycle ↔ RestoreSucceeds control cycle := by
  constructor
  · intro sound due
    have written := sound.reported (by rw [cycle_when_due control cycle due]; exact List.mem_singleton_self _)
    rw [cycle_when_due control cycle due] at written
    exact (restore_written_iff control cycle.write _).mp written
  · intro succeeds
    cases due : restoreDue control cycle with
    | true =>
      have written : restoreWritten control (controlCycle control cycle).2 = true := by
        rw [cycle_when_due control cycle due]
        exact (restore_written_iff control cycle.write _).mpr (succeeds due)
      exact ⟨fun _ _ => written, fun _ _ => written, fun _ => written,
        fun _ unwritten => absurd (written.symm.trans unwritten) Bool.noConfusion⟩
    | false =>
      constructor
      · intro saved unsaved
        rw [cycle_keeps_saved control cycle due saved] at unsaved
        cases unsaved
      · intro owned lifted
        rw [cycle_keeps_inhibit control cycle due owned] at lifted
        cases lifted
      · intro reported
        exact absurd reported (cycle_silent_on_clear control cycle due)
      · intro wrong
        cases due.symm.trans wrong

theorem weather_clears_after_restore_iff (start : Control) (cycles : List Cycle) :
    Runs.Admitted controlStep CycleSound start cycles ↔ Runs.Admitted controlStep RestoreSucceeds start cycles :=
  Runs.admitted_congr controlStep CycleSound RestoreSucceeds cycle_sound_iff start cycles

-- A storm that passes while the UPS refuses the restore write.
def refusedRestore : List Cycle :=
  [{ severe := true, reasons := "Tornado Warning", read := .read 0 8, write := .wrote 0 },
    { severe := false, reasons := "", read := .notFound, write := .wrote (-1) }]

theorem refused_restore_reported_clear :
    ¬Runs.Admitted controlStep CycleSound (.initial 16 restoreSavedValue) refusedRestore := by
  rintro ⟨_, refused, _⟩
  have written := refused.reported (by decide)
  exact absurd written (by decide)

end AiriesUps.Weather
