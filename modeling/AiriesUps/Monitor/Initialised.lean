import AiriesUps.Monitor.PowerEvents
import AiriesUps.Ups.DataMemory

set_option autoImplicit false

namespace AiriesUps.Monitor

open Ups

-- A field that is stored as current data or formatted into a message, with what the
-- memory holds there.
abbrev Report := DataField × Option Cell

def reportOf (data : Slots) (fields : List DataField) : List Report := fields.map fun field => (field, data field)

-- One turn of fast_loop_thread: the answers to its reads, battery being that of the extra
-- read for the On Battery message.
structure MemoryTick where
  status : Option Answer
  reason : Option (BitVec 16)
  nowMs : Nat
  battery : Option Answer

inductive MemoryLabel where
  | initial (status dynamic : Option Answer)
  | poll (status dynamic : Option Answer)
  | tick (tick : MemoryTick)

-- reported is of the last step alone.
structure MonitorMemory where
  fast : Option FastLoop
  started : Bool
  data : Slots
  reported : List Report

-- calloc; the fast loop starts where the driver reads the transfer reason.
def MonitorMemory.boot (driver : DriverKind) : MonitorMemory :=
  { fast := if driver.hasTransferReason then some .start else none, started := false, data := .zeroed, reported := [] }

-- UPS_ST_ON_BATTERY is in set, as emit_transitions computes it.
def onBatterySet (loop : FastLoop) (status : Word) : Bool :=
  !loop.firstTick && has ((loop.prevStatusFast ^^^ status) &&& fastOwnedBits &&& status) stOnBattery

-- Both ups_data_t are on the stack and not cleared.
def memoryTick (driver : DriverKind) (loop : FastLoop) (tick : MemoryTick) : FastLoop × List Report :=
  match readStatusInto driver tick.status .uninitialised, tick.reason with
  | some data, some reason =>
    let ticked := fastLoopTick loop { status := some (statusWord data), reason := some reason, nowMs := tick.nowMs, battery := none }
    let message :=
      if onBatterySet loop (statusWord data) then
        match readStatusInto driver tick.battery .uninitialised with
        | some fresh => reportOf fresh [.chargePct, .runtimeSec]
        | none => []
      else []
    (ticked.loop, reportOf data [.status] ++ message)
  | _, _ => (loop, [])

def readBoth (driver : DriverKind) (status dynamic : Option Answer) (data : Slots) : Option Slots :=
  (readStatusInto driver status data).bind (readDynamicInto driver dynamic)

-- The initial read starts from the stack as it is, a poll from a cleared ups_data_t. The
-- whole structure is stored, and the status line is made of its fields.
def memoryStep (driver : DriverKind) : Runs.Step MonitorMemory MemoryLabel
  | memory, .initial status dynamic =>
    if memory.started then none
    else
      match readBoth driver status dynamic .uninitialised with
      | some data => some { memory with started := true, data := data, reported := reportOf data DataField.all }
      | none => some { memory with started := true, reported := [] }
  | memory, .poll status dynamic =>
    if memory.started then
      match readBoth driver status dynamic .zeroed with
      | some data => some { memory with data := data, reported := reportOf data DataField.all }
      | none => some { memory with reported := [] }
    else none
  | memory, .tick tick =>
    match memory.fast with
    | none => none
    | some loop =>
      let ticked := memoryTick driver loop tick
      some { memory with fast := some ticked.1, reported := ticked.2 }

def Defined (reported : List Report) : Prop := ∀ report ∈ reported, report.2.isSome = true

-- A tick that sees ON_BATTERY come, and whose extra read for the message succeeds.
def FormatsBattery (driver : DriverKind) (loop : FastLoop) (tick : MemoryTick) : Prop :=
  loop.firstTick = false ∧ tick.reason.isSome = true ∧ tick.battery.isSome = true ∧
    ∃ answer, tick.status = some answer ∧ has loop.prevStatusFast stOnBattery = false ∧
      has (driver.reportedStatus answer) stOnBattery = true

-- No tick formats the battery fields, and the initial read succeeds on the SRT only.
def ReadsSuffice (driver : DriverKind) (memory : MonitorMemory) : MemoryLabel → Prop
  | .initial status dynamic => status.isSome = true → dynamic.isSome = true → driver = .srt
  | .poll _ _ => True
  | .tick tick => ∀ loop, memory.fast = some loop → ¬FormatsBattery driver loop tick

theorem defined_report_of (data : Slots) (fields : List DataField) :
    Defined (reportOf data fields) ↔ ∀ field ∈ fields, (data field).isSome = true := by
  simp [Defined, reportOf]

@[simp] theorem defined_nil : Defined [] := fun _ member => absurd member List.not_mem_nil

theorem defined_append (first second : List Report) : Defined (first ++ second) ↔ Defined first ∧ Defined second :=
  List.forall_mem_append

theorem all_fields (field : DataField) : field ∈ DataField.all := by
  cases field <;> decide

theorem read_both_defined (driver : DriverKind) (first second : Answer) (start data : Slots)
    (read : readBoth driver (some first) (some second) start = some data) (field : DataField) :
    ∃ before, (data field).isSome = true ↔
      field ∈ written (driver.readDynamic second before) ∨ field ∈ written (driver.readStatus first) ∨
        (start field).isSome = true := by
  obtain ⟨before, status, dynamic⟩ := Option.bind_eq_some_iff.mp read
  refine ⟨before, ?_⟩
  rw [dynamic_defined driver second before data dynamic, status_defined driver first start before status]

theorem read_both_some (driver : DriverKind) (status dynamic : Option Answer) (start data : Slots)
    (read : readBoth driver status dynamic start = some data) :
    ∃ first second, status = some first ∧ dynamic = some second := by
  obtain ⟨before, statusRead, dynamicRead⟩ := Option.bind_eq_some_iff.mp read
  obtain ⟨first, isFirst, _⟩ := Option.map_eq_some_iff.mp statusRead
  obtain ⟨second, isSecond, _⟩ := Option.map_eq_some_iff.mp dynamicRead
  exact ⟨first, second, isFirst, isSecond⟩

theorem read_both_none (driver : DriverKind) (status dynamic : Option Answer) (start : Slots)
    (failed : readBoth driver status dynamic start = none) : ¬(status.isSome = true ∧ dynamic.isSome = true) := by
  rintro ⟨first, second⟩
  obtain ⟨first, rfl⟩ := Option.isSome_iff_exists.mp first
  obtain ⟨second, rfl⟩ := Option.isSome_iff_exists.mp second
  cases failed

theorem initial_defined_iff (driver : DriverKind) (status dynamic : Option Answer) (data : Slots)
    (read : readBoth driver status dynamic .uninitialised = some data) :
    Defined (reportOf data DataField.all) ↔ driver = .srt := by
  obtain ⟨first, second, rfl, rfl⟩ := read_both_some driver status dynamic .uninitialised data read
  rw [defined_report_of]
  constructor
  · intro defined
    obtain ⟨before, bypass⟩ := read_both_defined driver first second .uninitialised data read .bypassStatus
    by_contra other
    rcases bypass.mp (defined .bypassStatus (all_fields _)) with filled | filled | filled
    · exact dynamic_leaves_bypass driver second before other filled
    · exact (status_leaves driver first).2 filled
    · cases filled
  · rintro rfl field _
    obtain ⟨before, filled⟩ := read_both_defined .srt first second .uninitialised data read field
    rw [filled]
    rcases srt_fills first second before field with inStatus | inDynamic
    · exact .inr (.inl inStatus)
    · exact .inl inDynamic

theorem poll_defined (driver : DriverKind) (status dynamic : Option Answer) (data : Slots)
    (read : readBoth driver status dynamic .zeroed = some data) : Defined (reportOf data DataField.all) := by
  obtain ⟨first, second, rfl, rfl⟩ := read_both_some driver status dynamic .zeroed data read
  rw [defined_report_of]
  intro field _
  obtain ⟨before, filled⟩ := read_both_defined driver first second .zeroed data read field
  exact filled.mpr (.inr (.inr rfl))

theorem tick_defined_iff (driver : DriverKind) (loop : FastLoop) (tick : MemoryTick) :
    Defined (memoryTick driver loop tick).2 ↔ ¬FormatsBattery driver loop tick := by
  rw [memoryTick]
  cases status : tick.status with
  | none => simp [readStatusInto, Defined, FormatsBattery, status]
  | some answer =>
    cases reason : tick.reason with
    | none => simp [readStatusInto, Defined, FormatsBattery, reason]
    | some code =>
      cases read : readStatusInto driver (some answer) .uninitialised with
      | none => cases read
      | some data =>
        obtain ⟨defined, word⟩ := status_word_read driver answer _ data read
        have own : Defined (reportOf data [.status]) := by simp [defined_report_of, defined]
        have rises : onBatterySet loop (statusWord data) =
            (!loop.firstTick && (!has loop.prevStatusFast stOnBattery && has (driver.reportedStatus answer) stOnBattery)) := by
          rw [onBatterySet, word, stOnBattery, has_set _ _ 2 (by decide) (by decide)]
        dsimp only
        rw [defined_append, and_iff_right own, rises]
        cases battery : tick.battery with
        | none =>
          refine iff_of_true ?_ ?_
          · split <;> simp [readStatusInto, Defined]
          · simp [FormatsBattery, battery]
        | some fresh =>
          cases again : readStatusInto driver (some fresh) .uninitialised with
          | none => cases again
          | some filled =>
            have garbage : ¬Defined (reportOf filled [.chargePct, .runtimeSec]) := by
              rw [defined_report_of]
              intro both
              have charge := both .chargePct (by decide)
              rcases (status_defined driver fresh _ filled again .chargePct).mp charge with charge | nothing
              · exact (status_leaves driver fresh).1 charge
              · cases nothing
            cases first : loop.firstTick <;> cases before : has loop.prevStatusFast stOnBattery <;>
              cases after : has (driver.reportedStatus answer) stOnBattery <;>
              simp [FormatsBattery, first, before, after, status, reason, battery, garbage]

theorem step_defined_iff (driver : DriverKind) (memory next : MonitorMemory) (label : MemoryLabel)
    (taken : memoryStep driver memory label = some next) :
    Defined next.reported ↔ ReadsSuffice driver memory label := by
  cases label with
  | initial status dynamic =>
    simp only [memoryStep] at taken
    split at taken
    · cases taken
    cases read : readBoth driver status dynamic .uninitialised with
    | none =>
      rw [read] at taken
      cases taken
      refine iff_of_true (fun _ member => by cases member) fun first second => ?_
      exact absurd ⟨first, second⟩ (read_both_none driver status dynamic _ read)
    | some data =>
      rw [read] at taken
      cases taken
      obtain ⟨first, second, rfl, rfl⟩ := read_both_some driver status dynamic _ data read
      rw [initial_defined_iff driver _ _ data read]
      simp [ReadsSuffice]
  | poll status dynamic =>
    simp only [memoryStep] at taken
    split at taken
    case isFalse => cases taken
    cases read : readBoth driver status dynamic .zeroed with
    | none =>
      rw [read] at taken
      cases taken
      exact iff_of_true (fun _ member => by cases member) trivial
    | some data =>
      rw [read] at taken
      cases taken
      exact iff_of_true (poll_defined driver status dynamic data read) trivial
  | tick tick =>
    cases running : memory.fast with
    | none =>
      simp only [memoryStep, running] at taken
      cases taken
    | some loop =>
      simp only [memoryStep, running, Option.some.injEq] at taken
      subst taken
      simp [ReadsSuffice, running, tick_defined_iff]

theorem reports_initialised_iff (driver : DriverKind) (labels : List MemoryLabel) :
    Runs.EachStep (memoryStep driver) (.boot driver) labels (fun _ _ _ next => Defined next.reported) ↔
      Runs.EachStep (memoryStep driver) (.boot driver) labels fun _ memory label _ => ReadsSuffice driver memory label :=
  Runs.each_step_congr (memoryStep driver) (.boot driver) (fun _ _ => True) trivial (fun _ _ _ _ _ _ => trivial) _ _
    (fun _ memory label next _ taken => step_defined_iff driver memory next label taken) labels

-- Registers that are all zero but for the status, which has ON_BATTERY or ONLINE.
def modbusAnswer (status : BitVec 16) : Answer :=
  { regs := fun index => if index = 1 then status else 0
    present := { status := 0, sigStatus := 0, generalError := 0, batSystemError := 0, transferReason := 0, batTestStatus := 0
                 outletMog := 0 }
    scaled := fun _ => 0
    raw := fun _ => 0 }

def statusTick (status : BitVec 16) : MemoryLabel :=
  .tick { status := some (modbusAnswer status), reason := some 8, nowMs := 0, battery := some (modbusAnswer status) }

-- Mains fail: the message is made of a charge and a runtime nobody has read.
theorem battery_message_uninitialised :
    ¬∀ (driver : DriverKind) (labels : List MemoryLabel),
      Runs.EachStep (memoryStep driver) (.boot driver) labels fun _ _ _ next => Defined next.reported := by
  intro defined
  have message := defined .srt [statusTick 2, statusTick 4] [statusTick 2] (statusTick 4) [] _ _ rfl rfl rfl
  have charge := message (.chargePct, none) (by decide +kernel)
  cases charge

end AiriesUps.Monitor
