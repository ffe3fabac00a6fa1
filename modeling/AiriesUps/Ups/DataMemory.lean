import AiriesUps.Hid.Status

set_option autoImplicit false

namespace AiriesUps.Ups

open Hid (PdcFields StatusData)

-- The fields of ups_data_t, in their order.
inductive DataField where
  | status
  | transferReason
  | outletMog
  | outletSog0
  | outletSog1
  | sigStatus
  | generalError
  | powerSystemError
  | batSystemError
  | batTestStatus
  | rtCalStatus
  | batLifetimeStatus
  | uiStatus
  | runtimeSec
  | chargePct
  | batteryVoltage
  | loadPct
  | outputCurrent
  | outputVoltage
  | outputFrequency
  | outputEnergyWh
  | bypassStatus
  | bypassVoltage
  | bypassFrequency
  | inputStatus
  | inputVoltage
  | efficiency
  | efficiencyReason
  | timerShutdown
  | timerStart
  | timerReboot
deriving DecidableEq, Repr

def DataField.all : List DataField :=
  [.status, .transferReason, .outletMog, .outletSog0, .outletSog1, .sigStatus, .generalError, .powerSystemError,
    .batSystemError, .batTestStatus, .rtCalStatus, .batLifetimeStatus, .uiStatus, .runtimeSec, .chargePct, .batteryVoltage,
    .loadPct, .outputCurrent, .outputVoltage, .outputFrequency, .outputEnergyWh, .bypassStatus, .bypassVoltage,
    .bypassFrequency, .inputStatus, .inputVoltage, .efficiency, .efficiencyReason, .timerShutdown, .timerStart, .timerReboot]

inductive Cell where
  | whole (value : Int)
  | real (value : Double)
deriving DecidableEq, Repr

-- A ups_data_t in memory: none where nothing has been written since it came into being.
abbrev Slots := DataField → Option Cell

def Slots.uninitialised : Slots := fun _ => none

def DataField.isReal : DataField → Bool
  | .chargePct | .batteryVoltage | .loadPct | .outputCurrent | .outputVoltage | .outputFrequency | .bypassVoltage
  | .bypassFrequency | .inputVoltage | .efficiency => true
  | _ => false

-- memset(&data, 0, sizeof(data))
def Slots.zeroed : Slots := fun field => some (if field.isReal then .real (.finite 0) else .whole 0)

-- The fields a read writes, in order.
abbrev Writes := List (DataField × Cell)

def Slots.put (data : Slots) (write : DataField × Cell) : Slots :=
  fun field => if field = write.1 then some write.2 else data field

def Slots.write (data : Slots) (writes : Writes) : Slots := writes.foldl Slots.put data

-- What a device answers one read with: the registers of a Modbus block, or what the
-- reports of a HID device say. A driver looks at its own part.
structure Answer where
  regs : Nat → BitVec 16
  present : StatusData
  scaled : Nat → Rat
  raw : Nat → BitVec 32

-- The registered drivers; a HID driver with the fields its descriptor has.
inductive DriverKind where
  | srt
  | smt
  | apcHid (pdc : PdcFields) (nominalWatts : Nat)
  | cyberpowerHid (pdc : PdcFields) (nominalWatts : Nat)

def wide (high low : BitVec 16) : Cell := .whole (high ++ low).toNat
def short (value : BitVec 16) : Cell := .whole value.toNat
def quotient (value : Int) (divisor : Nat) : Cell := .real (.finite (mkRat value divisor))

-- srt_read_status and smt_read_status read the same block.
def modbusStatus (regs : Nat → BitVec 16) : Writes :=
  [(.status, wide (regs 0) (regs 1)), (.transferReason, short (regs 2)), (.outletMog, wide (regs 3) (regs 4)),
    (.outletSog0, wide (regs 6) (regs 7)), (.outletSog1, wide (regs 9) (regs 10)), (.sigStatus, short (regs 18)),
    (.generalError, short (regs 19)), (.powerSystemError, wide (regs 20) (regs 21)), (.batSystemError, short (regs 22)),
    (.batTestStatus, short (regs 23)), (.rtCalStatus, short (regs 24)), (.batLifetimeStatus, short (regs 25)),
    (.uiStatus, short (regs 26))]

def srtReadStatus (regs : Nat → BitVec 16) : Writes := modbusStatus regs
def smtReadStatus (regs : Nat → BitVec 16) : Writes := modbusStatus regs

def efficiencyWrites (raw : BitVec 16) : Writes :=
  if 0 ≤ raw.toInt then [(.efficiency, quotient raw.toInt 128), (.efficiencyReason, .whole effOk)]
  else [(.efficiency, .real (.finite 0)), (.efficiencyReason, .whole (-raw.toInt))]

-- The dynamic block; the bypass registers are there on the SRT only.
def modbusDynamic (regs : Nat → BitVec 16) (bypass : Writes) : Writes :=
  ([(.runtimeSec, wide (regs 0) (regs 1)), (.chargePct, quotient (regs 2).toNat 512),
    (.batteryVoltage, quotient (regs 3).toInt 32), (.loadPct, quotient (regs 8).toNat 256),
    (.outputCurrent, quotient (regs 12).toNat 32), (.outputVoltage, quotient (regs 14).toNat 64),
    (.outputFrequency, quotient (regs 16).toNat 128), (.outputEnergyWh, wide (regs 17) (regs 18))] : Writes) ++
  bypass ++ ([(.inputStatus, short (regs 22)), (.inputVoltage, quotient (regs 23).toNat 64)] : Writes) ++
  efficiencyWrites (regs 26) ++
  ([(.timerShutdown, .whole (regs 27).toInt), (.timerStart, .whole (regs 28).toInt),
    (.timerReboot, .whole (regs 29 ++ regs 30).toInt)] : Writes)

def srtReadDynamic (regs : Nat → BitVec 16) : Writes :=
  modbusDynamic regs
    [(.bypassStatus, short (regs 19)), (.bypassVoltage, quotient (regs 20).toNat 64),
      (.bypassFrequency, quotient (regs 21).toNat 128)]

def smtReadDynamic (regs : Nat → BitVec 16) : Writes := modbusDynamic regs []

-- hid_pdc_read_status_standard
def hidReadStatus (pdc : PdcFields) (present : StatusData) : Writes :=
  ([(.status, .whole present.status.toNat), (.sigStatus, short present.sigStatus),
    (.generalError, short present.generalError), (.batSystemError, short present.batSystemError),
    (.transferReason, short present.transferReason)] : Writes) ++
  (if pdc.test.isSome then [(.batTestStatus, short present.batTestStatus)] else [] : Writes) ++
  ([(.outletMog, .whole present.outletMog.toNat)] : Writes)

def statusWord (data : Slots) : Word :=
  match data .status with
  | some (.whole value) => BitVec.ofInt 32 value
  | _ => 0

def effNotAvailable : Nat := 1

-- A field the descriptor does not have reads as 0.
def Answer.scaledAt (answer : Answer) (field : Option Nat) : Rat := (field.map answer.scaled).getD 0

def timerWrite (field : Option Nat) (target : DataField) (raw : Nat → BitVec 32) (width : Nat) : Writes :=
  match field with
  | some index => [(target, .whole ((raw index).setWidth width).toInt)]
  | none => []

-- hid_pdc_read_dynamic_standard
def hidReadDynamic (pdc : PdcFields) (nominalWatts : Nat) (answer : Answer) (data : Slots) : Writes :=
  let inputVoltage := answer.scaledAt pdc.inputVoltage
  let outputVoltage := if has (statusWord data) stOnBattery then answer.scaledAt pdc.outputVoltage else inputVoltage
  let loadPct := answer.scaledAt pdc.percentLoad
  let outputFrequency := match pdc.outputFrequency with
    | some index => Double.finite (answer.scaled index)
    | none => .nan
  let outputCurrent := if 0 < outputVoltage ∧ 0 < nominalWatts then loadPct / 100 * nominalWatts / outputVoltage else 0
  ([(.chargePct, .real (.finite (answer.scaledAt pdc.remainingCapacity))),
    (.batteryVoltage, .real (.finite (answer.scaledAt pdc.batteryVoltage))),
    (.runtimeSec, .whole (answer.scaledAt pdc.runtimeToEmpty).floor), (.inputVoltage, .real (.finite inputVoltage)),
    (.outputVoltage, .real (.finite outputVoltage)), (.loadPct, .real (.finite loadPct)),
    (.outputFrequency, .real outputFrequency), (.outputCurrent, .real (.finite outputCurrent))] : Writes) ++
  timerWrite pdc.delayBeforeShutdown .timerShutdown answer.raw 16 ++
  timerWrite pdc.delayBeforeStartup .timerStart answer.raw 16 ++
  timerWrite pdc.delayBeforeReboot .timerReboot answer.raw 32 ++
  ([(.bypassVoltage, .real (.finite 0)), (.bypassFrequency, .real .nan), (.efficiency, .real (.finite 0)),
    (.efficiencyReason, .whole effNotAvailable)] : Writes)

namespace DriverKind

-- driver->read_status and driver->read_dynamic, where they succeed: the fields written.
def readStatus (driver : DriverKind) (answer : Answer) : Writes :=
  match driver with
  | srt => srtReadStatus answer.regs
  | smt => smtReadStatus answer.regs
  | apcHid pdc _ | cyberpowerHid pdc _ => hidReadStatus pdc answer.present

def readDynamic (driver : DriverKind) (answer : Answer) (data : Slots) : Writes :=
  match driver with
  | srt => srtReadDynamic answer.regs
  | smt => smtReadDynamic answer.regs
  | apcHid pdc watts | cyberpowerHid pdc watts => hidReadDynamic pdc watts answer data

def hasTransferReason : DriverKind → Bool
  | srt | smt => true
  | apcHid _ _ | cyberpowerHid _ _ => false

def reportedStatus (driver : DriverKind) (answer : Answer) : Word :=
  match driver with
  | srt | smt => answer.regs 0 ++ answer.regs 1
  | apcHid _ _ | cyberpowerHid _ _ => answer.present.status

end DriverKind

-- ups_read_status; a failed read returns before it writes.
def readStatusInto (driver : DriverKind) (answer : Option Answer) (data : Slots) : Option Slots :=
  answer.map fun read => data.write (driver.readStatus read)

-- UPS_BATERR_DISCONNECTED, as ups_read_dynamic finds it.
def batteryDisconnected (data : Slots) : Bool :=
  match data .batSystemError with
  | some (.whole value) => has (BitVec.ofInt 16 value) 1
  | _ => false

def readDynamicInto (driver : DriverKind) (answer : Option Answer) (data : Slots) : Option Slots :=
  answer.map fun read =>
    let filled := data.write (driver.readDynamic read data)
    if batteryDisconnected filled then
      filled.write [(.chargePct, .real (.finite 0)), (.batteryVoltage, .real (.finite 0)), (.runtimeSec, .whole 0)]
    else filled

def written (writes : Writes) : List DataField := writes.map Prod.fst

theorem write_defined (data : Slots) (writes : Writes) (field : DataField) :
    (data.write writes field).isSome = true ↔ field ∈ written writes ∨ (data field).isSome = true := by
  induction writes generalizing data with
  | nil => simp [Slots.write, written]
  | cons write rest ih =>
    have tail : (data.write (write :: rest) field).isSome = true ↔
        field ∈ written rest ∨ (data.put write field).isSome = true := ih (data.put write)
    rw [tail, Slots.put]
    by_cases same : field = write.1
    · simp [same, written]
    · simp [same, written]

theorem status_defined (driver : DriverKind) (answer : Answer) (before data : Slots)
    (read : readStatusInto driver (some answer) before = some data) (field : DataField) :
    (data field).isSome = true ↔ field ∈ written (driver.readStatus answer) ∨ (before field).isSome = true := by
  rw [readStatusInto, Option.map_some, Option.some.injEq] at read
  rw [← read, write_defined]

theorem efficiency_written (raw : BitVec 16) : written (efficiencyWrites raw) = [.efficiency, .efficiencyReason] := by
  rw [efficiencyWrites]
  split <;> rfl

theorem modbus_dynamic_written (regs : Nat → BitVec 16) (bypass : Writes) :
    written (modbusDynamic regs bypass) =
      ([.runtimeSec, .chargePct, .batteryVoltage, .loadPct, .outputCurrent, .outputVoltage, .outputFrequency,
        .outputEnergyWh] : List DataField) ++
      written bypass ++
      ([.inputStatus, .inputVoltage, .efficiency, .efficiencyReason, .timerShutdown, .timerStart, .timerReboot] : List DataField) := by
  have efficiency := efficiency_written (regs 26)
  rw [written] at efficiency
  rw [modbusDynamic, written, List.map_append, List.map_append, List.map_append, List.map_append, efficiency,
    List.append_assoc, List.append_assoc]
  rfl

theorem timer_written (field : Option Nat) (target : DataField) (raw : Nat → BitVec 32) (width : Nat) (other : DataField)
    (member : other ∈ written (timerWrite field target raw width)) : other = target := by
  cases field with
  | none => cases member
  | some index => exact List.mem_singleton.mp member

theorem battery_written (driver : DriverKind) (answer : Answer) (data : Slots) (field : DataField)
    (battery : field ∈ [DataField.chargePct, .batteryVoltage, .runtimeSec]) :
    field ∈ written (driver.readDynamic answer data) := by
  have modbus : ∀ bypass, field ∈ written (modbusDynamic answer.regs bypass) := by
    intro bypass
    rw [modbus_dynamic_written, List.append_assoc, List.mem_append]
    left
    revert battery
    cases field <;> decide
  have hid : ∀ pdc watts, field ∈ written (hidReadDynamic pdc watts answer data) := by
    intro pdc watts
    simp only [List.mem_cons, List.not_mem_nil, or_false] at battery
    rcases battery with rfl | rfl | rfl <;> simp [written, hidReadDynamic]
  cases driver with
  | srt => exact modbus _
  | smt => exact modbus _
  | apcHid pdc watts => exact hid pdc watts
  | cyberpowerHid pdc watts => exact hid pdc watts

-- The zeros for a disconnected battery go over fields the driver has filled.
theorem dynamic_defined (driver : DriverKind) (answer : Answer) (before data : Slots)
    (read : readDynamicInto driver (some answer) before = some data) (field : DataField) :
    (data field).isSome = true ↔ field ∈ written (driver.readDynamic answer before) ∨ (before field).isSome = true := by
  rw [readDynamicInto, Option.map_some, Option.some.injEq] at read
  dsimp only at read
  split at read
  · rw [← read, write_defined, write_defined]
    exact or_iff_right_of_imp fun battery => .inl (battery_written driver answer before field battery)
  · rw [← read, write_defined]

theorem write_other (data : Slots) (writes : Writes) (field : DataField)
    (other : field ∉ written writes) : data.write writes field = data field := by
  induction writes generalizing data with
  | nil => rfl
  | cons write rest ih =>
    rw [written, List.map_cons, List.mem_cons, not_or] at other
    have kept : data.write (write :: rest) field = data.put write field := ih (data.put write) other.2
    rw [kept, Slots.put, if_neg other.1]

theorem first_write_kept (data : Slots) (field : DataField) (cell : Cell) (rest : Writes)
    (once : field ∉ written rest) : data.write ((field, cell) :: rest) field = some cell := by
  have kept : data.write ((field, cell) :: rest) field = data.put (field, cell) field :=
    write_other (data.put (field, cell)) rest field once
  rw [kept, Slots.put, if_pos rfl]

theorem status_written (driver : DriverKind) (answer : Answer) :
    ∃ rest, driver.readStatus answer = (.status, .whole (driver.reportedStatus answer).toNat) :: rest ∧
      DataField.status ∉ written rest := by
  have hid : ∀ pdc, ∃ rest,
      hidReadStatus pdc answer.present = (.status, .whole answer.present.status.toNat) :: rest ∧ DataField.status ∉ written rest := by
    intro pdc
    refine ⟨_, rfl, ?_⟩
    cases test : pdc.test <;> simp [written]
  cases driver with
  | srt => exact ⟨_, rfl, by simp [written]⟩
  | smt => exact ⟨_, rfl, by simp [written]⟩
  | apcHid pdc watts => exact hid pdc
  | cyberpowerHid pdc watts => exact hid pdc

theorem status_word_read (driver : DriverKind) (answer : Answer) (before data : Slots)
    (read : readStatusInto driver (some answer) before = some data) :
    (data .status).isSome = true ∧ statusWord data = driver.reportedStatus answer := by
  obtain ⟨rest, writes, once⟩ := status_written driver answer
  rw [readStatusInto, Option.map_some, Option.some.injEq, writes] at read
  have word : data .status = some (.whole (driver.reportedStatus answer).toNat) := by
    rw [← read, first_write_kept before .status _ rest once]
  rw [statusWord, word]
  exact ⟨rfl, by simp⟩

-- The status reads leave the battery fields alone, and the bypass to the dynamic reads.
theorem status_leaves (driver : DriverKind) (answer : Answer) :
    DataField.chargePct ∉ written (driver.readStatus answer) ∧ DataField.bypassStatus ∉ written (driver.readStatus answer) := by
  cases driver <;> simp [DriverKind.readStatus, srtReadStatus, smtReadStatus, modbusStatus, hidReadStatus, written]

theorem dynamic_leaves_bypass (driver : DriverKind) (answer : Answer) (data : Slots) (other : driver ≠ .srt) :
    DataField.bypassStatus ∉ written (driver.readDynamic answer data) := by
  have hid : ∀ pdc watts, DataField.bypassStatus ∉ written (hidReadDynamic pdc watts answer data) := by
    intro pdc watts member
    simp only [written, hidReadDynamic, List.map_append, List.mem_append, List.map_cons, List.mem_cons] at member
    rcases member with (((member | timer) | timer) | timer) | member
    · simp at member
    · cases timer_written _ _ _ _ _ timer
    · cases timer_written _ _ _ _ _ timer
    · cases timer_written _ _ _ _ _ timer
    · simp at member
  cases driver with
  | srt => exact absurd rfl other
  | smt =>
    rw [DriverKind.readDynamic, smtReadDynamic, modbus_dynamic_written]
    simp [written]
  | apcHid pdc watts => exact hid pdc watts
  | cyberpowerHid pdc watts => exact hid pdc watts

theorem srt_fills (first second : Answer) (data : Slots) (field : DataField) :
    field ∈ written (DriverKind.srt.readStatus first) ∨ field ∈ written (DriverKind.srt.readDynamic second data) := by
  rw [DriverKind.readDynamic, srtReadDynamic, modbus_dynamic_written, DriverKind.readStatus, srtReadStatus, modbusStatus, written]
  cases field <;> simp [written]

end AiriesUps.Ups
