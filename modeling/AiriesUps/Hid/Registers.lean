import AiriesUps.Hid.Parser

set_option autoImplicit false

namespace AiriesUps.Hid

def pagePower : BitVec 16 := 0x0084
def pageBattery : BitVec 16 := 0x0085
def apcPage : BitVec 16 := 0xFF86

def power (usage : BitVec 16) : BitVec 32 := hidUp pagePower usage
def battery (usage : BitVec 16) : BitVec 32 := hidUp pageBattery usage
def apc (usage : BitVec 16) : BitVec 32 := hidUp apcPage usage

def usageInput : BitVec 32 := power 0x001A
def usageOutput : BitVec 32 := power 0x001C
def usageBattery : BitVec 32 := power 0x0012
def usagePowerSummary : BitVec 32 := power 0x0024
def usageVoltage : BitVec 32 := power 0x0030
def usageRemainingCapacity : BitVec 32 := battery 0x0066
def usageRuntimeToEmpty : BitVec 32 := battery 0x0068
def usageRemainingTimeLimit : BitVec 32 := battery 0x002A
def usageRemainingCapLimit : BitVec 32 := battery 0x0029
def usageWarningCapLimit : BitVec 32 := battery 0x008C
def usageDesignCapacity : BitVec 32 := battery 0x0083
def usageManufactureDate : BitVec 32 := battery 0x0085
def usageFrequency : BitVec 32 := power 0x0032
def usagePercentLoad : BitVec 32 := power 0x0035
def usageConfigVoltage : BitVec 32 := power 0x0040
def usageConfigApparentPower : BitVec 32 := power 0x0043
def usageConfigActivePower : BitVec 32 := power 0x0044
def usageLowVoltageTransfer : BitVec 32 := power 0x0053
def usageHighVoltageTransfer : BitVec 32 := power 0x0054
def usageDelayBeforeReboot : BitVec 32 := power 0x0055
def usageDelayBeforeStartup : BitVec 32 := power 0x0056
def usageDelayBeforeShutdown : BitVec 32 := power 0x0057
def usageTest : BitVec 32 := power 0x0058
def usageModuleReset : BitVec 32 := power 0x0059
def usageAudibleAlarmCtrl : BitVec 32 := power 0x005A
def apcUsageSensitivity : BitVec 32 := apc 0x0061
def apcUsageBattReplDate : BitVec 32 := apc 0x0024
def apcUsageManufDate : BitVec 32 := apc 0x0025
def apcUsageBattCapStartup : BitVec 32 := apc 0x0026
def apcUsageLightsTest : BitVec 32 := apc 0x0072

-- hid_pdc_fields_t; a field pointer is an index into the map
structure PdcFields where
  inputVoltage : Option Nat
  outputVoltage : Option Nat
  batteryVoltage : Option Nat
  remainingCapacity : Option Nat
  runtimeToEmpty : Option Nat
  percentLoad : Option Nat
  outputFrequency : Option Nat
  transferLow : Option Nat
  transferHigh : Option Nat
  configApparentPower : Option Nat
  configActivePower : Option Nat
  test : Option Nat
  alarmControl : Option Nat
  delayBeforeShutdown : Option Nat
  delayBeforeStartup : Option Nat
  delayBeforeReboot : Option Nat
  moduleReset : Option Nat
  remainingTimeLimit : Option Nat
  remainingCapLimit : Option Nat
  warningCapLimit : Option Nat
  designCapacity : Option Nat
  manufactureDate : Option Nat

def findFeature (map : ReportMap) (path : List (BitVec 32)) : Option Nat :=
  hidFindField map path .feature

-- The PowerSummary collection is searched only where the first path misses.
def findFeatureOr (map : ReportMap) (path fallback : List (BitVec 32)) : Option Nat :=
  (findFeature map path).or (findFeature map fallback)

def resolveStandardFields (map : ReportMap) : PdcFields :=
  { inputVoltage := findFeature map [usageInput, usageVoltage]
    outputVoltage := findFeature map [usageInput, usageConfigVoltage]
    batteryVoltage := findFeatureOr map [usageBattery, usageVoltage] [usagePowerSummary, usageVoltage]
    remainingCapacity :=
      findFeatureOr map [usageBattery, usageRemainingCapacity] [usagePowerSummary, usageRemainingCapacity]
    runtimeToEmpty := findFeatureOr map [usageBattery, usageRuntimeToEmpty] [usagePowerSummary, usageRuntimeToEmpty]
    percentLoad := findFeature map [usagePercentLoad]
    outputFrequency := findFeature map [usageOutput, usageFrequency]
    transferLow := findFeature map [usageInput, usageLowVoltageTransfer]
    transferHigh := findFeature map [usageInput, usageHighVoltageTransfer]
    configApparentPower := findFeature map [usageConfigApparentPower]
    configActivePower := findFeature map [usageConfigActivePower]
    test := findFeature map [usageTest]
    alarmControl := findFeature map [usageAudibleAlarmCtrl]
    delayBeforeShutdown := findFeature map [usageDelayBeforeShutdown]
    delayBeforeStartup := findFeature map [usageDelayBeforeStartup]
    delayBeforeReboot := findFeature map [usageDelayBeforeReboot]
    moduleReset := findFeature map [usageModuleReset]
    remainingTimeLimit := findFeatureOr map [usageRemainingTimeLimit] [usagePowerSummary, usageRemainingTimeLimit]
    remainingCapLimit := findFeatureOr map [usageRemainingCapLimit] [usagePowerSummary, usageRemainingCapLimit]
    warningCapLimit := findFeatureOr map [usageWarningCapLimit] [usagePowerSummary, usageWarningCapLimit]
    designCapacity := findFeatureOr map [usageDesignCapacity] [usagePowerSummary, usageDesignCapacity]
    manufactureDate := findFeatureOr map [usageManufactureDate] [usagePowerSummary, usageManufactureDate] }

structure ApcVendor where
  sensitivity : Option Nat
  lightsTest : Option Nat
  battReplDate : Option Nat
  manufDate : Option Nat
  battCapStartup : Option Nat

def apcVendorFields (map : ReportMap) : ApcVendor :=
  { sensitivity := findFeature map [usageInput, apcUsageSensitivity]
    lightsTest := findFeature map [apcUsageLightsTest]
    battReplDate := findFeature map [usageBattery, apcUsageBattReplDate]
    manufDate := findFeature map [apcUsageManufDate]
    battCapStartup := findFeature map [apcUsageBattCapStartup] }

-- ups_cfg_type_t with the union branch that matches it
inductive CfgMeta where
  | scalar (min max : Int)
  | bitfield (options : List (BitVec 32)) (strict : Bool)
  | string (maxChars : Nat)
  | flags (options : List (BitVec 32))
deriving DecidableEq, Repr

def CfgMeta.isBitfield : CfgMeta → Bool
  | .bitfield _ _ => true
  | _ => false

structure ConfigReg where
  name : String
  regAddr : BitVec 16
  kind : CfgMeta
  writable : Bool
deriving DecidableEq, Repr

def ConfigReg.scalar (name : String) (writable : Bool) : ConfigReg :=
  { name, regAddr := 0, kind := .scalar 0 0, writable }

def ConfigReg.bitfield (name : String) (options : List (BitVec 32)) : ConfigReg :=
  { name, regAddr := 0, kind := .bitfield options true, writable := true }

def sensitivityOpts : List (BitVec 32) := [0, 1, 2]
def alarmOpts : List (BitVec 32) := [1, 2, 3]

def apcConfigRegs : List ConfigReg :=
  [.scalar "transfer_low" true, .scalar "transfer_high" true, .bitfield "sensitivity" sensitivityOpts,
    .bitfield "alarm_setting" alarmOpts, .scalar "low_battery_warning" true, .scalar "low_battery_threshold" true,
    .scalar "warning_capacity" true, .scalar "manufacture_date" false, .scalar "nominal_voltage" false,
    .scalar "nominal_va" false, .scalar "design_capacity" false, .scalar "input_voltage" false,
    .scalar "battery_voltage" false, .scalar "remaining_capacity" false, .scalar "runtime_to_empty" false,
    .scalar "percent_load" false, .scalar "output_frequency" false, .scalar "nominal_watts" false,
    .scalar "delay_before_shutdown" true, .scalar "delay_before_startup" true, .scalar "delay_before_reboot" true,
    .scalar "battery_replacement_date" true, .scalar "battery_capacity_for_startup" true]

-- The field each register is fixed up with and kept for, in the table's order.
def apcConfigFields (pdc : PdcFields) (vendor : ApcVendor) : List (Option Nat) :=
  [pdc.transferLow, pdc.transferHigh, vendor.sensitivity, pdc.alarmControl, pdc.remainingTimeLimit,
    pdc.remainingCapLimit, pdc.warningCapLimit, pdc.manufactureDate, pdc.outputVoltage, pdc.configApparentPower,
    pdc.designCapacity, pdc.inputVoltage, pdc.batteryVoltage, pdc.remainingCapacity, pdc.runtimeToEmpty,
    pdc.percentLoad, pdc.outputFrequency, pdc.configActivePower, pdc.delayBeforeShutdown, pdc.delayBeforeStartup,
    pdc.delayBeforeReboot, vendor.battReplDate, vendor.battCapStartup]

def cyberpowerConfigRegs : List ConfigReg :=
  [.scalar "transfer_low" true, .scalar "transfer_high" true, .bitfield "alarm_setting" alarmOpts,
    .scalar "low_battery_warning" true, .scalar "low_battery_threshold" true, .scalar "warning_capacity" true,
    .scalar "manufacture_date" false, .scalar "nominal_voltage" false, .scalar "nominal_va" false,
    .scalar "design_capacity" false, .scalar "input_voltage" false, .scalar "battery_voltage" false,
    .scalar "remaining_capacity" false, .scalar "runtime_to_empty" false, .scalar "percent_load" false,
    .scalar "output_frequency" false, .scalar "nominal_watts" false, .scalar "delay_before_shutdown" true,
    .scalar "delay_before_startup" true, .scalar "delay_before_reboot" true]

def cyberpowerConfigFields (pdc : PdcFields) : List (Option Nat) :=
  [pdc.transferLow, pdc.transferHigh, pdc.alarmControl, pdc.remainingTimeLimit, pdc.remainingCapLimit,
    pdc.warningCapLimit, pdc.manufactureDate, pdc.outputVoltage, pdc.configApparentPower, pdc.designCapacity,
    pdc.inputVoltage, pdc.batteryVoltage, pdc.remainingCapacity, pdc.runtimeToEmpty, pdc.percentLoad,
    pdc.outputFrequency, pdc.configActivePower, pdc.delayBeforeShutdown, pdc.delayBeforeStartup,
    pdc.delayBeforeReboot]

def hidPdcFixupConfigReg (map : ReportMap) (reg : ConfigReg) (index : Nat) : ConfigReg :=
  { reg with
    regAddr := BitVec.ofNat 16 index
    kind :=
      match reg.kind, map[index]? with
      | .scalar _ _, some field => .scalar field.logicalMin field.logicalMax
      | kind, _ => kind }

-- FIX over the whole table, then KEEP_IF drops the registers without a field.
def keepResolved (map : ReportMap) (regs : List ConfigReg) (fields : List (Option Nat)) : List ConfigReg :=
  (regs.zip fields).filterMap fun entry => entry.2.map (hidPdcFixupConfigReg map entry.1)

inductive HidDriver where
  | apcHid
  | cyberpowerHid
deriving DecidableEq, Repr

namespace HidDriver

def configFields (driver : HidDriver) (map : ReportMap) : List (Option Nat) :=
  match driver with
  | apcHid => apcConfigFields (resolveStandardFields map) (apcVendorFields map)
  | cyberpowerHid => cyberpowerConfigFields (resolveStandardFields map)

def resolveConfigRegs (driver : HidDriver) (map : ReportMap) : List ConfigReg :=
  match driver with
  | apcHid => keepResolved map apcConfigRegs (apcHid.configFields map)
  | cyberpowerHid => keepResolved map cyberpowerConfigRegs (cyberpowerHid.configFields map)

end HidDriver

def hidPdcFieldByIndex (map : ReportMap) (index : BitVec 16) : Option HidField := map[index.toNat]?

def FeaturePointer (map : ReportMap) (pointer : Option Nat) : Prop :=
  ∀ index, pointer = some index → ∃ field, map[index]? = some field ∧ field.type = .feature

theorem find_feature_pointer (map : ReportMap) (path : List (BitVec 32)) :
    FeaturePointer map (findFeature map path) := by
  intro index found
  obtain ⟨field, present, isMatch⟩ := hid_find_field_found map path .feature index found
  simp only [HidField.matchesPath, Bool.and_eq_true, decide_eq_true_eq] at isMatch
  exact ⟨field, present, isMatch.1.1⟩

theorem find_feature_or_pointer (map : ReportMap) (path fallback : List (BitVec 32)) :
    FeaturePointer map (findFeatureOr map path fallback) := by
  intro index found
  rcases Option.or_eq_some_iff.mp found with first | ⟨_, second⟩
  · exact find_feature_pointer map path index first
  · exact find_feature_pointer map fallback index second

theorem config_fields_pointers (driver : HidDriver) (map : ReportMap) :
    ∀ pointer ∈ driver.configFields map, FeaturePointer map pointer := by
  have plain := find_feature_pointer map
  have either := find_feature_or_pointer map
  cases driver with
  | apcHid =>
    simp only [HidDriver.configFields, apcConfigFields, resolveStandardFields, apcVendorFields, List.forall_mem_cons,
      plain, either, true_and]
    exact nofun
  | cyberpowerHid =>
    simp only [HidDriver.configFields, cyberpowerConfigFields, resolveStandardFields, List.forall_mem_cons, plain,
      either, true_and]
    exact nofun

theorem keep_resolved_found (map : ReportMap) (regs : List ConfigReg) (fields : List (Option Nat)) (reg : ConfigReg)
    (kept : reg ∈ keepResolved map regs fields) :
    ∃ index, some index ∈ fields ∧ reg.regAddr = BitVec.ofNat 16 index := by
  obtain ⟨⟨entry, pointer⟩, paired, fixed⟩ := List.mem_filterMap.mp kept
  obtain ⟨index, resolved, same⟩ := Option.map_eq_some_iff.mp fixed
  have listed : pointer ∈ fields := (List.of_mem_zip paired).2
  refine ⟨index, resolved ▸ listed, ?_⟩
  rw [← same, hidPdcFixupConfigReg]

-- An index below HID_MAX_FIELDS survives its 16-bit reg_addr, so a register the
-- driver kept finds the field it was resolved to.
theorem resolved_reg_field (driver : HidDriver) (map : ReportMap) (bounded : map.length ≤ hidMaxFields)
    (reg : ConfigReg) (kept : reg ∈ driver.resolveConfigRegs map) :
    ∃ field, hidPdcFieldByIndex map reg.regAddr = some field ∧ field.type = .feature := by
  have found : ∃ index, some index ∈ driver.configFields map ∧ reg.regAddr = BitVec.ofNat 16 index := by
    cases driver with
    | apcHid => exact keep_resolved_found map _ _ reg kept
    | cyberpowerHid => exact keep_resolved_found map _ _ reg kept
  obtain ⟨index, listed, address⟩ := found
  obtain ⟨field, present, isFeature⟩ := config_fields_pointers driver map _ listed index rfl
  obtain ⟨inside, _⟩ := List.getElem?_eq_some_iff.mp present
  refine ⟨field, ?_, isFeature⟩
  have survives : reg.regAddr.toNat = index := by
    rw [address, BitVec.toNat_ofNat]
    exact Nat.mod_eq_of_lt (by unfold hidMaxFields at bounded; omega)
  rw [hidPdcFieldByIndex, survives]
  exact present

end AiriesUps.Hid
