import AiriesUps.Hid.ConfigWrite
import AiriesUps.Lib.WordStore
import AiriesUps.Ups.StringBlock

set_option autoImplicit false

namespace AiriesUps.Ups

open Hid (CfgMeta ConfigReg)
open WordStore (Span)

-- ups_config_reg_t of a Modbus driver: reg_addr and reg_count are words on the device.
structure ModbusReg where
  reg : ConfigReg
  regCount : Nat
deriving DecidableEq, Repr

-- Entries of the tables: a writable word, a read-only block, and a writable text.
def ModbusReg.setting (name : String) (addr : BitVec 16) (kind : CfgMeta) : ModbusReg :=
  { reg := { name := name, regAddr := addr, kind := kind, writable := true }, regCount := 1 }

def ModbusReg.shown (name : String) (addr : BitVec 16) (count : Nat) (kind : CfgMeta) : ModbusReg :=
  { reg := { name := name, regAddr := addr, kind := kind, writable := false }, regCount := count }

def ModbusReg.label (name : String) (addr : BitVec 16) (count : Nat) (kind : CfgMeta) : ModbusReg :=
  { reg := { name := name, regAddr := addr, kind := kind, writable := true }, regCount := count }

def ModbusReg.span (entry : ModbusReg) : Span := { start := entry.reg.regAddr.toNat, count := entry.regCount }

def ModbusReg.isString (entry : ModbusReg) : Bool :=
  match entry.reg.kind with
  | .string _ => true
  | _ => false

def smtBatTestOpts : List (BitVec 32) := [1, 2, 16, 32]

def smtSensitivityOpts : List (BitVec 32) := [1, 2, 4]

def smtVoltageOpts : List (BitVec 32) := [1, 2, 4, 8, 16, 32, 64, 2048]

def smtUpsStatusOpts : List (BitVec 32) :=
  [0x0002, 0x0004, 0x0008, 0x0010, 0x0020, 0x0040, 0x0080, 0x0100, 0x0200, 0x0400, 0x2000, 0x4000, 0x8000, 0x00080000,
    0x00100000, 0x00200000]

def smtTransferReasonOpts : List (BitVec 32) := (List.range 31).map (BitVec.ofNat 32)

def smtOutletStatusOpts : List (BitVec 32) :=
  [0x0001, 0x0002, 0x0004, 0x0008, 0x0010, 0x0080, 0x0100, 0x0200, 0x0400, 0x0800, 0x1000]

def smtSignalingStatusOpts : List (BitVec 32) := [0x0001, 0x0002]

def smtGeneralErrorOpts : List (BitVec 32) := [0x0001, 0x0002, 0x0004, 0x0008, 0x0010, 0x0020, 0x0080, 0x0100]

def smtPowerSystemErrorOpts : List (BitVec 32) :=
  [0x0001, 0x0002, 0x0004, 0x0010, 0x0020, 0x0040, 0x0080, 0x0100, 0x0400, 0x0800, 0x2000]

def smtBatterySystemErrorOpts : List (BitVec 32) :=
  [0x0001, 0x0002, 0x0004, 0x0008, 0x0010, 0x0020, 0x0080, 0x0100, 0x0200]

def smtReplaceBatteryTestStatusOpts : List (BitVec 32) :=
  [0x0001, 0x0002, 0x0004, 0x0008, 0x0010, 0x0020, 0x0040, 0x0080, 0x0100]

def smtRuntimeCalibrationStatusOpts : List (BitVec 32) :=
  [0x0001, 0x0002, 0x0004, 0x0008, 0x0010, 0x0020, 0x0040, 0x0080, 0x1000, 0x2000, 0x4000]

def smtBatteryLifetimeStatusOpts : List (BitVec 32) := [0x0001, 0x0002, 0x0004, 0x0008, 0x0010]

def smtUiStatusOpts : List (BitVec 32) := [0x0001, 0x0002, 0x0004, 0x0008]

def smtInputStatusOpts : List (BitVec 32) :=
  [0x0001, 0x0002, 0x0004, 0x0008, 0x0010, 0x0020, 0x0040, 0x0080, 0x0100, 0x0200, 0x0400, 0x0800, 0x8000]

def smtSogRelayConfigOpts : List (BitVec 32) := [0x0001, 0x0002, 0x0004, 0x0008]

def smtConfigRegs : List ModbusReg :=
  [.setting "transfer_high" 1026 (.scalar 110 150), .setting "transfer_low" 1027 (.scalar 80 120),
    .setting "bat_test_interval" 1024 (.bitfield smtBatTestOpts true),
    .setting "sensitivity" 1028 (.bitfield smtSensitivityOpts true),
    .shown "output_voltage_setting" 592 1 (.bitfield smtVoltageOpts true),
    .shown "manufacture_date" 591 1 (.scalar 0 65535), .setting "battery_date" 595 (.scalar 0 65535),
    .setting "mog_turn_off_delay" 1029 (.scalar 0 32767), .setting "mog_turn_on_delay" 1030 (.scalar 0 32767),
    .setting "mog_min_return_runtime" 1033 (.scalar 0 32767), .shown "mog_loadshed_config" 1054 1 (.scalar 0 65535),
    .shown "mog_loadshed_runtime" 1072 1 (.scalar 0 32767),
    .shown "mog_loadshed_time_on_bat" 1073 1 (.scalar 0 32767), .setting "sog0_turn_off_delay" 1034 (.scalar 0 32767),
    .setting "sog0_turn_on_delay" 1035 (.scalar 0 32767), .setting "sog0_min_return_runtime" 1038 (.scalar 0 32767),
    .shown "sog0_loadshed_config" 1056 1 (.scalar 0 65535), .shown "sog0_loadshed_runtime" 1064 1 (.scalar 0 32767),
    .shown "sog0_loadshed_time_on_bat" 1068 1 (.scalar 0 32767),
    .setting "sog1_turn_off_delay" 1039 (.scalar 0 32767), .setting "sog1_turn_on_delay" 1040 (.scalar 0 32767),
    .setting "sog1_min_return_runtime" 1043 (.scalar 0 32767), .shown "sog1_loadshed_config" 1058 1 (.scalar 0 65535),
    .shown "sog1_loadshed_runtime" 1065 1 (.scalar 0 32767),
    .shown "sog1_loadshed_time_on_bat" 1069 1 (.scalar 0 32767),
    .setting "sog2_turn_off_delay" 1044 (.scalar 0 32767), .setting "sog2_turn_on_delay" 1045 (.scalar 0 32767),
    .setting "sog2_min_return_runtime" 1048 (.scalar 0 32767), .shown "sog2_loadshed_config" 1060 1 (.scalar 0 65535),
    .shown "sog2_loadshed_runtime" 1066 1 (.scalar 0 32767),
    .shown "sog2_loadshed_time_on_bat" 1070 1 (.scalar 0 32767), .shown "ups_status" 0 2 (.flags smtUpsStatusOpts),
    .shown "transfer_reason" 2 1 (.bitfield smtTransferReasonOpts false),
    .shown "mog_status" 3 2 (.flags smtOutletStatusOpts), .shown "sog0_status" 6 2 (.flags smtOutletStatusOpts),
    .shown "sog1_status" 9 2 (.flags smtOutletStatusOpts), .shown "sog2_status" 12 2 (.flags smtOutletStatusOpts),
    .shown "signaling_status" 18 1 (.flags smtSignalingStatusOpts),
    .shown "general_error" 19 1 (.flags smtGeneralErrorOpts),
    .shown "power_system_error" 20 2 (.flags smtPowerSystemErrorOpts),
    .shown "battery_system_error" 22 1 (.flags smtBatterySystemErrorOpts),
    .shown "replace_battery_test_status" 23 1 (.flags smtReplaceBatteryTestStatusOpts),
    .shown "runtime_calibration_status" 24 1 (.flags smtRuntimeCalibrationStatusOpts),
    .shown "battery_lifetime_status" 25 1 (.flags smtBatteryLifetimeStatusOpts),
    .shown "ui_status" 26 1 (.flags smtUiStatusOpts), .shown "battery_runtime" 128 2 (.scalar 0 0),
    .shown "battery_charge_pct" 130 1 (.scalar 0 0), .shown "battery_voltage_pos" 131 1 (.scalar 0 0),
    .shown "battery_voltage_neg" 132 1 (.scalar 0 0), .shown "battery_internal_date" 133 1 (.scalar 0 0),
    .shown "battery_temperature" 135 1 (.scalar 0 0), .shown "output_load_pct" 136 1 (.scalar 0 0),
    .shown "output_apparent_power_pct" 138 1 (.scalar 0 0), .shown "output_current" 140 1 (.scalar 0 0),
    .shown "output_voltage" 142 1 (.scalar 0 0), .shown "output_frequency" 144 1 (.scalar 0 0),
    .shown "output_energy" 145 2 (.scalar 0 0), .shown "bypass_input_status" 147 1 (.flags smtInputStatusOpts),
    .shown "bypass_voltage" 148 1 (.scalar 0 0), .shown "bypass_frequency" 149 1 (.scalar 0 0),
    .shown "input_status" 150 1 (.flags smtInputStatusOpts), .shown "input_voltage" 151 1 (.scalar 0 0),
    .shown "efficiency" 154 1 (.scalar 0 0), .shown "mog_off_countdown" 155 1 (.scalar 0 0),
    .shown "mog_on_countdown" 156 1 (.scalar 0 0), .shown "mog_stayoff_countdown" 157 2 (.scalar 0 0),
    .shown "sog0_off_countdown" 159 1 (.scalar 0 0), .shown "sog0_on_countdown" 160 1 (.scalar 0 0),
    .shown "sog0_stayoff_countdown" 161 2 (.scalar 0 0), .shown "sog1_off_countdown" 163 1 (.scalar 0 0),
    .shown "sog1_on_countdown" 164 1 (.scalar 0 0), .shown "sog1_stayoff_countdown" 165 2 (.scalar 0 0),
    .shown "sog2_off_countdown" 167 1 (.scalar 0 0), .shown "sog2_on_countdown" 168 1 (.scalar 0 0),
    .shown "sog2_stayoff_countdown" 169 2 (.scalar 0 0), .shown "firmware_version" 516 8 (.string 16),
    .shown "model_name" 532 16 (.string 32), .shown "sku" 548 16 (.string 32),
    .shown "serial_number" 564 8 (.string 16), .shown "battery_sku" 572 8 (.string 16),
    .shown "nominal_apparent_power" 588 1 (.scalar 0 0), .shown "nominal_real_power" 589 1 (.scalar 0 0),
    .shown "sog_relay_config" 590 1 (.flags smtSogRelayConfigOpts), .label "ups_name" 596 8 (.string 16),
    .label "mog_name" 604 8 (.string 16), .label "sog0_name" 612 8 (.string 16), .label "sog1_name" 620 8 (.string 16),
    .label "sog2_name" 628 8 (.string 16)]

def srtBatTestOpts : List (BitVec 32) := [1, 2, 16, 32]

def srtVoltageOpts : List (BitVec 32) := [1, 2, 4, 8, 16, 32, 64, 2048]

def srtFreqTolOpts : List (BitVec 32) := [1, 2, 8, 16, 64]

def srtUpsStatusOpts : List (BitVec 32) :=
  [0x0002, 0x0004, 0x0008, 0x0010, 0x0020, 0x0040, 0x0080, 0x0100, 0x0200, 0x0400, 0x2000, 0x4000, 0x8000, 0x00080000,
    0x00100000, 0x00200000]

def srtTransferReasonOpts : List (BitVec 32) := (List.range 31).map (BitVec.ofNat 32)

def srtOutletStatusOpts : List (BitVec 32) :=
  [0x0001, 0x0002, 0x0004, 0x0008, 0x0010, 0x0080, 0x0100, 0x0200, 0x0400, 0x0800, 0x4000]

def srtSignalingStatusOpts : List (BitVec 32) := [0x0001, 0x0002]

def srtGeneralErrorOpts : List (BitVec 32) :=
  [0x0001, 0x0002, 0x0004, 0x0008, 0x0010, 0x0020, 0x0080, 0x0100, 0x0200, 0x0400, 0x0800]

def srtPowerSystemErrorOpts : List (BitVec 32) :=
  [0x0001, 0x0002, 0x0004, 0x0008, 0x0010, 0x0020, 0x0040, 0x0080, 0x0100, 0x0200, 0x0400, 0x0800, 0x1000, 0x2000,
    0x4000]

def srtBatterySystemErrorOpts : List (BitVec 32) :=
  [0x0001, 0x0002, 0x0004, 0x0008, 0x0010, 0x0020, 0x0040, 0x0080, 0x0100, 0x0200]

def srtReplaceBatteryTestStatusOpts : List (BitVec 32) :=
  [0x0001, 0x0002, 0x0004, 0x0008, 0x0010, 0x0020, 0x0040, 0x0080, 0x0100]

def srtRuntimeCalibrationStatusOpts : List (BitVec 32) :=
  [0x0001, 0x0002, 0x0004, 0x0008, 0x0010, 0x0020, 0x0040, 0x0080, 0x1000, 0x2000, 0x4000]

def srtBatteryLifetimeStatusOpts : List (BitVec 32) := [0x0001, 0x0002, 0x0004, 0x0008, 0x0010]

def srtUiStatusOpts : List (BitVec 32) := [0x0001, 0x0002, 0x0004, 0x0008]

def srtInputStatusOpts : List (BitVec 32) :=
  [0x0001, 0x0002, 0x0004, 0x0008, 0x0010, 0x0020, 0x0040, 0x0080, 0x0100, 0x0200, 0x0400, 0x0800, 0x8000]

def srtSogRelayConfigOpts : List (BitVec 32) := [0x0001, 0x0002, 0x0004, 0x0008, 0x0010]

def srtConfigRegs : List ModbusReg :=
  [.setting "transfer_high" 1026 (.scalar 110 150), .setting "transfer_low" 1027 (.scalar 80 120),
    .setting "bat_test_interval" 1024 (.bitfield srtBatTestOpts true),
    .setting "mog_turn_off_delay" 1029 (.scalar 0 32767), .setting "mog_turn_on_delay" 1030 (.scalar 0 32767),
    .setting "sog0_turn_off_delay" 1034 (.scalar 0 32767), .setting "sog0_turn_on_delay" 1035 (.scalar 0 32767),
    .setting "sog1_turn_off_delay" 1039 (.scalar 0 32767), .setting "sog1_turn_on_delay" 1040 (.scalar 0 32767),
    .setting "mog_min_return_runtime" 1033 (.scalar 0 32767),
    .setting "sog0_min_return_runtime" 1038 (.scalar 0 32767),
    .setting "sog1_min_return_runtime" 1043 (.scalar 0 32767), .setting "mog_loadshed_config" 1054 (.scalar 0 65535),
    .setting "sog0_loadshed_config" 1056 (.scalar 0 65535), .setting "sog1_loadshed_config" 1058 (.scalar 0 65535),
    .setting "mog_loadshed_runtime" 1072 (.scalar 0 32767), .setting "sog0_loadshed_runtime" 1064 (.scalar 0 32767),
    .setting "sog1_loadshed_runtime" 1065 (.scalar 0 32767),
    .setting "mog_loadshed_time_on_bat" 1073 (.scalar 0 32767),
    .setting "sog0_loadshed_time_on_bat" 1068 (.scalar 0 32767),
    .setting "sog1_loadshed_time_on_bat" 1069 (.scalar 0 32767),
    .shown "output_voltage_setting" 592 1 (.bitfield srtVoltageOpts true),
    .setting "freq_tolerance" 593 (.bitfield srtFreqTolOpts true), .shown "manufacture_date" 591 1 (.scalar 0 65535),
    .setting "battery_date" 595 (.scalar 0 65535), .shown "ups_status" 0 2 (.flags srtUpsStatusOpts),
    .shown "transfer_reason" 2 1 (.bitfield srtTransferReasonOpts false),
    .shown "mog_status" 3 2 (.flags srtOutletStatusOpts), .shown "sog0_status" 6 2 (.flags srtOutletStatusOpts),
    .shown "sog1_status" 9 2 (.flags srtOutletStatusOpts), .shown "sog2_status" 12 2 (.flags srtOutletStatusOpts),
    .shown "signaling_status" 18 1 (.flags srtSignalingStatusOpts),
    .shown "general_error" 19 1 (.flags srtGeneralErrorOpts),
    .shown "power_system_error" 20 2 (.flags srtPowerSystemErrorOpts),
    .shown "battery_system_error" 22 1 (.flags srtBatterySystemErrorOpts),
    .shown "replace_battery_test_status" 23 1 (.flags srtReplaceBatteryTestStatusOpts),
    .shown "runtime_calibration_status" 24 1 (.flags srtRuntimeCalibrationStatusOpts),
    .shown "battery_lifetime_status" 25 1 (.flags srtBatteryLifetimeStatusOpts),
    .shown "ui_status" 26 1 (.flags srtUiStatusOpts), .shown "battery_runtime" 128 2 (.scalar 0 0),
    .shown "battery_charge_pct" 130 1 (.scalar 0 0), .shown "battery_voltage_pos" 131 1 (.scalar 0 0),
    .shown "battery_voltage_neg" 132 1 (.scalar 0 0), .shown "battery_internal_date" 133 1 (.scalar 0 0),
    .shown "battery_temperature" 135 1 (.scalar 0 0), .shown "output_load_pct" 136 1 (.scalar 0 0),
    .shown "output_apparent_power_pct" 138 1 (.scalar 0 0), .shown "output_current" 140 1 (.scalar 0 0),
    .shown "output_voltage" 142 1 (.scalar 0 0), .shown "output_frequency" 144 1 (.scalar 0 0),
    .shown "output_energy" 145 2 (.scalar 0 0), .shown "bypass_input_status" 147 1 (.flags srtInputStatusOpts),
    .shown "bypass_voltage" 148 1 (.scalar 0 0), .shown "bypass_frequency" 149 1 (.scalar 0 0),
    .shown "input_status" 150 1 (.flags srtInputStatusOpts), .shown "input_voltage" 151 1 (.scalar 0 0),
    .shown "efficiency" 154 1 (.scalar 0 0), .shown "shutdown_timer" 155 1 (.scalar 0 0),
    .shown "start_timer" 156 1 (.scalar 0 0), .shown "reboot_timer" 157 2 (.scalar 0 0),
    .shown "firmware_version" 516 8 (.string 16), .shown "model_name" 532 16 (.string 32),
    .shown "sku" 548 16 (.string 32), .shown "serial_number" 564 8 (.string 16),
    .shown "battery_sku" 572 8 (.string 16), .shown "external_battery_sku" 580 8 (.string 16),
    .shown "nominal_apparent_power" 588 1 (.scalar 0 0), .shown "nominal_real_power" 589 1 (.scalar 0 0),
    .shown "sog_relay_config" 590 1 (.flags srtSogRelayConfigOpts), .label "ups_name" 596 8 (.string 16),
    .label "mog_name" 604 8 (.string 16), .label "sog0_name" 612 8 (.string 16), .label "sog1_name" 620 8 (.string 16),
    .label "sog2_name" 628 8 (.string 16)]

-- SMT_SOG_HAS_SOG0, SMT_SOG_HAS_SOG1 and SMT_SOG_HAS_SOG2 of register 590, which
-- counts as all ones if it cannot be read.
def sogBits (read : Option Register) : Register := read.getD 0xFFFF

def hasSog (read : Option Register) (group : Nat) : Bool := (sogBits read).getLsbD (group + 1)

-- The indices of smt_config_regs, CFG_TRANSFER_HIGH to CFG_SOG2_NAME.
inductive SmtCfg where
  | transferHigh
  | transferLow
  | batTestInterval
  | sensitivity
  | outputVoltageSetting
  | manufactureDate
  | batteryDate
  | mogTurnOffDelay
  | mogTurnOnDelay
  | mogMinReturnRuntime
  | mogLoadshedConfig
  | mogLoadshedRuntime
  | mogLoadshedTimeOnBat
  | sog0TurnOffDelay
  | sog0TurnOnDelay
  | sog0MinReturnRuntime
  | sog0LoadshedConfig
  | sog0LoadshedRuntime
  | sog0LoadshedTimeOnBat
  | sog1TurnOffDelay
  | sog1TurnOnDelay
  | sog1MinReturnRuntime
  | sog1LoadshedConfig
  | sog1LoadshedRuntime
  | sog1LoadshedTimeOnBat
  | sog2TurnOffDelay
  | sog2TurnOnDelay
  | sog2MinReturnRuntime
  | sog2LoadshedConfig
  | sog2LoadshedRuntime
  | sog2LoadshedTimeOnBat
  | upsStatus
  | transferReason
  | mogStatus
  | sog0Status
  | sog1Status
  | sog2Status
  | signalingStatus
  | generalError
  | powerSystemError
  | batterySystemError
  | replaceBatteryTestStatus
  | runtimeCalibrationStatus
  | batteryLifetimeStatus
  | uiStatus
  | batteryRuntime
  | batteryChargePct
  | batteryVoltagePos
  | batteryVoltageNeg
  | batteryInternalDate
  | batteryTemperature
  | outputLoadPct
  | outputApparentPowerPct
  | outputCurrent
  | outputVoltage
  | outputFrequency
  | outputEnergy
  | bypassInputStatus
  | bypassVoltage
  | bypassFrequency
  | inputStatus
  | inputVoltage
  | efficiency
  | mogOffCountdown
  | mogOnCountdown
  | mogStayoffCountdown
  | sog0OffCountdown
  | sog0OnCountdown
  | sog0StayoffCountdown
  | sog1OffCountdown
  | sog1OnCountdown
  | sog1StayoffCountdown
  | sog2OffCountdown
  | sog2OnCountdown
  | sog2StayoffCountdown
  | firmwareVersion
  | modelName
  | sku
  | serialNumber
  | batterySku
  | nominalApparentPower
  | nominalRealPower
  | sogRelayConfig
  | upsName
  | mogName
  | sog0Name
  | sog1Name
  | sog2Name

-- What one KEEP or KEEP_IF line copies to out.
def keep (idx : SmtCfg) : Option SmtCfg := some idx

def keepIf (idx : SmtCfg) (cnd : Bool) : Option SmtCfg := if cnd then some idx else none

def smtKeepLines (hasSog0 hasSog1 hasSog2 : Bool) : List (Option SmtCfg) :=
  [ keep .transferHigh,
    keep .transferLow,
    keep .batTestInterval,
    keep .sensitivity,
    keep .outputVoltageSetting,
    keep .manufactureDate,
    keep .batteryDate,
    keep .mogTurnOffDelay,
    keep .mogTurnOnDelay,
    keep .mogMinReturnRuntime,
    keep .mogLoadshedConfig,
    keep .mogLoadshedRuntime,
    keep .mogLoadshedTimeOnBat,
    keepIf .sog0TurnOffDelay hasSog0,
    keepIf .sog0TurnOnDelay hasSog0,
    keepIf .sog0MinReturnRuntime hasSog0,
    keepIf .sog0LoadshedConfig hasSog0,
    keepIf .sog0LoadshedRuntime hasSog0,
    keepIf .sog0LoadshedTimeOnBat hasSog0,
    keepIf .sog1TurnOffDelay hasSog1,
    keepIf .sog1TurnOnDelay hasSog1,
    keepIf .sog1MinReturnRuntime hasSog1,
    keepIf .sog1LoadshedConfig hasSog1,
    keepIf .sog1LoadshedRuntime hasSog1,
    keepIf .sog1LoadshedTimeOnBat hasSog1,
    keepIf .sog2TurnOffDelay hasSog2,
    keepIf .sog2TurnOnDelay hasSog2,
    keepIf .sog2MinReturnRuntime hasSog2,
    keepIf .sog2LoadshedConfig hasSog2,
    keepIf .sog2LoadshedRuntime hasSog2,
    keepIf .sog2LoadshedTimeOnBat hasSog2,
    keep .upsStatus,
    keep .transferReason,
    keep .mogStatus,
    keepIf .sog0Status hasSog0,
    keepIf .sog1Status hasSog1,
    keepIf .sog2Status hasSog2,
    keep .signalingStatus,
    keep .generalError,
    keep .powerSystemError,
    keep .batterySystemError,
    keep .replaceBatteryTestStatus,
    keep .runtimeCalibrationStatus,
    keep .batteryLifetimeStatus,
    keep .uiStatus,
    keep .batteryRuntime,
    keep .batteryChargePct,
    keep .batteryVoltagePos,
    keep .batteryVoltageNeg,
    keep .batteryInternalDate,
    keep .batteryTemperature,
    keep .outputLoadPct,
    keep .outputApparentPowerPct,
    keep .outputCurrent,
    keep .outputVoltage,
    keep .outputFrequency,
    keep .outputEnergy,
    keep .bypassInputStatus,
    keep .bypassVoltage,
    keep .bypassFrequency,
    keep .inputStatus,
    keep .inputVoltage,
    keep .efficiency,
    keep .mogOffCountdown,
    keep .mogOnCountdown,
    keep .mogStayoffCountdown,
    keepIf .sog0OffCountdown hasSog0,
    keepIf .sog0OnCountdown hasSog0,
    keepIf .sog0StayoffCountdown hasSog0,
    keepIf .sog1OffCountdown hasSog1,
    keepIf .sog1OnCountdown hasSog1,
    keepIf .sog1StayoffCountdown hasSog1,
    keepIf .sog2OffCountdown hasSog2,
    keepIf .sog2OnCountdown hasSog2,
    keepIf .sog2StayoffCountdown hasSog2,
    keep .firmwareVersion,
    keep .modelName,
    keep .sku,
    keep .serialNumber,
    keep .batterySku,
    keep .nominalApparentPower,
    keep .nominalRealPower,
    keep .sogRelayConfig,
    keep .upsName,
    keep .mogName,
    keepIf .sog0Name hasSog0,
    keepIf .sog1Name hasSog1,
    keepIf .sog2Name hasSog2 ]

def smtResolveConfigRegs (defaultRegs : List ModbusReg) (read : Option Register) : List ModbusReg :=
  (smtKeepLines (hasSog read 0) (hasSog read 1) (hasSog read 2)).filterMap fun line =>
    line.bind fun idx => defaultRegs[idx.ctorIdx]?

-- The switched outlet group a descriptor belongs to, by its name.
def outletGroup (name : String) : Option Nat :=
  if "sog0_".toList.isPrefixOf name.toList then some 0
  else if "sog1_".toList.isPrefixOf name.toList then some 1
  else if "sog2_".toList.isPrefixOf name.toList then some 2
  else none

-- A register that every unit has, or whose outlet group the unit reports (or does not tell).
def ModbusReg.presentOn (entry : ModbusReg) (read : Option Register) : Bool :=
  match outletGroup entry.reg.name with
  | none => true
  | some group => hasSog read group

def ModbusReg.inGroups (entry : ModbusReg) (sog0 sog1 sog2 : Bool) : Bool :=
  match outletGroup entry.reg.name with
  | none => true
  | some 0 => sog0
  | some 1 => sog1
  | some _ => sog2

theorem outlet_group_cases (name : String) :
    outletGroup name = none ∨ outletGroup name = some 0 ∨ outletGroup name = some 1 ∨ outletGroup name = some 2 := by
  by_cases first : "sog0_".toList.isPrefixOf name.toList = true
  · exact Or.inr (Or.inl (if_pos first))
  by_cases second : "sog1_".toList.isPrefixOf name.toList = true
  · exact Or.inr (Or.inr (Or.inl ((if_neg first).trans (if_pos second))))
  by_cases third : "sog2_".toList.isPrefixOf name.toList = true
  · exact Or.inr (Or.inr (Or.inr ((if_neg first).trans ((if_neg second).trans (if_pos third)))))
  · exact Or.inl ((if_neg first).trans ((if_neg second).trans (if_neg third)))

theorem present_on_groups (entry : ModbusReg) (read : Option Register) :
    entry.presentOn read = entry.inGroups (hasSog read 0) (hasSog read 1) (hasSog read 2) := by
  rcases outlet_group_cases entry.reg.name with found | found | found | found <;>
    simp only [ModbusReg.presentOn, ModbusReg.inGroups, found]

-- The resolver keeps exactly the registers of the outlet groups the unit has, once
-- each and in the order of the table.
theorem smt_resolved_present (read : Option Register) :
    smtResolveConfigRegs smtConfigRegs read = smtConfigRegs.filter fun entry => entry.presentOn read := by
  have kept : ∀ sog0 sog1 sog2 : Bool,
      ((smtKeepLines sog0 sog1 sog2).filterMap fun line => line.bind fun idx => smtConfigRegs[idx.ctorIdx]?) =
        smtConfigRegs.filter fun entry => entry.inGroups sog0 sog1 sog2 := by
    decide +kernel
  rw [smtResolveConfigRegs, kept]
  exact List.filter_congr fun entry _ => (present_on_groups entry read).symm

end AiriesUps.Ups
