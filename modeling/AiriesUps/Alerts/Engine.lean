import AiriesUps.Monitor.StatusSnapshot

set_option autoImplicit false

namespace AiriesUps.Alerts

open Ups Monitor

structure AlertState where
  overload : Bool
  fault : Bool
  batReplace : Bool
  inputHigh : Bool
  inputLow : Bool
  loadHigh : Bool
  batLow : Bool
  prevCharge : Double
  prevGeneralError : BitVec 16
  prevPowerError : Word
  prevBatteryError : BitVec 16
deriving DecidableEq, Repr

def alertsInit : AlertState :=
  { overload := false, fault := false, batReplace := false, inputHigh := false, inputLow := false, loadHigh := false
    batLow := false, prevCharge := .ofInt (-1), prevGeneralError := 0, prevPowerError := 0, prevBatteryError := 0 }

-- alert_thresholds_t
structure Thresholds where
  transferHigh : BitVec 16
  transferLow : BitVec 16
deriving DecidableEq, Repr

structure AlertConfig where
  loadHighPct : Int
  batteryLowPct : Int
  voltageWarnOffset : Int
  voltageDeadband : Int
deriving DecidableEq, Repr

def alertsLoadConfig (config : Config) : AlertConfig :=
  { loadHighPct := config.getInt "alerts.load_high_pct" 80
    batteryLowPct := config.getInt "alerts.battery_low_pct" 50
    voltageWarnOffset := config.getInt "alerts.voltage_warn_offset" 5
    voltageDeadband := config.getInt "alerts.voltage_deadband" 1 }

-- The body of an alert: a fixed text, or a format string of the source and the values
-- it is filled with.
inductive AlertBody where
  | text (text : String)
  | load (loadPct : Double)
  | status (status : Word)
  | input (voltage : Double) (transfer : BitVec 16) (warn : Int)
  | loadLimit (loadPct : Double) (threshold : Int)
  | batteryLimit (chargePct : Double) (threshold : Int)
  | battery (chargePct : Double)
deriving DecidableEq, Repr

-- One call of alert_notify_fn.
structure Notification where
  severity : String
  category : String
  title : String
  body : AlertBody
deriving DecidableEq, Repr

def baterrReplace : BitVec 16 := 1#16 <<< 2

def decodeBits {width : Nat} (raw : BitVec width) (max : Nat) (table : List (Nat × String)) : List String :=
  ((table.filter fun entry => has raw (BitVec.ofNat width 1 <<< entry.1)).map Prod.snd).take max

def upsDecodeGeneralErrors (raw : BitVec 16) : List String :=
  decodeBits raw 16 [(0, "SiteWiring"), (1, "EEPROM"), (2, "ADConverter"), (3, "LogicPowerSupply"), (4, "InternalComm"),
    (5, "UIButton"), (7, "EPOActive"), (8, "FirmwareMismatch")]

def upsDecodePowerErrors (raw : Word) : List String :=
  decodeBits raw 16 [(0, "Overload"), (1, "ShortCircuit"), (2, "Overvoltage"), (4, "Overtemperature"), (10, "Fan"),
    (13, "Inverter")]

def upsDecodeBatteryErrors (raw : BitVec 16) : List String :=
  decodeBits raw 16 [(0, "Disconnected"), (1, "Overvoltage"), (2, "NeedsReplacement"), (3, "OvertemperatureCritical"),
    (4, "ChargerFault"), (5, "TempSensorFault"), (7, "OvertemperatureWarning"), (8, "GeneralError"),
    (9, "CommunicationError")]

-- What check_bit_alert, check_threshold_alert and the battery-replace block notify of:
-- the condition came, or it went.
def edgeAlert (prev current : Bool) (came went : Notification) : List Notification :=
  if current && !prev then [came] else if !current && prev then [went] else []

def checkBitAlert (prev current : Bool) (category sevOn titleOn sevOff titleOff : String) (body : AlertBody) (bit : Word) :
    List Notification × Word :=
  (edgeAlert prev current ⟨sevOn, category, titleOn, body⟩ ⟨sevOff, category, titleOff, body⟩,
    if current != prev then bit else 0)

def checkThresholdAlert (prev current : Bool) (category sevOn titleOn sevOff titleOff : String) (body : AlertBody) :
    List Notification :=
  edgeAlert prev current ⟨sevOn, category, titleOn, body⟩ ⟨sevOff, category, titleOff, body⟩

-- The three error registers: the bits that appeared, then the bits that cleared.
def registerAlerts {width : Nat} (prev current : BitVec width) (decode : BitVec width → List String)
    (category title label : String) : List Notification :=
  (decode (current &&& ~~~prev)).map (fun name => ⟨"error", category, title, .text (label ++ ": " ++ name)⟩) ++
    (decode (prev &&& ~~~current)).map fun name =>
      ⟨"info", category, title ++ " Cleared", .text (label ++ " cleared: " ++ name)⟩

def isInputHigh (state : AlertState) (data : UpsData) (thresh : Thresholds) (acfg : AlertConfig) : Bool :=
  let highEnter := thresh.transferHigh.toNat - acfg.voltageWarnOffset
  if state.inputHigh then Double.lt (.ofInt (highEnter - acfg.voltageDeadband)) data.inputVoltage
  else Double.lt (.ofInt highEnter) data.inputVoltage

def isInputLow (state : AlertState) (data : UpsData) (thresh : Thresholds) (acfg : AlertConfig) : Bool :=
  let lowEnter := thresh.transferLow.toNat + acfg.voltageWarnOffset
  if state.inputLow then Double.lt data.inputVoltage (.ofInt (lowEnter + acfg.voltageDeadband))
  else Double.lt data.inputVoltage (.ofInt lowEnter)

def checkInputHigh (state : AlertState) (data : UpsData) (thresh : Thresholds) (acfg : AlertConfig) :
    Bool × List Notification :=
  if thresh.transferHigh.toNat > 0 then
    let current := isInputHigh state data thresh acfg
    (current, checkThresholdAlert state.inputHigh current "power" "warning" "UPS Input Voltage High" "info"
      "UPS Input Voltage Normal"
      (.input data.inputVoltage thresh.transferHigh (thresh.transferHigh.toNat - acfg.voltageWarnOffset)))
  else (state.inputHigh, [])

def checkInputLow (state : AlertState) (data : UpsData) (thresh : Thresholds) (acfg : AlertConfig) :
    Bool × List Notification :=
  if thresh.transferLow.toNat > 0 then
    let current := isInputLow state data thresh acfg
    (current, checkThresholdAlert state.inputLow current "power" "warning" "UPS Input Voltage Low" "info"
      "UPS Input Voltage Normal"
      (.input data.inputVoltage thresh.transferLow (thresh.transferLow.toNat + acfg.voltageWarnOffset)))
  else (state.inputLow, [])

def checkLoadHigh (state : AlertState) (data : UpsData) (acfg : AlertConfig) : Bool × List Notification :=
  let current := Double.lt (.ofInt acfg.loadHighPct) data.loadPct
  (current, checkThresholdAlert state.loadHigh current "power" "warning" "UPS Load High" "info" "UPS Load Normal"
    (.loadLimit data.loadPct acfg.loadHighPct))

-- Gated: online, and the charge not rising.
def checkBatteryLow (state : AlertState) (data : UpsData) (acfg : AlertConfig) : Bool × List Notification :=
  let isOnline := has data.status stOnline
  let chargeBelow := Double.lt data.chargePct (.ofInt acfg.batteryLowPct)
  let chargeNotRising := Double.le (.ofInt 0) state.prevCharge && Double.le data.chargePct state.prevCharge
  let recovered := state.batLow && (!chargeBelow || !isOnline || Double.lt state.prevCharge data.chargePct)
  if chargeBelow && isOnline && chargeNotRising && !state.batLow then
    (true, [⟨"warning", "power", "UPS Battery Low", .batteryLimit data.chargePct acfg.batteryLowPct⟩])
  else if recovered then (false, [⟨"info", "power", "UPS Battery Normal", .battery data.chargePct⟩])
  else (state.batLow, [])

structure AlertResult where
  state : AlertState
  alerted : Word
  notifications : List Notification
deriving DecidableEq, Repr

def alertsCheck (state : AlertState) (data : UpsData) (thresh : Thresholds) (acfg : AlertConfig) : AlertResult :=
  let isOverload := has data.status stOverload
  let overload := checkBitAlert state.overload isOverload "fault" "error" "UPS Overload" "info" "UPS Overload Cleared"
    (.load data.loadPct) stOverload
  let isFault := has data.status stFault
  let fault := checkBitAlert state.fault isFault "fault" "error" "UPS Fault" "info" "UPS Fault Cleared"
    (.status data.status) stFault
  let isBatReplace := has data.batSystemError baterrReplace
  let batReplace := edgeAlert state.batReplace isBatReplace
    ⟨"error", "system", "UPS Battery Replace Required", .text "Battery system error detected"⟩
    ⟨"info", "system", "UPS Battery Error Cleared", .text "Battery system error detected"⟩
  let inputHigh := checkInputHigh state data thresh acfg
  let inputLow := checkInputLow state data thresh acfg
  let loadHigh := checkLoadHigh state data acfg
  let batLow := checkBatteryLow state data acfg
  { state :=
      { overload := isOverload, fault := isFault, batReplace := isBatReplace, inputHigh := inputHigh.1
        inputLow := inputLow.1, loadHigh := loadHigh.1, batLow := batLow.1, prevCharge := data.chargePct
        prevGeneralError := data.generalError, prevPowerError := data.powerSystemError
        prevBatteryError := data.batSystemError }
    alerted := overload.2 ||| fault.2
    notifications :=
      overload.1 ++ fault.1 ++ batReplace ++ inputHigh.2 ++ inputLow.2 ++ loadHigh.2 ++ batLow.2 ++
        registerAlerts state.prevGeneralError data.generalError upsDecodeGeneralErrors "system" "UPS General Error"
          "General error" ++
        registerAlerts state.prevPowerError data.powerSystemError upsDecodePowerErrors "fault" "UPS Power System Error"
          "Power system error" ++
        registerAlerts state.prevBatteryError data.batSystemError upsDecodeBatteryErrors "system" "UPS Battery Error"
          "Battery error" }

def alertsSeedFromSnapshot (state : AlertState) (snap : Snapshot) : AlertState :=
  { state with
    overload := has snap.status stOverload
    fault := has snap.status stFault
    batReplace := has snap.batSystemError baterrReplace
    prevGeneralError := snap.generalError
    prevPowerError := snap.powerSystemError
    prevBatteryError := snap.batSystemError }

end AiriesUps.Alerts
