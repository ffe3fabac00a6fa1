import AiriesUps.Alerts.Restart
import AiriesUps.Lib.Alternation

set_option autoImplicit false

namespace AiriesUps.Alerts

open Ups Monitor Alternation

-- The conditions alerts_check keeps a flag for.
inductive Condition where
  | overload
  | fault
  | batReplace
  | inputHigh
  | inputLow
  | loadHigh
  | batLow
deriving DecidableEq, Repr

def Condition.all : List Condition := [.overload, .fault, .batReplace, .inputHigh, .inputLow, .loadHigh, .batLow]

def Condition.flag (state : AlertState) : Condition → Bool
  | .overload => state.overload
  | .fault => state.fault
  | .batReplace => state.batReplace
  | .inputHigh => state.inputHigh
  | .inputLow => state.inputLow
  | .loadHigh => state.loadHigh
  | .batLow => state.batLow

def Condition.onset : Condition → String
  | .overload => "UPS Overload"
  | .fault => "UPS Fault"
  | .batReplace => "UPS Battery Replace Required"
  | .inputHigh => "UPS Input Voltage High"
  | .inputLow => "UPS Input Voltage Low"
  | .loadHigh => "UPS Load High"
  | .batLow => "UPS Battery Low"

def Condition.clear : Condition → String
  | .overload => "UPS Overload Cleared"
  | .fault => "UPS Fault Cleared"
  | .batReplace => "UPS Battery Error Cleared"
  | .inputHigh | .inputLow => "UPS Input Voltage Normal"
  | .loadHigh => "UPS Load Normal"
  | .batLow => "UPS Battery Normal"

-- The block of alerts_check for the condition: its flag afterwards and what it notifies.
def Condition.block (state : AlertState) (poll : AlertPoll) : Condition → Bool × List Notification
  | .overload =>
    let current := has poll.data.status stOverload
    (current, (checkBitAlert state.overload current "fault" "error" "UPS Overload" "info" "UPS Overload Cleared"
      (.load poll.data.loadPct) stOverload).1)
  | .fault =>
    let current := has poll.data.status stFault
    (current, (checkBitAlert state.fault current "fault" "error" "UPS Fault" "info" "UPS Fault Cleared"
      (.status poll.data.status) stFault).1)
  | .batReplace =>
    let current := has poll.data.batSystemError baterrReplace
    (current, edgeAlert state.batReplace current
      ⟨"error", "system", "UPS Battery Replace Required", .text "Battery system error detected"⟩
      ⟨"info", "system", "UPS Battery Error Cleared", .text "Battery system error detected"⟩)
  | .inputHigh => checkInputHigh state poll.data poll.thresh poll.acfg
  | .inputLow => checkInputLow state poll.data poll.thresh poll.acfg
  | .loadHigh => checkLoadHigh state poll.data poll.acfg
  | .batLow => checkBatteryLow state poll.data poll.acfg

def registerBlocks (state : AlertState) (poll : AlertPoll) : List Notification :=
  registerAlerts state.prevGeneralError poll.data.generalError upsDecodeGeneralErrors "system" "UPS General Error"
    "General error" ++
  registerAlerts state.prevPowerError poll.data.powerSystemError upsDecodePowerErrors "fault" "UPS Power System Error"
    "Power system error" ++
  registerAlerts state.prevBatteryError poll.data.batSystemError upsDecodeBatteryErrors "system" "UPS Battery Error"
    "Battery error"

-- The notifications of a poll, each with the condition whose block made it. Titles do not
-- tell: the two voltage alerts clear with one text, and an error register clears with the
-- title of the battery alert.
def sourced (state : AlertState) (poll : AlertPoll) : List (Option Condition × Notification) :=
  (Condition.all.flatMap fun condition => (condition.block state poll).2.map fun made => (some condition, made)) ++
    (registerBlocks state poll).map fun made => (none, made)

-- One call of alerts_check; thresh may be NULL.
structure AlertCall where
  data : UpsData
  thresh : Option Thresholds
  acfg : AlertConfig
deriving DecidableEq, Repr

-- Without thresholds both voltage blocks are skipped, as with transfer points of zero.
def AlertCall.poll (call : AlertCall) : AlertPoll :=
  { data := call.data, thresh := call.thresh.getD { transferHigh := 0, transferLow := 0 }, acfg := call.acfg }

def Condition.edge (condition : Condition) (made : Notification) : Option Edge :=
  if made.title = condition.onset then some .rise else if made.title = condition.clear then some .fall else none

def Condition.edges (condition : Condition) (state : AlertState) (poll : AlertPoll) : List Edge :=
  ((sourced state poll).filter fun made => made.1 = some condition).filterMap fun made => condition.edge made.2

def alertsNext (state : AlertState) (call : AlertCall) : AlertState := (alertsPoll state call.poll).state

def Condition.log (condition : Condition) : AlertState → List AlertCall → List Edge :=
  history alertsNext fun state call => condition.edges state call.poll

theorem sourced_notifications (state : AlertState) (poll : AlertPoll) :
    (sourced state poll).map Prod.snd = (alertsPoll state poll).notifications := by
  simp [sourced, Condition.all, Condition.block, registerBlocks, alertsPoll, alertsCheck, Function.comp_def]

theorem flag_after_block (condition : Condition) (state : AlertState) (poll : AlertPoll) :
    condition.flag (alertsPoll state poll).state = (condition.block state poll).1 := by
  cases condition <;> rfl

theorem condition_edges (condition : Condition) (state : AlertState) (poll : AlertPoll) :
    condition.edges state poll = (condition.block state poll).2.filterMap condition.edge := by
  cases condition <;>
    simp [Condition.edges, sourced, Condition.all, List.filter_map, Function.comp_def, List.filterMap_map]

theorem clear_ne_onset (condition : Condition) : condition.clear ≠ condition.onset := by
  cases condition <;> decide

theorem edge_alert_edges (condition : Condition) (prev current : Bool) (came went : Notification)
    (onset : came.title = condition.onset) (clear : went.title = condition.clear) :
    (edgeAlert prev current came went).filterMap condition.edge = Alternation.edges prev current := by
  cases prev <;> cases current <;>
    simp [edgeAlert, Alternation.edges, Condition.edge, onset, clear, clear_ne_onset]

theorem edge_alternates (condition : Condition) (prev current : Bool) (came went : Notification)
    (onset : came.title = condition.onset) (clear : went.title = condition.clear) :
    Alternates prev ((edgeAlert prev current came went).filterMap condition.edge) current := by
  rw [edge_alert_edges condition prev current came went onset clear]
  exact alternates_edges prev current

-- The shape of both voltage blocks: without a transfer point the flag stays.
theorem guarded_alternates (condition : Condition) (read : Prop) [Decidable read] (prev current : Bool)
    (came went : Notification) (onset : came.title = condition.onset) (clear : went.title = condition.clear) :
    let block : Bool × List Notification := if read then (current, edgeAlert prev current came went) else (prev, [])
    Alternates prev (block.2.filterMap condition.edge) block.1 := by
  by_cases present : read
  · rw [if_pos present]
    exact edge_alternates condition prev current came went onset clear
  · rw [if_neg present]
    exact alternates_nil prev

-- The clear is guarded by the flag itself, the onset by its being down.
theorem battery_low_alternates (state : AlertState) (data : UpsData) (acfg : AlertConfig) :
    Alternates state.batLow ((checkBatteryLow state data acfg).2.filterMap (Condition.edge .batLow))
      (checkBatteryLow state data acfg).1 := by
  simp only [checkBatteryLow]
  split
  case isTrue low =>
    have down : state.batLow = false := by
      simp only [Bool.and_eq_true, Bool.not_eq_true'] at low
      exact low.2
    simp [down, Alternates, Condition.edge, Condition.onset]
  case isFalse =>
    split
    case isTrue recovered =>
      have up : state.batLow = true := (Bool.and_eq_true_iff.mp recovered).1
      simp [up, Alternates, Condition.edge, Condition.onset, Condition.clear]
    case isFalse => exact alternates_nil _

theorem block_alternates (condition : Condition) (state : AlertState) (poll : AlertPoll) :
    Alternates (condition.flag state) ((condition.block state poll).2.filterMap condition.edge)
      (condition.block state poll).1 := by
  cases condition with
  | overload => exact edge_alternates .overload _ _ _ _ rfl rfl
  | fault => exact edge_alternates .fault _ _ _ _ rfl rfl
  | batReplace => exact edge_alternates .batReplace _ _ _ _ rfl rfl
  | inputHigh => exact guarded_alternates .inputHigh _ _ _ _ _ rfl rfl
  | inputLow => exact guarded_alternates .inputLow _ _ _ _ _ rfl rfl
  | loadHigh => exact edge_alternates .loadHigh _ _ _ _ rfl rfl
  | batLow => exact battery_low_alternates state poll.data poll.acfg

theorem call_alternates (condition : Condition) (state : AlertState) (call : AlertCall) :
    Alternates (condition.flag state) (condition.edges state call.poll) (condition.flag (alertsNext state call)) := by
  rw [condition_edges, alertsNext, flag_after_block]
  exact block_alternates condition state call.poll

-- Started clear, every condition's notifications pair up; started from a snapshot they
-- go on from the flags it seeds.
theorem onset_and_clear_alternate (condition : Condition) (calls : List AlertCall) :
    Paired (condition.log alertsInit calls) (condition.flag (calls.foldl alertsNext alertsInit)) ∧
      ∀ snap, Alternates (condition.flag (alertsSeedFromSnapshot alertsInit snap))
        (condition.log (alertsSeedFromSnapshot alertsInit snap) calls)
        (condition.flag (calls.foldl alertsNext (alertsSeedFromSnapshot alertsInit snap))) := by
  have every : ∀ start, Alternates (condition.flag start) (condition.log start calls)
      (condition.flag (calls.foldl alertsNext start)) := fun start =>
    alternates_history alertsNext _ condition.flag (call_alternates condition) start calls
  have down : condition.flag alertsInit = false := by cases condition <;> rfl
  refine ⟨paired_of_alternates _ _ ?_, fun snap => every _⟩
  have clear := every alertsInit
  rw [down] at clear
  exact clear

end AiriesUps.Alerts
