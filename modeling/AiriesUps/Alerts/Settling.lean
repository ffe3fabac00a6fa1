import AiriesUps.Alerts.Latches

set_option autoImplicit false

namespace AiriesUps.Alerts

open Ups Monitor Alternation

-- alerts_check called count times with the same reading, thresholds and configuration.
def alertsRepeated (state : AlertState) (call : AlertCall) (count : Nat) : AlertState :=
  (fun state => alertsNext state call)^[count] state

-- From the third call on nothing is notified.
def Settles (state : AlertState) (call : AlertCall) : Prop :=
  ∀ count, 2 ≤ count → (alertsPoll (alertsRepeated state call count) call.poll).notifications = []

def highEnter (poll : AlertPoll) : Int := poll.thresh.transferHigh.toNat - poll.acfg.voltageWarnOffset
def highClear (poll : AlertPoll) : Int := highEnter poll - poll.acfg.voltageDeadband
def lowEnter (poll : AlertPoll) : Int := poll.thresh.transferLow.toNat + poll.acfg.voltageWarnOffset
def lowClear (poll : AlertPoll) : Int := lowEnter poll + poll.acfg.voltageDeadband

-- The reading lies where the alert is entered and left at once.
def InvertedHigh (poll : AlertPoll) : Prop :=
  poll.thresh.transferHigh.toNat > 0 ∧ Double.lt (.ofInt (highEnter poll)) poll.data.inputVoltage = true ∧
    Double.le poll.data.inputVoltage (.ofInt (highClear poll)) = true

def InvertedLow (poll : AlertPoll) : Prop :=
  poll.thresh.transferLow.toNat > 0 ∧ Double.lt poll.data.inputVoltage (.ofInt (lowEnter poll)) = true ∧
    Double.le (.ofInt (lowClear poll)) poll.data.inputVoltage = true

-- What each block makes of its own flag.
def highLatch (poll : AlertPoll) (high : Bool) : Bool :=
  if poll.thresh.transferHigh.toNat > 0 then
    if high then Double.lt (.ofInt (highClear poll)) poll.data.inputVoltage
    else Double.lt (.ofInt (highEnter poll)) poll.data.inputVoltage
  else high

def lowLatch (poll : AlertPoll) (low : Bool) : Bool :=
  if poll.thresh.transferLow.toNat > 0 then
    if low then Double.lt poll.data.inputVoltage (.ofInt (lowClear poll))
    else Double.lt poll.data.inputVoltage (.ofInt (lowEnter poll))
  else low

-- The battery block once prev_charge is the charge of the reading itself.
def batteryLatch (data : UpsData) (acfg : AlertConfig) (low : Bool) : Bool :=
  let below := Double.lt data.chargePct (.ofInt acfg.batteryLowPct)
  let notRising := Double.le (.ofInt 0) data.chargePct && Double.le data.chargePct data.chargePct
  if low then below && has data.status stOnline && !Double.lt data.chargePct data.chargePct
  else below && has data.status stOnline && notRising

theorem edge_alert_nil (prev current : Bool) (came went : Notification) :
    edgeAlert prev current came went = [] ↔ current = prev := by
  cases prev <;> cases current <;> simp [edgeAlert]

theorem guarded_nil (read : Prop) [Decidable read] (prev current : Bool) (came went : Notification) :
    let block : Bool × List Notification := if read then (current, edgeAlert prev current came went) else (prev, [])
    block.2 = [] ↔ block.1 = prev := by
  by_cases present : read
  · rw [if_pos present]
    exact edge_alert_nil prev current came went
  · simp [present]

theorem battery_nil (state : AlertState) (data : UpsData) (acfg : AlertConfig) :
    (checkBatteryLow state data acfg).2 = [] ↔ (checkBatteryLow state data acfg).1 = state.batLow := by
  simp only [checkBatteryLow]
  split
  · simp_all
  split
  · simp_all
  · simp

theorem block_nil (condition : Condition) (state : AlertState) (poll : AlertPoll) :
    (condition.block state poll).2 = [] ↔ (condition.block state poll).1 = condition.flag state := by
  cases condition with
  | inputHigh => exact guarded_nil ..
  | inputLow => exact guarded_nil ..
  | batLow => exact battery_nil ..
  | _ => exact edge_alert_nil ..

theorem poll_silent_iff (state : AlertState) (poll : AlertPoll) :
    (alertsPoll state poll).notifications = [] ↔
      (∀ condition : Condition, condition.flag (alertsPoll state poll).state = condition.flag state) ∧
        registerBlocks state poll = [] := by
  have all : ∀ condition : Condition, condition ∈ Condition.all := by
    intro condition
    cases condition <;> simp [Condition.all]
  rw [← sourced_notifications, List.map_eq_nil_iff, sourced, List.append_eq_nil_iff, List.map_eq_nil_iff,
    List.flatMap_eq_nil_iff]
  refine and_congr_left fun _ => ?_
  constructor
  · intro silent condition
    rw [flag_after_block, ← block_nil]
    exact List.map_eq_nil_iff.mp (silent condition (all condition))
  · intro same condition _
    rw [List.map_eq_nil_iff, block_nil, ← flag_after_block]
    exact same condition

theorem register_alerts_same {width : Nat} (value : BitVec width) (decode : BitVec width → List String)
    (nothing : decode (BitVec.ofNat width 0) = []) (category title label : String) :
    registerAlerts value value decode category title label = [] := by
  rw [registerAlerts, BitVec.and_not_self]
  simp [nothing]

theorem registers_silent (state : AlertState) (call : AlertCall) :
    registerBlocks (alertsNext state call) call.poll = [] := by
  have general := register_alerts_same call.data.generalError upsDecodeGeneralErrors (by decide) "system"
    "UPS General Error" "General error"
  have power := register_alerts_same call.data.powerSystemError upsDecodePowerErrors (by decide) "fault"
    "UPS Power System Error" "Power system error"
  have battery := register_alerts_same call.data.batSystemError upsDecodeBatteryErrors (by decide) "system"
    "UPS Battery Error" "Battery error"
  rw [registerBlocks]
  exact List.append_eq_nil_iff.mpr ⟨List.append_eq_nil_iff.mpr ⟨general, power⟩, battery⟩

theorem repeated_succ (state : AlertState) (call : AlertCall) (count : Nat) :
    alertsRepeated state call (count + 1) = alertsNext (alertsRepeated state call count) call :=
  Function.iterate_succ_apply' ..

theorem high_next (state : AlertState) (call : AlertCall) :
    (alertsNext state call).inputHigh = highLatch call.poll state.inputHigh := by
  simp only [alertsNext, alertsPoll, alertsCheck, checkInputHigh, isInputHigh, highLatch, highClear, highEnter]
  split <;> rfl

theorem low_next (state : AlertState) (call : AlertCall) :
    (alertsNext state call).inputLow = lowLatch call.poll state.inputLow := by
  simp only [alertsNext, alertsPoll, alertsCheck, checkInputLow, isInputLow, lowLatch, lowClear, lowEnter]
  split <;> rfl

theorem battery_next (state : AlertState) (call : AlertCall) (same : state.prevCharge = call.data.chargePct) :
    (alertsNext state call).batLow = batteryLatch call.data call.acfg state.batLow := by
  simp only [alertsNext, alertsPoll, alertsCheck, AlertCall.poll, checkBatteryLow, batteryLatch, same]
  generalize Double.lt call.data.chargePct (.ofInt call.acfg.batteryLowPct) = below
  generalize has call.data.status stOnline = online
  generalize (Double.le (.ofInt 0) call.data.chargePct && Double.le call.data.chargePct call.data.chargePct) = notRising
  generalize Double.lt call.data.chargePct call.data.chargePct = rising
  cases state.batLow <;> cases below <;> cases online <;> cases notRising <;> cases rising <;> rfl

theorem high_repeated (state : AlertState) (call : AlertCall) (count : Nat) :
    (alertsRepeated state call count).inputHigh = (highLatch call.poll)^[count] state.inputHigh := by
  have moves : Function.Semiconj AlertState.inputHigh (fun state => alertsNext state call) (highLatch call.poll) :=
    fun state => high_next state call
  exact moves.iterate_right count state

theorem low_repeated (state : AlertState) (call : AlertCall) (count : Nat) :
    (alertsRepeated state call count).inputLow = (lowLatch call.poll)^[count] state.inputLow := by
  have moves : Function.Semiconj AlertState.inputLow (fun state => alertsNext state call) (lowLatch call.poll) :=
    fun state => low_next state call
  exact moves.iterate_right count state

-- The first call brings prev_charge up to date.
theorem battery_repeated (state : AlertState) (call : AlertCall) (count : Nat) :
    (alertsRepeated state call (count + 1)).batLow =
      (batteryLatch call.data call.acfg)^[count] (alertsNext state call).batLow := by
  induction count with
  | zero => rfl
  | succ count ih =>
    rw [repeated_succ, battery_next _ _ (by rw [repeated_succ]; rfl), ih, Function.iterate_succ_apply']

theorem high_inverted_iff (poll : AlertPoll) :
    (highLatch poll false = true ∧ highLatch poll true = false) ↔ InvertedHigh poll := by
  by_cases read : poll.thresh.transferHigh.toNat > 0
  · simp only [highLatch, InvertedHigh, read, if_true, true_and, Bool.false_eq_true, if_false]
    refine and_congr_right fun entered => ?_
    exact Double.not_lt_iff_le _ _ (by simp [Double.ofInt]) (Double.lt_number _ _ entered).2
  · simp [highLatch, InvertedHigh, read]

theorem low_inverted_iff (poll : AlertPoll) :
    (lowLatch poll false = true ∧ lowLatch poll true = false) ↔ InvertedLow poll := by
  by_cases read : poll.thresh.transferLow.toNat > 0
  · simp only [lowLatch, InvertedLow, read, if_true, true_and, Bool.false_eq_true, if_false]
    refine and_congr_right fun entered => ?_
    exact Double.not_lt_iff_le _ _ (Double.lt_number _ _ entered).1 (by simp [Double.ofInt])
  · simp [lowLatch, InvertedLow, read]

theorem battery_not_inverted (data : UpsData) (acfg : AlertConfig) :
    ¬(batteryLatch data acfg false = true ∧ batteryLatch data acfg true = false) := by
  simp only [batteryLatch, Double.lt_irrefl, Bool.not_false, Bool.and_true, Bool.false_eq_true, if_false, if_true,
    Bool.and_eq_true]
  rintro ⟨⟨⟨below, online⟩, _⟩, left⟩
  rw [below, online] at left
  cases left

theorem high_settles_iff (state : AlertState) (call : AlertCall) :
    (∀ count, 2 ≤ count → (alertsNext (alertsRepeated state call count) call).inputHigh =
      (alertsRepeated state call count).inputHigh) ↔ ¬InvertedHigh call.poll := by
  simp only [high_next, high_repeated]
  rw [flag_settles_iff _ _ 2 (by decide), high_inverted_iff]

theorem low_settles_iff (state : AlertState) (call : AlertCall) :
    (∀ count, 2 ≤ count → (alertsNext (alertsRepeated state call count) call).inputLow =
      (alertsRepeated state call count).inputLow) ↔ ¬InvertedLow call.poll := by
  simp only [low_next, low_repeated]
  rw [flag_settles_iff _ _ 2 (by decide), low_inverted_iff]

theorem battery_settles (state : AlertState) (call : AlertCall) (count : Nat) (later : 2 ≤ count) :
    (alertsNext (alertsRepeated state call count) call).batLow = (alertsRepeated state call count).batLow := by
  obtain ⟨earlier, rfl⟩ : ∃ earlier, count = earlier + 1 := ⟨count - 1, by omega⟩
  rw [battery_next _ _ (by rw [repeated_succ]; rfl), battery_repeated]
  exact (flag_settles_iff _ _ 1 (Nat.le_refl 1)).mpr (battery_not_inverted _ _) earlier (by omega)

theorem settles_iff_no_inverted_band (state : AlertState) (call : AlertCall) :
    Settles state call ↔ ¬InvertedHigh call.poll ∧ ¬InvertedLow call.poll := by
  rw [← high_settles_iff state call, ← low_settles_iff state call]
  constructor
  · intro settles
    have unchanged := fun count later => ((poll_silent_iff _ _).mp (settles count later)).1
    exact ⟨fun count later => unchanged count later .inputHigh, fun count later => unchanged count later .inputLow⟩
  · rintro ⟨high, low⟩ count later
    obtain ⟨earlier, same⟩ : ∃ earlier, count = earlier + 1 := ⟨count - 1, by omega⟩
    refine (poll_silent_iff _ _).mpr ⟨?_, ?_⟩
    · intro condition
      cases condition with
      | inputHigh => exact high count later
      | inputLow => exact low count later
      | batLow => exact battery_settles state call count later
      | _ =>
        -- these flags are computed from the reading alone
        rw [same, repeated_succ]
        rfl
    · rw [same, repeated_succ]
      exact registers_silent _ call

-- The deadband of -4 puts the point of leaving above the point of entering.
def invertedCall : AlertCall :=
  { data := { UpsData.zero with status := stOnline, inputVoltage := .finite 124 }
    thresh := some ⟨127, 106⟩
    acfg := { alertsLoadConfig .unset with voltageDeadband := -4 } }

theorem negative_deadband_never_settles : ¬∀ state call, Settles state call := by
  intro settles
  exact absurd (settles alertsInit invertedCall 2 (by decide)) (by decide +kernel)

end AiriesUps.Alerts
