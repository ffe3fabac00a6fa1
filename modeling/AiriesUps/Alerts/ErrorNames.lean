import AiriesUps.Alerts.Latches
import AiriesUps.Api.RegJson

set_option autoImplicit false

namespace AiriesUps.Alerts

open Ups Monitor
open Api (BitfieldOpt)

def srtGeneralErrorOpts : List BitfieldOpt :=
  [⟨0x0001, "site_wiring", "Site Wiring"⟩, ⟨0x0002, "eeprom", "EEPROM"⟩, ⟨0x0004, "ad_converter", "A/D Converter"⟩,
    ⟨0x0008, "logic_power_supply", "Logic Power Supply"⟩, ⟨0x0010, "internal_communication", "Internal Communication"⟩,
    ⟨0x0020, "ui_button", "UI Button"⟩, ⟨0x0080, "epo_active", "EPO Active"⟩,
    ⟨0x0100, "firmware_mismatch", "Firmware Mismatch"⟩, ⟨0x0200, "oscillator", "Oscillator"⟩,
    ⟨0x0400, "measurement_mismatch", "Measurement Mismatch"⟩, ⟨0x0800, "subsystem", "Subsystem"⟩]

def srtPowerSystemErrorOpts : List BitfieldOpt :=
  [⟨0x00000001, "output_overload", "Output Overload"⟩, ⟨0x00000002, "output_short_circuit", "Output Short Circuit"⟩,
    ⟨0x00000004, "output_overvoltage", "Output Overvoltage"⟩,
    ⟨0x00000008, "transformer_dc_imbalance", "Transformer DC Imbalance"⟩,
    ⟨0x00000010, "overtemperature", "Overtemperature"⟩, ⟨0x00000020, "backfeed_relay", "Backfeed Relay"⟩,
    ⟨0x00000040, "avr_relay", "AVR Relay"⟩, ⟨0x00000080, "pfc_input_relay", "PFC Input Relay"⟩,
    ⟨0x00000100, "output_relay", "Output Relay"⟩, ⟨0x00000200, "bypass_relay", "Bypass Relay"⟩,
    ⟨0x00000400, "fan", "Fan"⟩, ⟨0x00000800, "pfc", "PFC"⟩, ⟨0x00001000, "dc_bus_overvoltage", "DC Bus Overvoltage"⟩,
    ⟨0x00002000, "inverter", "Inverter"⟩, ⟨0x00004000, "over_current", "Over Current"⟩]

def srtBatterySystemErrorOpts : List BitfieldOpt :=
  [⟨0x0001, "disconnected", "Disconnected"⟩, ⟨0x0002, "overvoltage", "Overvoltage"⟩,
    ⟨0x0004, "needs_replacement", "Needs Replacement"⟩, ⟨0x0008, "overtemp_critical", "Overtemperature Critical"⟩,
    ⟨0x0010, "charger", "Charger"⟩, ⟨0x0020, "temperature_sensor", "Temperature Sensor"⟩,
    ⟨0x0040, "bus_soft_start", "Bus Soft Start"⟩, ⟨0x0080, "overtemp_warning", "Overtemperature Warning"⟩,
    ⟨0x0100, "general_error", "General Error"⟩, ⟨0x0200, "communication", "Communication"⟩]

inductive ErrorRegister where
  | general
  | power
  | battery
deriving DecidableEq, Repr

namespace ErrorRegister

def catalogue : ErrorRegister → List BitfieldOpt
  | general => srtGeneralErrorOpts
  | power => srtPowerSystemErrorOpts
  | battery => srtBatterySystemErrorOpts

-- The table flags[] of the register's ups_decode function.
def flags : ErrorRegister → List (Nat × String)
  | general =>
    [(0, "SiteWiring"), (1, "EEPROM"), (2, "ADConverter"), (3, "LogicPowerSupply"), (4, "InternalComm"), (5, "UIButton"),
      (7, "EPOActive"), (8, "FirmwareMismatch")]
  | power =>
    [(0, "Overload"), (1, "ShortCircuit"), (2, "Overvoltage"), (4, "Overtemperature"), (10, "Fan"), (13, "Inverter")]
  | battery =>
    [(0, "Disconnected"), (1, "Overvoltage"), (2, "NeedsReplacement"), (3, "OvertemperatureCritical"),
      (4, "ChargerFault"), (5, "TempSensorFault"), (7, "OvertemperatureWarning"), (8, "GeneralError"),
      (9, "CommunicationError")]

def label : ErrorRegister → String
  | general => "General error"
  | power => "Power system error"
  | battery => "Battery error"

def word (data : UpsData) : ErrorRegister → Word
  | general => data.generalError.setWidth 32
  | power => data.powerSystemError
  | battery => data.batSystemError.setWidth 32

def shows (register : ErrorRegister) (data : UpsData) (opt : BitfieldOpt) : Bool := has (register.word data) opt.value

def appearedText (register : ErrorRegister) (name : String) : String := register.label ++ ": " ++ name
def clearedText (register : ErrorRegister) (name : String) : String := register.label ++ " cleared: " ++ name

-- Every name the source has for the bit: those of the decoder and those of the catalogue.
def names (register : ErrorRegister) (opt : BitfieldOpt) : List String :=
  ((register.flags.filter fun entry => bit entry.1 == opt.value).map Prod.snd) ++ [opt.name, opt.label]

-- The catalogued bits that no decoder table has.
def undecoded : ErrorRegister → List Word
  | general => [0x0200, 0x0400, 0x0800]
  | power => [0x0008, 0x0020, 0x0040, 0x0080, 0x0100, 0x0200, 0x0800, 0x1000, 0x4000]
  | battery => [0x0040]

end ErrorRegister

-- A bit that comes or goes between two readings is named by one of the notifications.
def Announced (register : ErrorRegister) (before after : UpsData) (made : List Notification) (opt : BitfieldOpt) : Prop :=
  (register.shows before opt = false → register.shows after opt = true →
    ∃ notification ∈ made, ∃ name ∈ register.names opt, notification.body = .text (register.appearedText name)) ∧
  (register.shows before opt = true → register.shows after opt = false →
    ∃ notification ∈ made, ∃ name ∈ register.names opt, notification.body = .text (register.clearedText name))

def registers : List ErrorRegister := [.general, .power, .battery]

-- Every fixed text a notification of alerts_check can carry.
def engineTexts : List String :=
  "Battery system error detected" :: registers.flatMap fun register =>
    register.flags.flatMap fun entry => [register.appearedText entry.2, register.clearedText entry.2]

theorem has_shifted_one {width : Nat} (raw : BitVec width) (index : Nat) (inside : index < width) :
    has raw (BitVec.ofNat width 1 <<< index) = raw.getLsbD index := by
  rw [← BitVec.twoPow_eq]
  exact has_two_pow raw index inside

theorem has_bit_widened {width : Nat} (raw : BitVec width) (index : Nat) (inside : index < width) (narrow : width ≤ 32) :
    has (raw.setWidth 32) (bit index) = raw.getLsbD index := by
  rw [has_bit _ _ (by omega), BitVec.getLsbD_setWidth, decide_eq_true (by omega), Bool.true_and]

-- The output list of sixteen entries is longer than any table.
theorem decode_bits_member {width : Nat} (raw : BitVec width) (table : List (Nat × String)) (short : table.length ≤ 16)
    (name : String) :
    name ∈ decodeBits raw 16 table ↔ ∃ entry ∈ table, has raw (BitVec.ofNat width 1 <<< entry.1) = true ∧ entry.2 = name := by
  rw [decodeBits, List.take_of_length_le]
  · simp only [List.mem_map, List.mem_filter, and_assoc]
  · rw [List.length_map]
    exact Nat.le_trans (List.length_filter_le ..) short

theorem register_announces {width : Nat} (prev current : BitVec width) (table : List (Nat × String))
    (short : table.length ≤ 16) (category title label : String) (entry : Nat × String) (member : entry ∈ table)
    (inside : entry.1 < width) :
    (prev.getLsbD entry.1 = false → current.getLsbD entry.1 = true →
      ∃ notification ∈ registerAlerts prev current (decodeBits · 16 table) category title label,
        notification.body = .text (label ++ ": " ++ entry.2)) ∧
    (prev.getLsbD entry.1 = true → current.getLsbD entry.1 = false →
      ∃ notification ∈ registerAlerts prev current (decodeBits · 16 table) category title label,
        notification.body = .text (label ++ " cleared: " ++ entry.2)) := by
  have named : ∀ old new : BitVec width, old.getLsbD entry.1 = false → new.getLsbD entry.1 = true →
      entry.2 ∈ decodeBits (new &&& ~~~old) 16 table := by
    intro old new absent present
    refine (decode_bits_member _ table short entry.2).mpr ⟨entry, member, ?_, rfl⟩
    rw [has_shifted_one _ _ inside, BitVec.getLsbD_and, BitVec.getLsbD_not, absent, present]
    simp [inside]
  constructor
  · intro absent present
    exact ⟨_, List.mem_append_left _ (List.mem_map_of_mem (named prev current absent present)), rfl⟩
  · intro present absent
    exact ⟨_, List.mem_append_right _ (List.mem_map_of_mem (named current prev absent present)), rfl⟩

theorem register_texts {width : Nat} (prev current : BitVec width) (table : List (Nat × String))
    (short : table.length ≤ 16) (category title label : String) (notification : Notification)
    (member : notification ∈ registerAlerts prev current (decodeBits · 16 table) category title label) :
    ∃ entry ∈ table, notification.body = .text (label ++ ": " ++ entry.2) ∨
      notification.body = .text (label ++ " cleared: " ++ entry.2) := by
  rw [registerAlerts, List.mem_append, List.mem_map, List.mem_map] at member
  rcases member with ⟨name, decoded, rfl⟩ | ⟨name, decoded, rfl⟩
  · obtain ⟨entry, inTable, _, rfl⟩ := (decode_bits_member _ table short name).mp decoded
    exact ⟨entry, inTable, .inl rfl⟩
  · obtain ⟨entry, inTable, _, rfl⟩ := (decode_bits_member _ table short name).mp decoded
    exact ⟨entry, inTable, .inr rfl⟩

-- The register's own alerts, as alerts_check makes them.
def ErrorRegister.alerts (register : ErrorRegister) (state : AlertState) (data : UpsData) : List Notification :=
  match register with
  | .general => registerAlerts state.prevGeneralError data.generalError (decodeBits · 16 register.flags) "system"
      "UPS General Error" register.label
  | .power => registerAlerts state.prevPowerError data.powerSystemError (decodeBits · 16 register.flags) "fault"
      "UPS Power System Error" register.label
  | .battery => registerAlerts state.prevBatteryError data.batSystemError (decodeBits · 16 register.flags) "system"
      "UPS Battery Error" register.label

theorem register_blocks_eq (state : AlertState) (poll : AlertPoll) :
    registerBlocks state poll = registers.flatMap fun register => register.alerts state poll.data := by
  simp [registers, ErrorRegister.alerts, registerBlocks, ErrorRegister.flags, ErrorRegister.label]
  rfl

theorem poll_notifications (state : AlertState) (poll : AlertPoll) :
    (alertsPoll state poll).notifications =
      (Condition.all.flatMap fun condition => (condition.block state poll).2) ++
        registers.flatMap fun register => register.alerts state poll.data := by
  rw [← register_blocks_eq, ← sourced_notifications]
  simp [sourced, Function.comp_def, List.map_flatMap]

theorem edge_alert_body (prev current : Bool) (came went notification : Notification)
    (member : notification ∈ edgeAlert prev current came went) (same : went.body = came.body) :
    notification.body = came.body := by
  rw [edgeAlert] at member
  split at member
  · rw [List.mem_singleton.mp member]
  split at member
  · rw [List.mem_singleton.mp member, same]
  · cases member

theorem guarded_body (read : Prop) [Decidable read] (prev current : Bool) (came went notification : Notification)
    (member : notification ∈
      (if read then (current, edgeAlert prev current came went) else (prev, []) : Bool × List Notification).2)
    (same : went.body = came.body) : notification.body = came.body := by
  split at member
  · exact edge_alert_body prev current came went notification member same
  · cases member

-- Among the flag alerts only that of the battery has a fixed text.
theorem block_texts (condition : Condition) (state : AlertState) (poll : AlertPoll) (notification : Notification)
    (member : notification ∈ (condition.block state poll).2) (text : String) (fixed : notification.body = .text text) :
    text = "Battery system error detected" := by
  cases condition with
  | batReplace =>
    rw [edge_alert_body _ _ _ _ notification member rfl] at fixed
    cases fixed
    rfl
  | inputHigh => cases (guarded_body _ _ _ _ _ notification member rfl).symm.trans fixed
  | inputLow => cases (guarded_body _ _ _ _ _ notification member rfl).symm.trans fixed
  | batLow =>
    simp only [Condition.block, checkBatteryLow] at member
    split at member
    · cases (List.mem_singleton.mp member) ▸ fixed
    split at member
    · cases (List.mem_singleton.mp member) ▸ fixed
    · cases member
  | _ => cases (edge_alert_body _ _ _ _ notification member rfl).symm.trans fixed

theorem flags_short (register : ErrorRegister) : register.flags.length ≤ 16 := by
  cases register <;> decide

theorem flags_inside (register : ErrorRegister) : ∀ entry ∈ register.flags, entry.1 < 16 := by
  cases register <;> decide

theorem alerts_texts (register : ErrorRegister) (state : AlertState) (data : UpsData) (notification : Notification)
    (member : notification ∈ register.alerts state data) :
    ∃ entry ∈ register.flags, notification.body = .text (register.appearedText entry.2) ∨
      notification.body = .text (register.clearedText entry.2) := by
  cases register with
  | general => exact register_texts _ _ _ (flags_short .general) _ _ _ notification member
  | power => exact register_texts _ _ _ (flags_short .power) _ _ _ notification member
  | battery => exact register_texts _ _ _ (flags_short .battery) _ _ _ notification member

theorem poll_texts (state : AlertState) (poll : AlertPoll) (notification : Notification)
    (member : notification ∈ (alertsPoll state poll).notifications) (text : String) (fixed : notification.body = .text text) :
    text ∈ engineTexts := by
  rw [poll_notifications, List.mem_append, List.mem_flatMap, List.mem_flatMap] at member
  rcases member with ⟨condition, _, made⟩ | ⟨register, listed, made⟩
  · rw [block_texts condition state poll notification made text fixed]
    exact List.mem_cons_self
  · obtain ⟨entry, inTable, body⟩ := alerts_texts register state poll.data notification made
    refine List.mem_cons_of_mem _ (List.mem_flatMap.mpr ⟨register, listed, List.mem_flatMap.mpr ⟨entry, inTable, ?_⟩⟩)
    rcases body with body | body <;> (rw [fixed, AlertBody.text.injEq] at body; simp [body])

theorem shows_entry (register : ErrorRegister) (data : UpsData) (opt : BitfieldOpt) (entry : Nat × String)
    (member : entry ∈ register.flags) (valued : opt.value = bit entry.1) :
    register.shows data opt = match register with
      | .general => data.generalError.getLsbD entry.1
      | .power => data.powerSystemError.getLsbD entry.1
      | .battery => data.batSystemError.getLsbD entry.1 := by
  have inside := flags_inside register entry member
  rw [ErrorRegister.shows, valued]
  cases register with
  | general => exact has_bit_widened _ _ inside (by decide)
  | power => exact has_bit _ _ (by omega)
  | battery => exact has_bit_widened _ _ inside (by decide)

-- After a call the engine compares with the registers of its reading.
theorem decoded_announced (register : ErrorRegister) (state : AlertState) (first second : AlertCall) (opt : BitfieldOpt)
    (entry : Nat × String) (member : entry ∈ register.flags) (valued : opt.value = bit entry.1) :
    Announced register first.data second.data (register.alerts (alertsNext state first) second.data) opt := by
  have named : entry.2 ∈ register.names opt := by
    refine List.mem_append_left _ (List.mem_map_of_mem (List.mem_filter.mpr ⟨member, ?_⟩))
    rw [valued]
    exact beq_self_eq_true _
  have inside := flags_inside register entry member
  have announced : (register.shows first.data opt = false → register.shows second.data opt = true →
        ∃ notification ∈ register.alerts (alertsNext state first) second.data,
          notification.body = .text (register.appearedText entry.2)) ∧
      (register.shows first.data opt = true → register.shows second.data opt = false →
        ∃ notification ∈ register.alerts (alertsNext state first) second.data,
          notification.body = .text (register.clearedText entry.2)) := by
    rw [shows_entry register first.data opt entry member valued, shows_entry register second.data opt entry member valued]
    cases register with
    | general => exact register_announces _ _ _ (flags_short .general) _ _ _ entry member inside
    | power => exact register_announces _ _ _ (flags_short .power) _ _ _ entry member (by omega)
    | battery => exact register_announces _ _ _ (flags_short .battery) _ _ _ entry member inside
  constructor
  · intro absent present
    obtain ⟨notification, made, body⟩ := announced.1 absent present
    exact ⟨notification, made, entry.2, named, body⟩
  · intro present absent
    obtain ⟨notification, made, body⟩ := announced.2 present absent
    exact ⟨notification, made, entry.2, named, body⟩

theorem announced_mono (register : ErrorRegister) (before after : UpsData) (made more : List Notification)
    (opt : BitfieldOpt) (included : ∀ notification ∈ made, notification ∈ more)
    (announced : Announced register before after made opt) : Announced register before after more opt := by
  constructor
  · intro absent present
    obtain ⟨notification, member, named⟩ := announced.1 absent present
    exact ⟨notification, included notification member, named⟩
  · intro present absent
    obtain ⟨notification, member, named⟩ := announced.2 present absent
    exact ⟨notification, included notification member, named⟩

theorem decoded_or_undecoded (register : ErrorRegister) :
    ∀ opt ∈ register.catalogue, opt.value ∈ register.undecoded ∨ ∃ entry ∈ register.flags, opt.value = bit entry.1 := by
  cases register <;> decide +kernel

theorem undecoded_unnamed (register : ErrorRegister) :
    ∀ opt ∈ register.catalogue, opt.value ∈ register.undecoded → ∀ name ∈ register.names opt,
      register.appearedText name ∉ engineTexts ∧ register.clearedText name ∉ engineTexts := by
  cases register <;> decide +kernel

theorem undecoded_silent (register : ErrorRegister) (state : AlertState) (poll : AlertPoll) (before after : UpsData)
    (opt : BitfieldOpt) (catalogued : opt ∈ register.catalogue) (undecoded : opt.value ∈ register.undecoded)
    (announced : Announced register before after (alertsPoll state poll).notifications opt) :
    register.shows before opt = register.shows after opt := by
  have unnamed := undecoded_unnamed register opt catalogued undecoded
  cases old : register.shows before opt <;> cases new : register.shows after opt
  · rfl
  · obtain ⟨notification, member, name, named, body⟩ := announced.1 old new
    exact absurd (poll_texts state poll notification member _ body) (unnamed name named).1
  · obtain ⟨notification, member, name, named, body⟩ := announced.2 old new
    exact absurd (poll_texts state poll notification member _ body) (unnamed name named).2
  · rfl

theorem errors_announced_iff (state : AlertState) (first second : AlertCall) :
    (∀ register : ErrorRegister, ∀ opt ∈ register.catalogue,
      Announced register first.data second.data (alertsPoll (alertsNext state first) second.poll).notifications opt) ↔
      ∀ register : ErrorRegister, ∀ opt ∈ register.catalogue, opt.value ∈ register.undecoded →
        register.shows first.data opt = register.shows second.data opt := by
  refine forall_congr' fun register => forall_congr' fun opt => forall_congr' fun catalogued => ?_
  constructor
  · intro announced undecoded
    exact undecoded_silent register _ _ _ _ opt catalogued undecoded announced
  · intro unchanged
    rcases decoded_or_undecoded register opt catalogued with undecoded | ⟨entry, member, valued⟩
    · have same := unchanged undecoded
      constructor
      · intro absent present
        rw [same, present] at absent
        cases absent
      · intro present absent
        rw [same, absent] at present
        cases present
    · refine announced_mono register _ _ _ _ opt ?_ (decoded_announced register state first second opt entry member valued)
      intro notification made
      rw [poll_notifications]
      have listed : register ∈ registers := by cases register <;> decide
      exact List.mem_append_right _ (List.mem_flatMap.mpr ⟨register, listed, made⟩)

def errorReading (generalError : BitVec 16) : AlertCall :=
  { data := { UpsData.zero with status := stOnline, chargePct := .finite 100, generalError := generalError }
    thresh := none
    acfg := alertsLoadConfig .unset }

-- The oscillator error comes, and nothing is notified.
theorem oscillator_error_silent : ¬∀ (state : AlertState) (first second : AlertCall) (register : ErrorRegister),
    ∀ opt ∈ register.catalogue, Announced register first.data second.data
      (alertsPoll (alertsNext state first) second.poll).notifications opt := by
  intro announced
  have oscillator := announced alertsInit (errorReading 0) (errorReading 0x0200) .general
    ⟨0x0200, "oscillator", "Oscillator"⟩ (by simp [ErrorRegister.catalogue, srtGeneralErrorOpts])
  obtain ⟨notification, member, _⟩ := oscillator.1 (by decide +kernel) (by decide +kernel)
  have silent : (alertsPoll (alertsNext alertsInit (errorReading 0)) (errorReading 0x0200).poll).notifications = [] := by
    decide +kernel
  rw [silent] at member
  cases member

end AiriesUps.Alerts
