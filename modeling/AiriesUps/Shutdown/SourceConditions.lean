import AiriesUps.Shutdown.Trigger

set_option autoImplicit false

namespace AiriesUps.Shutdown

open Ups

def Software (config : Config) : Prop := mode config ≠ "manual" ∧ mode config ≠ "ups"

instance (config : Config) : Decidable (Software config) := inferInstanceAs (Decidable (_ ∧ _))

def runtimeThresh (config : Config) : Int := config.getInt "shutdown.trigger_runtime_sec" 300
def batteryThresh (config : Config) : Int := config.getInt "shutdown.trigger_battery_pct" 0

-- The second reading is the first one with the battery run further down.
def RunDown (first second : UpsData) : Prop :=
  second = { first with runtimeSec := second.runtimeSec, chargePct := second.chargePct } ∧
    second.runtimeSec ≤ first.runtimeSec ∧ second.chargePct.le first.chargePct = true

instance (first second : UpsData) : Decidable (RunDown first second) := inferInstanceAs (Decidable (_ ∧ _ ∧ _))

def BatteryLow (config : Config) (data : UpsData) : Prop :=
  0 < batteryThresh config ∧ data.chargePct.le (Double.ofInt (batteryThresh config)) = true

-- The runtime alone met the condition, and has gone to zero.
def RuntimeVanishes (config : Config) (first second : UpsData) : Prop :=
  0 < runtimeThresh config ∧ 0 < first.runtimeSec ∧ (first.runtimeSec : Int) ≤ runtimeThresh config ∧
    second.runtimeSec = 0 ∧ ¬BatteryLow config second

theorem software_condition_iff (config : Config) (data : UpsData) (now : Int) (software : Software config)
    (reached : requireBattery config = true → has data.status stOnBattery = true) :
    ConditionMet { config := config, data := data, now := now } ↔ sourceConditionMet config data = true := by
  rw [ConditionMet, if_neg software.2, and_iff_right software.1, and_iff_right reached]

theorem runtime_source_iff (config : Config) (data : UpsData)
    (source : config.getStr "shutdown.trigger_source" "runtime" = "runtime") :
    sourceConditionMet config data = true ↔
      (0 < runtimeThresh config ∧ 0 < data.runtimeSec ∧ (data.runtimeSec : Int) ≤ runtimeThresh config) ∨
        BatteryLow config data := by
  have runtimeSource : sourceConditionMet config data = runtimeConditionMet config data := by
    rw [sourceConditionMet, source]
    rfl
  rw [runtimeSource, runtimeConditionMet, BatteryLow, Bool.or_eq_true, Bool.and_eq_true, Bool.and_eq_true, Bool.and_eq_true]
  simp only [decide_eq_true_iff, and_assoc]
  rfl

theorem runtime_condition_monotone_iff (config : Config) (first second : UpsData) (now later : Int)
    (software : Software config) (source : config.getStr "shutdown.trigger_source" "runtime" = "runtime")
    (onBattery : has first.status stOnBattery = true) (runDown : RunDown first second) :
    (ConditionMet { config := config, data := first, now := now } →
        ConditionMet { config := config, data := second, now := later }) ↔ ¬RuntimeVanishes config first second := by
  obtain ⟨otherwiseEqual, runtime, charge⟩ := runDown
  have stillOnBattery : has second.status stOnBattery = true := by
    rw [otherwiseEqual]
    exact onBattery
  rw [software_condition_iff config first now software fun _ => onBattery,
    software_condition_iff config second later software fun _ => stillOnBattery,
    runtime_source_iff config first source, runtime_source_iff config second source]
  have keepsLow : BatteryLow config first → BatteryLow config second := fun low =>
    ⟨low.1, Double.le_trans _ _ _ charge low.2⟩
  constructor
  · rintro monotone ⟨enabled, positive, below, gone, notLow⟩
    rcases monotone (.inl ⟨enabled, positive, below⟩) with met | low
    · omega
    · exact notLow low
  · rintro kept (⟨enabled, positive, below⟩ | low)
    · by_cases gone : second.runtimeSec = 0
      · exact .inr (Classical.byContradiction fun notLow => kept ⟨enabled, positive, below, gone, notLow⟩)
      · exact .inl ⟨enabled, by omega, by omega⟩
    · exact .inr (keepsLow low)

-- With the default settings, 100 s of runtime and then 50 s.
theorem shorter_runtime_still_met :
    (ConditionMet { config := modeConfig "software", data := outageData, now := 1000 } →
        ConditionMet { config := modeConfig "software", data := { outageData with runtimeSec := 50 }, now := 1002 }) ↔
      ¬RuntimeVanishes (modeConfig "software") outageData { outageData with runtimeSec := 50 } :=
  runtime_condition_monotone_iff (modeConfig "software") outageData { outageData with runtimeSec := 50 } 1000 1002
    (by decide) (by decide) (by decide) (by decide)

-- The battery is empty, and the armed shutdown is called off.
theorem empty_battery_disarms :
    ¬∀ (config : Config) (first second : UpsData) (now later : Int), Software config →
      config.getStr "shutdown.trigger_source" "runtime" = "runtime" → has first.status stOnBattery = true →
      RunDown first second → ConditionMet { config := config, data := first, now := now } →
      ConditionMet { config := config, data := second, now := later } := by
  intro monotone
  have met := monotone (modeConfig "software") outageData { outageData with runtimeSec := 0 } 1000 1002 (by decide)
    (by decide) (by decide) (by decide) (by decide)
  exact absurd met (by decide)

def knownFields : List String :=
  ["runtime_sec", "charge_pct", "battery_voltage", "load_pct", "output_current", "output_voltage", "output_frequency",
    "input_voltage", "efficiency", "bypass_voltage", "bypass_frequency"]

-- The reading a name stands for, where the name is known and the reading is available.
def fieldReading (data : UpsData) (name : String) : Option Double :=
  let reading := match name with
    | "runtime_sec" => some (Double.ofInt data.runtimeSec)
    | "charge_pct" => some data.chargePct
    | "battery_voltage" => some data.batteryVoltage
    | "load_pct" => some data.loadPct
    | "output_current" => some data.outputCurrent
    | "output_voltage" => some data.outputVoltage
    | "output_frequency" => some data.outputFrequency
    | "input_voltage" => some data.inputVoltage
    | "efficiency" => if data.efficiencyReason = effOk then some data.efficiency else none
    | "bypass_voltage" => some data.bypassVoltage
    | "bypass_frequency" => some data.bypassFrequency
    | _ => none
  reading.filter fun value => value ≠ .nan

def Compares (op : Option String) (reading threshold : Double) : Prop :=
  ((op = none ∨ op = some "lt") ∧ reading.lt threshold = true) ∨ (op = some "gt" ∧ threshold.lt reading = true) ∨
    (op = some "eq" ∧ reading.eq threshold = true)

def fieldThreshold (config : Config) : Double := Double.ofInt (config.getInt "shutdown.trigger_field_value" 0)

-- The condition as the settings describe it.
def FieldCondition (config : Config) (data : UpsData) : Prop :=
  ∃ name reading, config.str "shutdown.trigger_field" = some name ∧ fieldReading data name = some reading ∧
    Compares (config.str "shutdown.trigger_field_op") reading (fieldThreshold config)

-- The name is none of the known ones, and zero compares with the threshold.
def UnknownCompares (config : Config) : Prop :=
  ∃ name, config.str "shutdown.trigger_field" = some name ∧ name ≠ "" ∧ name ∉ knownFields ∧
    Compares (config.str "shutdown.trigger_field_op") (Double.ofInt 0) (fieldThreshold config)

theorem compare_field_iff (reading : Double) (op : Option String) (threshold : Double) :
    compareField reading op threshold = true ↔ Compares op reading threshold := by
  unfold compareField
  split
  case h_5 other notLt notGt notEq =>
    simp_all [Compares]
  all_goals simp [Compares]

theorem nan_never_compares (op : Option String) (threshold : Double) : ¬Compares op .nan threshold := by
  cases threshold <;> simp [Compares, Double.lt, Double.eq]

theorem known_field (data : UpsData) (name : String) (known : name ∈ knownFields) :
    fieldReading data name = (some (getUpsField data name)).filter fun value => value ≠ .nan := by
  simp only [knownFields, List.mem_cons, List.not_mem_nil, or_false] at known
  rcases known with rfl | rfl | rfl | rfl | rfl | rfl | rfl | rfl | rfl | rfl | rfl
  case inr.inr.inr.inr.inr.inr.inr.inr.inl =>
    change (if data.efficiencyReason = effOk then some data.efficiency else none).filter _ =
      (some (if data.efficiencyReason = effOk then data.efficiency else .nan)).filter _
    split <;> rfl
  all_goals rfl

theorem unknown_field (data : UpsData) (name : String) (unknown : name ∉ knownFields) :
    fieldReading data name = none ∧ getUpsField data name = Double.ofInt 0 := by
  constructor
  · unfold fieldReading
    dsimp only
    split <;> first | rfl | exact absurd (by decide) unknown
  · unfold getUpsField
    split <;> first | rfl | exact absurd (by decide) unknown

theorem field_condition_iff (config : Config) (data : UpsData) :
    (fieldConditionMet config data = true ↔ FieldCondition config data) ↔ ¬UnknownCompares config := by
  cases named : config.str "shutdown.trigger_field" with
  | none => simp [fieldConditionMet, FieldCondition, UnknownCompares, named]
  | some name =>
    by_cases empty : name = ""
    · subst empty
      have nothing := (unknown_field data "" (by decide)).1
      simp [fieldConditionMet, FieldCondition, UnknownCompares, named, nothing]
    have met : fieldConditionMet config data = true ↔
        Compares (config.str "shutdown.trigger_field_op") (getUpsField data name) (fieldThreshold config) := by
      rw [fieldConditionMet, named]
      split
      · simp_all
      · simp_all
      case h_3 field isName =>
        cases isName
        exact compare_field_iff ..
    rw [met]
    by_cases known : name ∈ knownFields
    · refine iff_of_true ?_ ?_
      · by_cases missing : getUpsField data name = .nan
        · simp [FieldCondition, named, known_field data name known, missing, nan_never_compares]
        · simp [FieldCondition, named, known_field data name known, missing]
      · rintro ⟨other, isOther, _, unknown, _⟩
        cases named.symm.trans isOther
        exact unknown known
    · obtain ⟨nothing, zero⟩ := unknown_field data name known
      simp [FieldCondition, UnknownCompares, named, nothing, zero, empty, known]

theorem field_trigger_exact_iff (config : Config) (data : UpsData) (now : Int) (software : Software config)
    (source : config.getStr "shutdown.trigger_source" "runtime" = "field")
    (reached : requireBattery config = true → has data.status stOnBattery = true) :
    (ConditionMet { config := config, data := data, now := now } ↔ FieldCondition config data) ↔
      ¬UnknownCompares config := by
  rw [software_condition_iff config data now software reached, sourceConditionMet, source]
  exact field_condition_iff config data

def watchConfig (field : String) : Config :=
  { str := fun key =>
      if key = "shutdown.trigger_source" then some "field" else if key = "shutdown.trigger_field" then some field else none
    int := fun key => if key = "shutdown.trigger_field_value" then some 20 else none }

theorem charge_watch_exact :
    (ConditionMet { config := watchConfig "charge_pct", data := outageData, now := 1000 } ↔
      FieldCondition (watchConfig "charge_pct") outageData) ↔ ¬UnknownCompares (watchConfig "charge_pct") :=
  field_trigger_exact_iff (watchConfig "charge_pct") outageData 1000 (by decide) (by decide) (by decide)

-- A misspelt name reads as zero, which is below 20.
theorem misspelt_field_triggers :
    ¬∀ (config : Config) (data : UpsData) (now : Int), Software config →
      config.getStr "shutdown.trigger_source" "runtime" = "field" →
      (requireBattery config = true → has data.status stOnBattery = true) →
      (ConditionMet { config := config, data := data, now := now } ↔ FieldCondition config data) := by
  intro exact
  have met := (exact (watchConfig "chrge_pct") { outageData with chargePct := .finite 100 } 1000 (by decide) (by decide)
    (by decide)).mp (by decide)
  obtain ⟨name, reading, named, read, _⟩ := met
  cases named
  rw [(unknown_field _ _ (by decide)).1] at read
  cases read

end AiriesUps.Shutdown
