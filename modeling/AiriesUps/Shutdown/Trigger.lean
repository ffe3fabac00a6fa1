import AiriesUps.Lib.Runs
import AiriesUps.Ups.Data

set_option autoImplicit false

namespace AiriesUps.Shutdown

open Ups

-- The trigger state of struct shutdown_mgr: when the condition first became
-- true (0 = not met), and the latch that says the workflow already fired.
structure Trigger where
  firstMet : Int
  triggered : Bool
deriving DecidableEq, Repr

def Trigger.idle : Trigger := { firstMet := 0, triggered := false }

-- One call of shutdown_check_trigger: the settings and the reading it sees and
-- the value time(NULL) gives it.
structure Evaluation where
  config : Config
  data : UpsData
  now : Int

-- start records that shutdown_start_async(mgr, 0, NULL) is called.
structure TriggerResult where
  trigger : Trigger
  events : List Event
  start : Bool
deriving DecidableEq, Repr

def getUpsField (data : UpsData) (name : String) : Double :=
  match name with
  | "runtime_sec" => Double.ofInt data.runtimeSec
  | "charge_pct" => data.chargePct
  | "battery_voltage" => data.batteryVoltage
  | "load_pct" => data.loadPct
  | "output_current" => data.outputCurrent
  | "output_voltage" => data.outputVoltage
  | "output_frequency" => data.outputFrequency
  | "input_voltage" => data.inputVoltage
  | "efficiency" => if data.efficiencyReason = effOk then data.efficiency else .nan
  | "bypass_voltage" => data.bypassVoltage
  | "bypass_frequency" => data.bypassFrequency
  | _ => Double.ofInt 0

def compareField (value : Double) (op : Option String) (threshold : Double) : Bool :=
  match op with
  | none => value.lt threshold
  | some "lt" => value.lt threshold
  | some "gt" => threshold.lt value
  | some "eq" => value.eq threshold
  | some _ => false

def mode (config : Config) : String := config.getStr "shutdown.trigger" "software"
def delaySec (config : Config) : Int := config.getInt "shutdown.trigger_delay_sec" 30
def requireBattery (config : Config) : Bool := config.getInt "shutdown.trigger_on_battery" 1 != 0

def runtimeConditionMet (config : Config) (data : UpsData) : Bool :=
  let runtimeThresh := config.getInt "shutdown.trigger_runtime_sec" 300
  let batteryThresh := config.getInt "shutdown.trigger_battery_pct" 0
  (decide (runtimeThresh > 0) && decide (data.runtimeSec > 0) && decide ((data.runtimeSec : Int) ≤ runtimeThresh)) ||
    (decide (batteryThresh > 0) && data.chargePct.le (Double.ofInt batteryThresh))

def fieldConditionMet (config : Config) (data : UpsData) : Bool :=
  match config.str "shutdown.trigger_field" with
  | none | some "" => false
  | some field =>
    compareField (getUpsField data field) (config.str "shutdown.trigger_field_op")
      (Double.ofInt (config.getInt "shutdown.trigger_field_value" 0))

def sourceConditionMet (config : Config) (data : UpsData) : Bool :=
  match config.getStr "shutdown.trigger_source" "runtime" with
  | "runtime" => runtimeConditionMet config data
  | "field" => fieldConditionMet config data
  | _ => false

def armedEvent (delay : Int) : Event :=
  { severity := "warning", category := "shutdown", title := "Shutdown Trigger Armed"
    message := s!"Shutdown trigger condition met, debouncing {delay}s" }

def clearedEvent (delay : Int) : Event :=
  { severity := "info", category := "shutdown", title := "Shutdown Trigger Cleared"
    message := s!"Shutdown trigger condition cleared before {delay}s debounce elapsed" }

-- The part of shutdown_check_trigger after the condition has been computed.
def debounce (trigger : Trigger) (delay : Int) (conditionMet : Bool) (now : Int) : TriggerResult :=
  if !conditionMet then
    { trigger := { trigger with firstMet := 0 }
      events := if trigger.firstMet ≠ 0 then [clearedEvent delay] else []
      start := false }
  else if trigger.firstMet = 0 then
    { trigger := { trigger with firstMet := now }, events := [armedEvent delay], start := false }
  else if now - trigger.firstMet < delay then
    { trigger := trigger, events := [], start := false }
  else
    { trigger := { trigger with triggered := true }, events := [], start := true }

def checkTrigger (trigger : Trigger) (evaluation : Evaluation) : TriggerResult :=
  let config := evaluation.config
  let data := evaluation.data
  if trigger.triggered then
    { trigger := trigger, events := [], start := false }
  else if mode config = "manual" then
    -- Returns before trigger_first_met is looked at: an armed trigger stays armed.
    { trigger := trigger, events := [], start := false }
  else if mode config = "ups" then
    debounce trigger (delaySec config) (has data.sigStatus sigShutdownImminent) evaluation.now
  else if requireBattery config && !has data.status stOnBattery then
    -- Off battery resets the debounce and reports no event.
    { trigger := { trigger with firstMet := 0 }, events := [], start := false }
  else
    debounce trigger (delaySec config) (sourceConditionMet config data) evaluation.now

-- The trigger condition as a statement about one evaluation: automatic mode, on
-- battery when required, and the configured source past its threshold.
def ConditionMet (evaluation : Evaluation) : Prop :=
  mode evaluation.config ≠ "manual" ∧
    if mode evaluation.config = "ups" then
      has evaluation.data.sigStatus sigShutdownImminent = true
    else
      (requireBattery evaluation.config = true → has evaluation.data.status stOnBattery = true) ∧
        sourceConditionMet evaluation.config evaluation.data = true

instance (evaluation : Evaluation) : Decidable (ConditionMet evaluation) := by
  unfold ConditionMet
  infer_instance

-- Everything one evaluation can do, with the branch conditions it was taken under.
inductive Evaluated (trigger : Trigger) (evaluation : Evaluation) : TriggerResult → Prop where
  | latched (triggered : trigger.triggered = true) :
      Evaluated trigger evaluation { trigger := trigger, events := [], start := false }
  | manual (untriggered : trigger.triggered = false) (isManual : mode evaluation.config = "manual") :
      Evaluated trigger evaluation { trigger := trigger, events := [], start := false }
  | unmet (untriggered : trigger.triggered = false) (notMet : ¬ ConditionMet evaluation) (events : List Event) :
      Evaluated trigger evaluation
        { trigger := { trigger with firstMet := 0 }, events := events, start := false }
  | armed (untriggered : trigger.triggered = false) (met : ConditionMet evaluation) (fresh : trigger.firstMet = 0) :
      Evaluated trigger evaluation
        { trigger := { trigger with firstMet := evaluation.now }
          events := [armedEvent (delaySec evaluation.config)], start := false }
  | waiting (untriggered : trigger.triggered = false) (met : ConditionMet evaluation)
      (running : trigger.firstMet ≠ 0) :
      Evaluated trigger evaluation { trigger := trigger, events := [], start := false }
  | fired (untriggered : trigger.triggered = false) (met : ConditionMet evaluation)
      (running : trigger.firstMet ≠ 0)
      (elapsed : delaySec evaluation.config ≤ evaluation.now - trigger.firstMet) :
      Evaluated trigger evaluation
        { trigger := { trigger with triggered := true }, events := [], start := true }

theorem debounce_evaluated (trigger : Trigger) (evaluation : Evaluation) (conditionMet : Bool)
    (untriggered : trigger.triggered = false) (agrees : conditionMet = true ↔ ConditionMet evaluation) :
    Evaluated trigger evaluation
      (debounce trigger (delaySec evaluation.config) conditionMet evaluation.now) := by
  cases conditionMet with
  | false =>
    have notMet : ¬ ConditionMet evaluation := fun met => Bool.false_ne_true (agrees.mpr met)
    exact .unmet untriggered notMet _
  | true =>
    have met : ConditionMet evaluation := agrees.mp rfl
    by_cases fresh : trigger.firstMet = 0
    · simpa only [debounce, fresh, if_true, Bool.not_true, Bool.false_eq_true, if_false] using
        Evaluated.armed untriggered met fresh
    · by_cases early : evaluation.now - trigger.firstMet < delaySec evaluation.config
      · simpa only [debounce, fresh, early, if_true, Bool.not_true, Bool.false_eq_true, if_false] using
          Evaluated.waiting untriggered met fresh
      · simpa only [debounce, fresh, early, Bool.not_true, Bool.false_eq_true, if_false] using
          Evaluated.fired untriggered met fresh (by omega)

theorem check_trigger_evaluated (trigger : Trigger) (evaluation : Evaluation) :
    Evaluated trigger evaluation (checkTrigger trigger evaluation) := by
  cases untriggered : trigger.triggered with
  | true =>
    rw [checkTrigger, if_pos untriggered]
    exact .latched untriggered
  | false =>
    rw [checkTrigger, if_neg (by rw [untriggered]; exact Bool.false_ne_true)]
    by_cases isManual : mode evaluation.config = "manual"
    · rw [if_pos isManual]
      exact .manual untriggered isManual
    rw [if_neg isManual]
    by_cases isUps : mode evaluation.config = "ups"
    · rw [if_pos isUps]
      apply debounce_evaluated trigger evaluation _ untriggered
      rw [ConditionMet, if_pos isUps, and_iff_right isManual]
    rw [if_neg isUps]
    by_cases offBattery : (requireBattery evaluation.config && !has evaluation.data.status stOnBattery) = true
    · rw [if_pos offBattery]
      refine .unmet untriggered ?_ _
      rw [ConditionMet, if_neg isUps]
      rw [Bool.and_eq_true, Bool.not_eq_true'] at offBattery
      rintro ⟨_, battery, _⟩
      exact Bool.false_ne_true (offBattery.2 ▸ battery offBattery.1)
    · rw [if_neg offBattery]
      apply debounce_evaluated trigger evaluation _ untriggered
      have battery : requireBattery evaluation.config = true → has evaluation.data.status stOnBattery = true := by
        intro required
        simpa only [required, Bool.true_and, Bool.not_eq_true', Bool.not_eq_false] using offBattery
      rw [ConditionMet, if_neg isUps, and_iff_right isManual, and_iff_right battery]

def evaluate : Runs.Step Trigger Evaluation := fun trigger evaluation => some (checkTrigger trigger evaluation).trigger

def NoManualWhileArmed (trigger : Trigger) (evaluation : Evaluation) : Prop :=
  trigger.triggered = false → trigger.firstMet ≠ 0 → mode evaluation.config ≠ "manual"

instance (trigger : Trigger) (evaluation : Evaluation) : Decidable (NoManualWhileArmed trigger evaluation) := by
  unfold NoManualWhileArmed
  infer_instance

def Streak (past : List Evaluation) (firstMet : Int) : Prop :=
  ∃ start, Runs.HeldSince ConditionMet past start ∧ ∃ inside : start < past.length, past[start].now = firstMet

-- A running debounce was started at some earlier evaluation, at the recorded
-- time, and the condition has held at every evaluation since.
def StreakRecorded (past : List Evaluation) (trigger : Trigger) : Prop :=
  trigger.triggered = false → trigger.firstMet ≠ 0 → Streak past trigger.firstMet

theorem streak_begins (past : List Evaluation) (evaluation : Evaluation) (met : ConditionMet evaluation) :
    Streak (past ++ [evaluation]) evaluation.now :=
  ⟨past.length, Runs.held_since_last ConditionMet past evaluation met, by simp, by simp⟩

theorem streak_extends (past : List Evaluation) (firstMet : Int) (evaluation : Evaluation)
    (streak : Streak past firstMet) (met : ConditionMet evaluation) : Streak (past ++ [evaluation]) firstMet := by
  obtain ⟨start, held, inside, recorded⟩ := streak
  refine ⟨start, Runs.held_since_concat ConditionMet past evaluation start held met, ?_, ?_⟩
  · rw [List.length_append]
    omega
  · rw [List.getElem_append_left inside]
    exact recorded

theorem streak_recorded_step (past : List Evaluation) (trigger next : Trigger) (evaluation : Evaluation)
    (inv : StreakRecorded past trigger) (allowed : NoManualWhileArmed trigger evaluation)
    (taken : evaluate trigger evaluation = some next) : StreakRecorded (past ++ [evaluation]) next := by
  have outcome := check_trigger_evaluated trigger evaluation
  simp only [evaluate, Option.some.injEq] at taken
  subst next
  generalize checkTrigger trigger evaluation = result at outcome
  intro untriggered armed
  cases outcome with
  | latched triggered => exact absurd triggered (by rw [untriggered]; exact Bool.false_ne_true)
  | manual _ isManual => exact absurd isManual (allowed untriggered armed)
  | unmet _ _ _ => exact absurd rfl armed
  | armed _ met _ => exact streak_begins past evaluation met
  | waiting _ met running => exact streak_extends past trigger.firstMet evaluation (inv untriggered running) met
  | fired _ _ _ _ => exact absurd untriggered (by simp)

-- The condition was met at every evaluation from some earlier one to the
-- current one, and the two are at least the current delay apart.
def DebounceHeld (past : List Evaluation) (current : Evaluation) : Prop :=
  ∃ start, ∃ inside : start < past.length,
    delaySec current.config ≤ current.now - past[start].now ∧
      Runs.HeldSince ConditionMet (past ++ [current]) start

theorem fires_only_after_debounce (past : List Evaluation) (current : Evaluation) (trigger : Trigger)
    (reached : Runs.run evaluate Trigger.idle past = some trigger)
    (admitted : Runs.Admitted evaluate NoManualWhileArmed Trigger.idle past)
    (fires : (checkTrigger trigger current).start = true) : DebounceHeld past current := by
  have inv : StreakRecorded past trigger :=
    Runs.history_invariant evaluate NoManualWhileArmed Trigger.idle StreakRecorded
      (fun _ armed => absurd rfl armed) (fun past state evaluation next => streak_recorded_step past state next evaluation)
      past trigger reached admitted
  have outcome := check_trigger_evaluated trigger current
  generalize checkTrigger trigger current = result at outcome fires
  cases outcome with
  | fired untriggered met running elapsed =>
    obtain ⟨start, held, inside, recorded⟩ := inv untriggered running
    refine ⟨start, inside, ?_, Runs.held_since_concat ConditionMet past current start held met⟩
    rw [recorded]
    exact elapsed
  | _ => exact absurd fires Bool.false_ne_true

-- Default settings with the given trigger mode, and an outage reading with one
-- hundred seconds of runtime left against the default threshold of 300.
def modeConfig (value : String) : Config :=
  { str := fun key => if key = "shutdown.trigger" then some value else none, int := fun _ => none }

def outageData : UpsData := { UpsData.zero with status := stOnBattery, runtimeSec := 100 }

def outageAt (now : Int) : Evaluation := { config := modeConfig "software", data := outageData, now := now }

theorem fires_after_thirty_seconds :
    DebounceHeld [outageAt 1000, outageAt 1010] (outageAt 1030) :=
  fires_only_after_debounce [outageAt 1000, outageAt 1010] (outageAt 1030) { firstMet := 1000, triggered := false }
    (by decide) (by decide) (by decide)

-- The outage arms the trigger, the administrator switches to manual mode while
-- mains returns, and hours later the first outage reading in software mode fires.
def manualInterval : List Evaluation :=
  [outageAt 1000, { config := modeConfig "manual", data := { UpsData.zero with status := stOnline }, now := 1010 }]

theorem manual_mode_keeps_stale_start :
    ¬ ∀ (past : List Evaluation) (current : Evaluation) (trigger : Trigger),
      (past ++ [current]).Pairwise (fun earlier later => earlier.now ≤ later.now) →
      Runs.run evaluate Trigger.idle past = some trigger →
      (checkTrigger trigger current).start = true → DebounceHeld past current := by
  intro claimed
  obtain ⟨start, inside, _, _, held⟩ := claimed manualInterval (outageAt 9000) { firstMet := 1000, triggered := false }
    (by decide) (by decide) (by decide)
  have manualEvaluation := held 1 (by decide) (by change start < 2 at inside; omega)
  exact manualEvaluation.1 (by decide)

end AiriesUps.Shutdown
