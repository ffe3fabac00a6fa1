import AiriesUps.Weather.Assess
import AiriesUps.Weather.Restore

set_option autoImplicit false

namespace AiriesUps.Weather

open Ups Monitor

-- sim_severe: 0, 1 and -1
inductive SimSevere where
  | normal
  | severe
  | clear
deriving DecidableEq, Repr

structure WeatherLoop where
  config : WeatherConfig
  forecastUrl : String
  simSevere : SimSevere
  simActive : Bool
  simReasons : String
  severe : Bool
  reasons : String
  control : Control
deriving DecidableEq, Repr

def coordinatesSet (config : WeatherConfig) : Bool :=
  !Double.eq config.latitude (.ofInt 0) && !Double.eq config.longitude (.ofInt 0)

-- weather_create, and the thread up to its loop: the gridpoint is asked for once.
def WeatherLoop.start (config : WeatherConfig) (severeRawValue normalRawValue : Raw) (gridpoint : Response) : WeatherLoop :=
  { config := config
    forecastUrl := if coordinatesSet config then resolveGridpoint gridpoint else ""
    simSevere := .normal
    simActive := false
    simReasons := ""
    severe := false
    reasons := ""
    control := .initial severeRawValue normalRawValue }

-- What one turn of the loop is answered by the weather service and by the UPS.
structure Answers where
  alerts : Response
  forecast : Response
  read : ReadOutcome
  write : WriteOutcome

def checkSources (loop : WeatherLoop) (answers : Answers) : Bool × String :=
  let alerts := checkAlerts loop.config answers.alerts
  let forecast := checkForecast loop.config loop.forecastUrl alerts.2 answers.forecast
  (alerts.1 || forecast.1, forecast.2)

def simulated (loop : WeatherLoop) (assessed : Bool × String) : WeatherLoop :=
  match loop.simSevere with
  | .severe =>
    { loop with
      severe := true
      reasons := String.ofList (("[SIMULATED] " ++ loop.simReasons).toList.take 511)
      simSevere := .normal
      simActive := true }
  | .clear => { loop with severe := false, reasons := "", simSevere := .normal, simActive := false }
  | .normal =>
    { loop with severe := assessed.1, reasons := assessed.2, simActive := assessed.1 && loop.simActive }

def weatherCycle (loop : WeatherLoop) (answers : Answers) : WeatherLoop × Report :=
  let judged := simulated loop (checkSources loop answers)
  let controlled := controlCycle loop.control
    { severe := judged.severe, reasons := judged.reasons, read := answers.read, write := answers.write }
  ({ judged with control := controlled.1 }, controlled.2)

def weatherSimulateSevere (loop : WeatherLoop) (reason : Option String) : WeatherLoop :=
  { loop with
    simReasons := String.ofList ((reason.getD "Manual simulation").toList.take 255)
    simSevere := .severe }

def weatherSimulateClear (loop : WeatherLoop) : WeatherLoop := { loop with simSevere := .clear }

-- autoCleared is the HE auto-clear of the monitor.
inductive WeatherLabel where
  | cycle (answers : Answers)
  | simulateSevere (reason : Option String)
  | simulateClear
  | autoCleared

def WeatherLoop.step : Runs.Step WeatherLoop WeatherLabel
  | loop, .cycle answers => some (weatherCycle loop answers).1
  | loop, .simulateSevere reason => some (weatherSimulateSevere loop reason)
  | loop, .simulateClear => some (weatherSimulateClear loop)
  | loop, .autoCleared => some { loop with control := { loop.control with inhibit := .clear } }

-- Every source that is configured has answered, in all the parts its check goes by.
def SourcesAnswered (loop : WeatherLoop) (answers : Answers) : Prop :=
  (loop.config.alertZones ≠ "" → AlertsAnswered answers.alerts) ∧
    (coordinatesSet loop.config = true → loop.forecastUrl ≠ "" ∧ ForecastAnswered loop.config answers.forecast)

def SevereReported (loop : WeatherLoop) (answers : Answers) : Prop :=
  loop.config.alertZones ≠ "" ∧ AlertReported loop.config answers.alerts ∨
    loop.forecastUrl ≠ "" ∧ ForecastReported loop.config answers.forecast

-- A cycle ends an override of its own only on answers, or on a simulated clear.
def OverrideKept (_ : List WeatherLabel) (loop : WeatherLoop) (label : WeatherLabel) (next : WeatherLoop) : Prop :=
  ∀ answers, label = .cycle answers → loop.control.ownsInhibit = true → next.control.inhibit.active = false →
    loop.simSevere = .clear ∨ SourcesAnswered loop answers ∧ ¬SevereReported loop answers

-- While an override is in force and nothing is simulated, a source fails to answer
-- only in a cycle in which what was answered is severe.
def AnswersSuffice (loop : WeatherLoop) (label : WeatherLabel) : Prop :=
  ∀ answers, label = .cycle answers → loop.control.ownsInhibit = true → loop.simSevere = .normal →
    SourcesAnswered loop answers ∨ SevereReported loop answers

theorem check_sources_severe (loop : WeatherLoop) (answers : Answers) :
    (checkSources loop answers).1 = true ↔ SevereReported loop answers := by
  rw [checkSources, Bool.or_eq_true, check_alerts_severe, check_forecast_severe, SevereReported]

theorem simulated_severe (loop : WeatherLoop) (assessed : Bool × String) :
    (simulated loop assessed).severe = false ↔
      loop.simSevere = .clear ∨ loop.simSevere = .normal ∧ assessed.1 = false := by
  rw [simulated]
  cases loop.simSevere <;> simp

theorem owned_cycle_lifts (control : Control) (cycle : Cycle) (owned : control.ownsInhibit = true) :
    (controlCycle control cycle).1.inhibit.active = false ↔ cycle.severe = false := by
  cases severe : cycle.severe with
  | true =>
    have idle : restoreDue control cycle = false := by rw [restoreDue, severe]; rfl
    rw [cycle_keeps_inhibit control cycle idle owned]
  | false =>
    have due : restoreDue control cycle = true := by rw [restoreDue, severe, owned]; rfl
    rw [cycle_when_due control cycle due]
    simp [HeInhibit.clear]

theorem weather_cycle_lifts (loop : WeatherLoop) (answers : Answers) (owned : loop.control.ownsInhibit = true) :
    (weatherCycle loop answers).1.control.inhibit.active = false ↔
      loop.simSevere = .clear ∨ loop.simSevere = .normal ∧ ¬SevereReported loop answers := by
  rw [weatherCycle]
  dsimp only
  rw [owned_cycle_lifts _ _ owned]
  dsimp only
  rw [simulated_severe, ← Bool.not_eq_true, check_sources_severe]

theorem outage_keeps_override_iff (config : WeatherConfig) (severeRawValue normalRawValue : Raw) (gridpoint : Response)
    (labels : List WeatherLabel) :
    Runs.EachStep WeatherLoop.step (.start config severeRawValue normalRawValue gridpoint) labels OverrideKept ↔
      Runs.EachStep WeatherLoop.step (.start config severeRawValue normalRawValue gridpoint) labels
        fun _ loop label _ => AnswersSuffice loop label := by
  refine Runs.each_step_congr WeatherLoop.step _ (fun _ _ => True) trivial (fun _ _ _ _ _ _ => trivial) _ _
    (fun past loop label next _ taken => ?_) labels
  refine forall_congr' fun answers => imp_congr_right fun cycled => imp_congr_right fun owned => ?_
  subst cycled
  cases taken
  rw [weather_cycle_lifts loop answers owned]
  constructor
  · intro kept normal
    by_cases severe : SevereReported loop answers
    · exact Or.inr severe
    · rcases kept (Or.inr ⟨normal, severe⟩) with cleared | ⟨answered, _⟩
      · cases normal.symm.trans cleared
      · exact Or.inl answered
  · rintro enough (cleared | ⟨normal, calm⟩)
    · exact Or.inl cleared
    · exact Or.inr ⟨(enough normal).resolve_right calm, calm⟩

def zoneConfig : WeatherConfig :=
  { latitude := .ofInt 0, longitude := .ofInt 0, alertZones := "MNZ060", alertTypes := "Tornado Warning"
    windSpeedMph := 58, severeKeywords := "" }

def tornadoWarning : Json :=
  .object [("features", .array [.object [("properties", .object [("event", .string "Tornado Warning")])]])]

-- The service reports a tornado warning, and the next request fails.
def failedRequest : List WeatherLabel :=
  [.cycle { alerts := .answered tornadoWarning, forecast := .failed, read := .read 0 8, write := .wrote 0 },
    .cycle { alerts := .failed, forecast := .failed, read := .notFound, write := .wrote 0 }]

theorem failed_request_ends_override :
    ¬Runs.EachStep WeatherLoop.step (.start zoneConfig 16 restoreSavedValue .failed) failedRequest OverrideKept := by
  intro kept
  have ended := Runs.each_step_final _ _ _ _ kept (failedRequest.take 1) _ [] rfl (by decide +kernel) _ rfl
    (by decide +kernel) (by decide +kernel)
  rcases ended with cleared | ⟨⟨answered, _⟩, _⟩
  · exact absurd cleared (by decide +kernel)
  · obtain ⟨features, read, _⟩ := answered (by decide +kernel)
    cases read

end AiriesUps.Weather
