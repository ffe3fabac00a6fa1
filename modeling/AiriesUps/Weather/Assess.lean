import AiriesUps.Lib.CString
import AiriesUps.Lib.Sequences
import AiriesUps.Ups.Data

set_option autoImplicit false

namespace AiriesUps.Weather

open Ups

-- A cJSON tree. The checks tell null, true, false and the numbers apart from nothing
-- but strings, arrays and objects.
inductive Json where
  | literal
  | string (value : String)
  | array (items : List Json)
  | object (members : List (String × Json))

namespace Json

def asString : Json → Option String
  | .string value => some value
  | _ => none

def asArray : Json → Option (List Json)
  | .array items => some items
  | _ => none

-- cJSON_GetObjectItem: the first member of the name, in upper or lower case.
def getObjectItem (name : String) : Json → Option Json
  | .object members =>
    (members.find? fun member => CString.lower member.1.toList == CString.lower name.toList).map Prod.snd
  | _ => none

end Json

-- How the request of one nws_get ends. An error document of the service is an answer
-- too: the HTTP status is not looked at.
inductive Response where
  | failed
  | unparsable
  | answered (json : Json)

def nwsGet : Response → Option Json
  | .failed | .unparsable => none
  | .answered json => some json

-- struct weather, the part the checks read.
structure WeatherConfig where
  latitude : Double
  longitude : Double
  alertZones : String
  alertTypes : String
  windSpeedMph : Int
  severeKeywords : String
deriving DecidableEq, Repr

-- The checks append to a buffer of 512 bytes; here it has no end.
def appendReason (reasons item : String) : String := if reasons = "" then item else reasons ++ "; " ++ item

def ciStrstr (haystack needle : List Char) : Bool :=
  (CString.strstr (CString.lower needle) (CString.lower haystack)).isSome

def alertFeatures (answer : Response) : Option (List Json) :=
  ((nwsGet answer).bind (Json.getObjectItem "features")).bind Json.asArray

def featureEvent (feature : Json) : Option String :=
  ((feature.getObjectItem "properties").bind (Json.getObjectItem "event")).bind Json.asString

def checkFeature (config : WeatherConfig) (found : Bool × String) (feature : Json) : Bool × String :=
  match featureEvent feature with
  | some event =>
    if (CString.strstr event.toList config.alertTypes.toList).isSome then (true, appendReason found.2 event) else found
  | none => found

def checkAlerts (config : WeatherConfig) (answer : Response) : Bool × String :=
  if config.alertZones = "" then (false, "")
  else match alertFeatures answer with
    | none => (false, "")
    | some features => features.foldl (checkFeature config) (false, "")

def forecastPeriods (answer : Response) : Option (List Json) :=
  (((nwsGet answer).bind (Json.getObjectItem "properties")).bind (Json.getObjectItem "periods")).bind Json.asArray

def periodText (name : String) (period : Json) : Option String := (period.getObjectItem name).bind Json.asString

-- A range such as "10 to 15 mph" counts as its upper end.
def windSpeed (text : String) : Int :=
  match CString.strstr " to ".toList text.toList with
  | some range => CString.atoi (range.drop 4)
  | none => CString.atoi text.toList

def keywords (config : WeatherConfig) : List (List Char) :=
  (CString.strtok ',' [] config.severeKeywords.toList).map fun token => token.dropWhile (· == ' ')

def keywordIn (config : WeatherConfig) (forecast : String) : Bool :=
  (keywords config).any fun token => ciStrstr forecast.toList token

structure ForecastCheck where
  severe : Bool
  maxWind : Int
  reasons : String
deriving DecidableEq, Repr

def checkWind (check : ForecastCheck) (wind : Option String) : ForecastCheck :=
  match wind with
  | some text => if windSpeed text > check.maxWind then { check with maxWind := windSpeed text } else check
  | none => check

def checkKeywords (config : WeatherConfig) (check : ForecastCheck) (forecast : Option String) : ForecastCheck :=
  match forecast with
  | some text =>
    if config.severeKeywords ≠ "" ∧ keywordIn config text = true then
      { check with severe := true, reasons := appendReason check.reasons ("Forecast: " ++ text) }
    else check
  | none => check

def checkPeriod (config : WeatherConfig) (check : ForecastCheck) (period : Json) : ForecastCheck :=
  checkKeywords config (checkWind check (periodText "windSpeed" period)) (periodText "shortForecast" period)

def checkForecast (config : WeatherConfig) (forecastUrl reasons : String) (answer : Response) : Bool × String :=
  if forecastUrl = "" then (false, reasons)
  else match forecastPeriods answer with
    | none => (false, reasons)
    | some periods =>
      let check := (periods.take 3).foldl (checkPeriod config) { severe := false, maxWind := 0, reasons := reasons }
      if check.maxWind ≥ config.windSpeedMph then
        (true, appendReason check.reasons ("Wind " ++ toString check.maxWind ++ "mph"))
      else (check.severe, check.reasons)

-- The forecast URL, in its buffer of 256 bytes.
def resolveGridpoint (answer : Response) : String :=
  match (((nwsGet answer).bind (Json.getObjectItem "properties")).bind (Json.getObjectItem "forecastHourly")).bind
      Json.asString with
  | some url => String.ofList (url.toList.take 255)
  | none => ""

-- An active alert is of one of the configured types.
def AlertReported (config : WeatherConfig) (answer : Response) : Prop :=
  ∃ features, alertFeatures answer = some features ∧ ∃ feature ∈ features, ∃ event,
    featureEvent feature = some event ∧ event.toList <:+: config.alertTypes.toList

def KeywordReported (config : WeatherConfig) (periods : List Json) : Prop :=
  ∃ period ∈ periods, ∃ text keyword, periodText "shortForecast" period = some text ∧ keyword ∈ keywords config ∧
    CString.lower keyword <:+: CString.lower text.toList

-- The threshold is reached by a wind speed, or it is one that every forecast reaches.
def WindReported (config : WeatherConfig) (periods : List Json) : Prop :=
  config.windSpeedMph ≤ 0 ∨
    ∃ period ∈ periods, ∃ text, periodText "windSpeed" period = some text ∧ config.windSpeedMph ≤ windSpeed text

def ForecastReported (config : WeatherConfig) (answer : Response) : Prop :=
  ∃ periods, forecastPeriods answer = some periods ∧
    (KeywordReported config (periods.take 3) ∨ WindReported config (periods.take 3))

-- Every part the check goes by is there.
def AlertsAnswered (answer : Response) : Prop :=
  ∃ features, alertFeatures answer = some features ∧ ∀ feature ∈ features, (featureEvent feature).isSome = true

def ForecastAnswered (config : WeatherConfig) (answer : Response) : Prop :=
  ∃ periods, forecastPeriods answer = some periods ∧ periods ≠ [] ∧
    ∀ period ∈ periods.take 3, (periodText "windSpeed" period).isSome = true ∧
      (config.severeKeywords ≠ "" → (periodText "shortForecast" period).isSome = true)

theorem check_feature_severe (config : WeatherConfig) (found : Bool × String) (feature : Json) :
    (checkFeature config found feature).1 = true ↔
      found.1 = true ∨ ∃ event, featureEvent feature = some event ∧ event.toList <:+: config.alertTypes.toList := by
  rw [checkFeature]
  cases text : featureEvent feature with
  | none => simp
  | some event =>
    simp only [Option.some.injEq, exists_eq_left', ← CString.strstr_found_iff]
    cases (CString.strstr event.toList config.alertTypes.toList).isSome <;> simp

theorem check_alerts_severe (config : WeatherConfig) (answer : Response) :
    (checkAlerts config answer).1 = true ↔ config.alertZones ≠ "" ∧ AlertReported config answer := by
  rw [checkAlerts, AlertReported]
  by_cases unset : config.alertZones = ""
  · simp [unset]
  · rw [if_neg unset]
    cases features : alertFeatures answer with
    | none => simp
    | some features =>
      dsimp only
      rw [Sequences.foldl_reached (checkFeature config) (fun found => found.1 = true) _ (check_feature_severe config)]
      simp [unset]

theorem keyword_in_iff (config : WeatherConfig) (text : String) :
    config.severeKeywords ≠ "" ∧ keywordIn config text = true ↔
      ∃ keyword ∈ keywords config, CString.lower keyword <:+: CString.lower text.toList := by
  simp only [keywordIn, List.any_eq_true, ciStrstr, CString.strstr_found_iff]
  refine and_iff_right_of_imp ?_
  rintro ⟨keyword, member, _⟩ unset
  rw [keywords, unset] at member
  cases member

theorem check_period_keyword (config : WeatherConfig) (check : ForecastCheck) (period : Json) :
    (checkPeriod config check period).severe = true ↔
      check.severe = true ∨ ∃ text keyword, periodText "shortForecast" period = some text ∧ keyword ∈ keywords config ∧
        CString.lower keyword <:+: CString.lower text.toList := by
  have kept : ∀ wind, (checkWind check wind).severe = check.severe := by
    intro wind
    cases wind with
    | none => rfl
    | some text =>
      rw [checkWind]
      split <;> rfl
  rw [checkPeriod]
  cases forecast : periodText "shortForecast" period with
  | none => simp [checkKeywords, kept]
  | some text =>
    have found := keyword_in_iff config text
    rw [checkKeywords]
    by_cases matched : config.severeKeywords ≠ "" ∧ keywordIn config text = true
    · obtain ⟨keyword, member, inside⟩ := found.mp matched
      rw [if_pos matched]
      exact ⟨fun _ => Or.inr ⟨text, keyword, rfl, member, inside⟩, fun _ => rfl⟩
    · rw [if_neg matched, kept]
      refine (or_iff_left ?_).symm
      rintro ⟨other, keyword, same, member, inside⟩
      cases same
      exact matched (found.mpr ⟨keyword, member, inside⟩)

theorem check_period_wind (config : WeatherConfig) (check : ForecastCheck) (period : Json) :
    config.windSpeedMph ≤ (checkPeriod config check period).maxWind ↔
      config.windSpeedMph ≤ check.maxWind ∨
        ∃ text, periodText "windSpeed" period = some text ∧ config.windSpeedMph ≤ windSpeed text := by
  have kept : ∀ before forecast, (checkKeywords config before forecast).maxWind = before.maxWind := by
    intro before forecast
    cases forecast with
    | none => rfl
    | some text =>
      rw [checkKeywords]
      split <;> rfl
  rw [checkPeriod, kept]
  cases wind : periodText "windSpeed" period with
  | none => simp [checkWind]
  | some text =>
    simp only [checkWind, Option.some.injEq, exists_eq_left']
    split
    · dsimp only
      omega
    · omega

theorem check_forecast_severe (config : WeatherConfig) (forecastUrl reasons : String) (answer : Response) :
    (checkForecast config forecastUrl reasons answer).1 = true ↔ forecastUrl ≠ "" ∧ ForecastReported config answer := by
  rw [checkForecast, ForecastReported]
  by_cases unset : forecastUrl = ""
  · simp [unset]
  · rw [if_neg unset]
    cases read : forecastPeriods answer with
    | none => simp
    | some periods =>
      let check := (periods.take 3).foldl (checkPeriod config) { severe := false, maxWind := 0, reasons := reasons }
      have keyword : check.severe = true ↔ KeywordReported config (periods.take 3) := by
        have reached := Sequences.foldl_reached (checkPeriod config) (fun check => check.severe = true) _
          (check_period_keyword config) (periods.take 3) { severe := false, maxWind := 0, reasons := reasons }
        exact reached.trans (or_iff_right Bool.false_ne_true)
      have wind : config.windSpeedMph ≤ check.maxWind ↔ WindReported config (periods.take 3) := by
        have reached := Sequences.foldl_reached (checkPeriod config) (fun check => config.windSpeedMph ≤ check.maxWind) _
          (check_period_wind config) (periods.take 3) { severe := false, maxWind := 0, reasons := reasons }
        exact reached
      simp only [Option.some.injEq, exists_eq_left', ← keyword, ← wind]
      change (if config.windSpeedMph ≤ check.maxWind then _ else (check.severe, check.reasons)).1 = true ↔ _
      by_cases windy : config.windSpeedMph ≤ check.maxWind
      · simp [windy, unset]
      · simp [windy, unset]

end AiriesUps.Weather
