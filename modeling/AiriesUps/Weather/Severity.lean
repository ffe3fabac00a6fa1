import AiriesUps.Weather.Assess
import Mathlib.Data.List.DropRight

set_option autoImplicit false

namespace AiriesUps.Weather

def isBlank (char : Char) : Bool := char == ' '

def trimBlanks (item : List Char) : List Char := (item.dropWhile isBlank).rdropWhile isBlank

-- The items of a comma-separated setting: what stands between two commas, without the
-- blanks around it, where that is anything.
def listItems (setting : String) : List (List Char) :=
  ((setting.toList.splitOn ',').map trimBlanks).filter fun item => !item.isEmpty

def alertCounts (config : WeatherConfig) (feature : Json) : Bool := (checkFeature config (false, "") feature).1

def forecastCounts (config : WeatherConfig) (period : Json) : Bool :=
  (checkPeriod config { severe := false, maxWind := 0, reasons := "" } period).severe

def KeywordOccurs (config : WeatherConfig) (text : String) : Prop :=
  ∃ keyword ∈ listItems config.severeKeywords, CString.lower keyword <:+: CString.lower text.toList

def AlertExact (config : WeatherConfig) (feature : Json) : Prop :=
  alertCounts config feature = true ↔
    ∃ event, featureEvent feature = some event ∧ event.toList ∈ listItems config.alertTypes

def ForecastExact (config : WeatherConfig) (period : Json) : Prop :=
  forecastCounts config period = true ↔ ∃ text, periodText "shortForecast" period = some text ∧ KeywordOccurs config text

-- Every alert of one answer and every period of the other that the check looks at.
def SeverityExact (config : WeatherConfig) (alerts forecast : Response) : Prop :=
  (∀ features, alertFeatures alerts = some features → ∀ feature ∈ features, AlertExact config feature) ∧
    ∀ periods, forecastPeriods forecast = some periods → ∀ period ∈ periods.take 3, ForecastExact config period

-- Between two commas of the setting there are blanks and nothing else.
def BlankItem (setting : String) : Prop := ∃ token ∈ setting.toList.splitOn ',', token ≠ [] ∧ trimBlanks token = []

-- A keyword occurs together with the blanks that follow it in the setting.
def OccursAsWritten (setting : String) (text : String) : Prop :=
  ∃ token ∈ setting.toList.splitOn ',', trimBlanks token ≠ [] ∧
    CString.lower (token.dropWhile isBlank) <:+: CString.lower text.toList

def EventWhole (config : WeatherConfig) (feature : Json) : Prop :=
  ∀ event, featureEvent feature = some event → event.toList <:+: config.alertTypes.toList →
    event.toList ∈ listItems config.alertTypes

def KeywordsWhole (config : WeatherConfig) (period : Json) : Prop :=
  ∀ text, periodText "shortForecast" period = some text →
    (BlankItem config.severeKeywords → KeywordOccurs config text) ∧
      (KeywordOccurs config text → BlankItem config.severeKeywords ∨ OccursAsWritten config.severeKeywords text)

def SettingsWhole (config : WeatherConfig) (alerts forecast : Response) : Prop :=
  (∀ features, alertFeatures alerts = some features → ∀ feature ∈ features, EventWhole config feature) ∧
    ∀ periods, forecastPeriods forecast = some periods → ∀ period ∈ periods.take 3, KeywordsWhole config period

-- What the whole checks answer is whether anything counts.
theorem check_alerts_counts (config : WeatherConfig) (answer : Response) :
    (checkAlerts config answer).1 = true ↔
      config.alertZones ≠ "" ∧
        ∃ features, alertFeatures answer = some features ∧ ∃ feature ∈ features, alertCounts config feature = true := by
  simp only [check_alerts_severe, AlertReported, alertCounts, check_feature_severe, Bool.false_eq_true, false_or]

theorem keyword_reported_counts (config : WeatherConfig) (periods : List Json) :
    KeywordReported config periods ↔ ∃ period ∈ periods, forecastCounts config period = true := by
  simp only [KeywordReported, forecastCounts, check_period_keyword, Bool.false_eq_true, false_or]

theorem trim_inside (item : List Char) : trimBlanks item <:+: item :=
  (List.rdropWhile_prefix isBlank _).isInfix.trans (List.dropWhile_suffix isBlank).isInfix

theorem list_item_iff (setting : String) (item : List Char) :
    item ∈ listItems setting ↔ ∃ token ∈ setting.toList.splitOn ',', trimBlanks token = item ∧ item ≠ [] := by
  simp only [listItems, List.mem_filter, List.mem_map, Bool.not_eq_true', List.isEmpty_eq_false_iff]
  constructor
  · rintro ⟨⟨token, member, trimmed⟩, some⟩
    exact ⟨token, member, trimmed, some⟩
  · rintro ⟨token, member, trimmed, some⟩
    exact ⟨⟨token, member, trimmed⟩, some⟩

theorem list_item_inside (setting : String) (item : List Char) (member : item ∈ listItems setting) :
    item <:+: setting.toList := by
  obtain ⟨token, inside, rfl, _⟩ := (list_item_iff setting item).mp member
  exact (trim_inside token).trans (CString.split_infix ',' _ token inside)

theorem alert_exact_iff (config : WeatherConfig) (feature : Json) :
    AlertExact config feature ↔ EventWhole config feature := by
  rw [AlertExact, alertCounts, check_feature_severe, EventWhole]
  simp only [Bool.false_eq_true, false_or]
  cases featureEvent feature with
  | none => simp
  | some event =>
    simp only [Option.some.injEq, exists_eq_left', forall_eq']
    exact iff_def.trans (and_iff_left (list_item_inside config.alertTypes event.toList))

theorem keyword_member_iff (config : WeatherConfig) (keyword : List Char) :
    keyword ∈ keywords config ↔
      ∃ token ∈ config.severeKeywords.toList.splitOn ',', token ≠ [] ∧ token.dropWhile isBlank = keyword := by
  rw [keywords, CString.strtok_split ',' [] _ List.not_mem_nil, List.nil_append]
  simp only [List.mem_map, List.mem_filter, Bool.not_eq_true', List.isEmpty_eq_false_iff, and_assoc]
  rfl

theorem trim_nil_iff (token : List Char) : trimBlanks token = [] ↔ token.dropWhile isBlank = [] := by
  constructor
  · intro empty
    by_contra kept
    have blank := List.rdropWhile_eq_nil_iff.mp empty
    have first := List.head_dropWhile_not isBlank kept
    rw [blank _ (List.head_mem kept)] at first
    cases first
  · intro empty
    rw [trimBlanks, empty]
    rfl

theorem lower_occurs (first second : List Char) (inside : first <:+: second) : CString.lower first <:+: CString.lower second :=
  inside.map _

-- What the loop over the keywords finds.
theorem forecast_counts_iff (config : WeatherConfig) (period : Json) (text : String)
    (read : periodText "shortForecast" period = some text) :
    forecastCounts config period = true ↔
      BlankItem config.severeKeywords ∨ OccursAsWritten config.severeKeywords text := by
  rw [forecastCounts, check_period_keyword, read]
  simp only [Bool.false_eq_true, false_or, Option.some.injEq, keyword_member_iff]
  constructor
  · rintro ⟨_, _, rfl, ⟨token, member, some, rfl⟩, occurs⟩
    by_cases blank : trimBlanks token = []
    · exact Or.inl ⟨token, member, some, blank⟩
    · exact Or.inr ⟨token, member, blank, occurs⟩
  · rintro (⟨token, member, some, blank⟩ | ⟨token, member, kept, occurs⟩)
    · refine ⟨text, [], rfl, ⟨token, member, some, (trim_nil_iff token).mp blank⟩, ?_⟩
      exact List.nil_infix
    · refine ⟨text, _, rfl, ⟨token, member, ?_, rfl⟩, occurs⟩
      rintro rfl
      exact kept rfl

theorem occurs_as_written (config : WeatherConfig) (text : String) (occurs : OccursAsWritten config.severeKeywords text) :
    KeywordOccurs config text := by
  obtain ⟨token, member, kept, inside⟩ := occurs
  refine ⟨trimBlanks token, (list_item_iff _ _).mpr ⟨token, member, rfl, kept⟩, ?_⟩
  exact (lower_occurs _ _ (List.rdropWhile_prefix isBlank _).isInfix).trans inside

theorem forecast_exact_iff (config : WeatherConfig) (period : Json) :
    ForecastExact config period ↔ KeywordsWhole config period := by
  rw [ForecastExact, KeywordsWhole]
  cases read : periodText "shortForecast" period with
  | none =>
    have silent : forecastCounts config period = false := by
      rw [forecastCounts, Bool.eq_false_iff, ne_eq, check_period_keyword, read]
      simp
    simp [silent]
  | some text =>
    rw [forecast_counts_iff config period text read]
    simp only [Option.some.injEq, exists_eq_left', forall_eq']
    constructor
    · intro same
      exact ⟨fun blank => same.mp (Or.inl blank), same.mpr⟩
    · rintro ⟨covered, written⟩
      refine ⟨?_, written⟩
      rintro (blank | occurs)
      · exact covered blank
      · exact occurs_as_written config text occurs

theorem severity_exact_iff (config : WeatherConfig) (alerts forecast : Response) :
    SeverityExact config alerts forecast ↔ SettingsWhole config alerts forecast := by
  simp only [SeverityExact, SettingsWhole, alert_exact_iff, forecast_exact_iff]

def warningsOnly : WeatherConfig :=
  { latitude := .finite 0, longitude := .finite 0, alertZones := "TXZ119", alertTypes := "Tornado Warning, Flood Watch"
    windSpeedMph := 40, severeKeywords := "tornado, hail" }

def reportOf (event : String) : Json := .object [("properties", .object [("event", .string event)])]

-- "Tornado" is no configured type and stands in the name of one.
theorem partial_name_counted :
    ¬SeverityExact warningsOnly (.answered (.object [("features", .array [reportOf "Tornado"])])) .failed := by
  rintro ⟨alerts, _⟩
  have counted : alertCounts warningsOnly (reportOf "Tornado") = true := by decide
  obtain ⟨event, named, listed⟩ := (alerts [reportOf "Tornado"] rfl _ List.mem_cons_self).mp counted
  obtain rfl := Option.some.inj (show some "Tornado" = some event from named)
  exact absurd listed (by decide)

end AiriesUps.Weather
