import AiriesUps.Lib.Runs
import AiriesUps.Monitor.SlowLoop

set_option autoImplicit false

namespace AiriesUps.Weather

open Ups Monitor

abbrev Raw := BitVec 16

-- struct weather, the part of the parameter control. Nothing else changes the two
-- configured values after load_config.
structure WeatherParams where
  severeRawValue : Raw
  normalRawValue : Raw
  savedValue : Raw
  hasSaved : Bool
deriving DecidableEq, Repr

inductive ReadOutcome where
  | notFound
  | read (rc : Int) (current : Word)
deriving DecidableEq, Repr

inductive WriteOutcome where
  | notFound
  | readOnly
  | wrote (rc : Int)
deriving DecidableEq, Repr

-- One call of write_param.
structure ParamWrite where
  value : Raw
  label : String
  rc : Int
deriving DecidableEq, Repr

def restoreSavedValue : Raw := 0xFFFF

def writeParam (outcome : WriteOutcome) (value : Raw) (label : String) : ParamWrite :=
  { value := value, label := label
    rc := match outcome with
      | .notFound | .readOnly => -1
      | .wrote rc => rc }

def readAndSaveParam (weather : WeatherParams) : ReadOutcome → WeatherParams
  | .notFound => weather
  | .read rc current =>
    if rc = 0 then { weather with savedValue := current.setWidth 16, hasSaved := true } else weather

def applySevere (weather : WeatherParams) (read : ReadOutcome) (write : WriteOutcome) : WeatherParams × List ParamWrite :=
  (readAndSaveParam weather read, [writeParam write weather.severeRawValue "severe"])

-- The value apply_restore writes and the label it writes it under.
def WeatherParams.restoreTarget (weather : WeatherParams) : Option (Raw × String) :=
  if weather.normalRawValue = restoreSavedValue then
    if weather.hasSaved then some (weather.savedValue, "restore (saved)") else none
  else some (weather.normalRawValue, "restore (fixed)")

def applyRestore (weather : WeatherParams) (write : WriteOutcome) : WeatherParams × List ParamWrite :=
  match weather.restoreTarget with
  | some (value, label) => ({ weather with hasSaved := false }, [writeParam write value label])
  | none => (weather, [])

structure Control where
  weather : WeatherParams
  inhibit : HeInhibit
deriving DecidableEq, Repr

-- One turn of the weather thread: the verdict with its reasons, and what the register
-- lookup, the read and the write answer if they are made.
structure Cycle where
  severe : Bool
  reasons : String
  read : ReadOutcome
  write : WriteOutcome
deriving DecidableEq, Repr

structure Report where
  writes : List ParamWrite
  events : List MonitorEvent
deriving DecidableEq, Repr

def Report.silent : Report := { writes := [], events := [] }

def severeEvent (reasons : String) : MonitorEvent := fireEvent "warning" "weather" "Weather: Severe" (.text reasons)

def clearEvent : MonitorEvent :=
  fireEvent "info" "weather" "Weather: Clear" (.text "Conditions cleared, parameter restored")

def Control.ownsInhibit (control : Control) : Bool := control.inhibit.active && control.inhibit.source == "weather"

def controlCycle (control : Control) (cycle : Cycle) : Control × Report :=
  if cycle.severe && !control.inhibit.active then
    let (weather, writes) := applySevere control.weather cycle.read cycle.write
    ({ weather := weather, inhibit := control.inhibit.set "weather" },
      { writes := writes, events := [severeEvent cycle.reasons] })
  else if !cycle.severe && control.ownsInhibit then
    let (weather, writes) := applyRestore control.weather cycle.write
    ({ weather := weather, inhibit := .clear }, { writes := writes, events := [clearEvent] })
  else (control, .silent)

def controlStep : Runs.Step Control Cycle := fun control cycle => some (controlCycle control cycle).1

end AiriesUps.Weather
