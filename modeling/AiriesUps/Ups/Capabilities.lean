import AiriesUps.Ups.Data

set_option autoImplicit false

namespace AiriesUps.Ups

-- UPS_CAP_* (ups_driver.h)
def capShutdown : Word := bit 0
def capBatteryTest : Word := bit 1
def capRuntimeCal : Word := bit 2
def capClearFaults : Word := bit 3
def capMute : Word := bit 4
def capBeep : Word := bit 5
def capBypass : Word := bit 6
def capFreqTolerance : Word := bit 7
def capHeMode : Word := bit 8

-- ups_drivers, in the order of the table
inductive DriverName where
  | srt
  | smt
  | apcHid
  | cyberpowerHid
deriving DecidableEq, Repr

def DriverName.caps : DriverName → Word
  | .srt =>
    capShutdown ||| capBatteryTest ||| capRuntimeCal ||| capClearFaults ||| capMute ||| capBeep ||| capBypass |||
      capFreqTolerance ||| capHeMode
  | .smt => capShutdown ||| capBatteryTest ||| capRuntimeCal ||| capClearFaults ||| capMute ||| capBeep ||| capHeMode
  | .apcHid => capShutdown ||| capBatteryTest ||| capClearFaults ||| capMute ||| capBeep
  | .cyberpowerHid => capShutdown ||| capBatteryTest ||| capClearFaults ||| capMute

-- The HID fields that resolved on the device now connected. lightsTest is also
-- false where the vendor block was not allocated.
structure ResolvedFields where
  delayBeforeShutdown : Bool
  test : Bool
  moduleReset : Bool
  alarmControl : Bool
  lightsTest : Bool
deriving DecidableEq, Repr

def narrow (resolved : Bool) (cap caps : Word) : Word := if resolved then caps else caps &&& ~~~cap

def cyberpowerResolveCaps (fields : ResolvedFields) (defaultCaps : Word) : Word :=
  narrow fields.alarmControl capMute (narrow fields.moduleReset capClearFaults
    (narrow fields.test capBatteryTest (narrow fields.delayBeforeShutdown capShutdown defaultCaps)))

def apcResolveCaps (fields : ResolvedFields) (defaultCaps : Word) : Word :=
  narrow fields.lightsTest capBeep (narrow fields.alarmControl capMute (narrow fields.moduleReset capClearFaults
    (narrow fields.test capBatteryTest (narrow fields.delayBeforeShutdown capShutdown defaultCaps))))

-- ups->caps after ups_resolve_runtime; the serial drivers have no resolve_caps.
def resolvedCaps (driver : DriverName) (fields : ResolvedFields) : Word :=
  match driver with
  | .srt | .smt => driver.caps
  | .apcHid => apcResolveCaps fields driver.caps
  | .cyberpowerHid => cyberpowerResolveCaps fields driver.caps

def upsHasCap (caps cap : Word) : Bool := has caps cap

theorem narrow_other (resolved : Bool) (caps : Word) (cleared kept : Nat) (clearedInside : cleared < 32)
    (keptInside : kept < 32) (other : kept ≠ cleared) :
    has (narrow resolved (bit cleared) caps) (bit kept) = has caps (bit kept) := by
  cases resolved with
  | true => rfl
  | false =>
    rw [narrow, if_neg Bool.false_ne_true, has_bit _ kept keptInside, has_bit _ kept keptInside, BitVec.getLsbD_and,
      BitVec.getLsbD_not, bit, ← BitVec.twoPow_eq, BitVec.getLsbD_twoPow]
    simp [keptInside, clearedInside, other.symm]

-- A reconnect may bring other fields and never another answer about the mode.
theorem he_mode_resolved (driver : DriverName) (fields : ResolvedFields) :
    upsHasCap (resolvedCaps driver fields) capHeMode = upsHasCap driver.caps capHeMode := by
  have kept : ∀ resolved caps cleared, cleared < 8 →
      has (narrow resolved (bit cleared) caps) (bit 8) = has caps (bit 8) :=
    fun resolved caps cleared inside => narrow_other resolved caps cleared 8 (by omega) (by decide) (by omega)
  cases driver with
  | srt => rfl
  | smt => rfl
  | apcHid =>
    simp only [upsHasCap, resolvedCaps, apcResolveCaps, capHeMode, capBeep, capMute, capClearFaults, capBatteryTest,
      capShutdown]
    rw [kept _ _ 5 (by decide), kept _ _ 4 (by decide), kept _ _ 3 (by decide), kept _ _ 1 (by decide),
      kept _ _ 0 (by decide)]
  | cyberpowerHid =>
    simp only [upsHasCap, resolvedCaps, cyberpowerResolveCaps, capHeMode, capMute, capClearFaults, capBatteryTest,
      capShutdown]
    rw [kept _ _ 4 (by decide), kept _ _ 3 (by decide), kept _ _ 1 (by decide), kept _ _ 0 (by decide)]

end AiriesUps.Ups
