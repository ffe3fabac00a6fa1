import Mathlib.Data.List.Basic
import Mathlib.Data.BitVec

set_option autoImplicit false

namespace AiriesUps.Monitor

def xferRingSize : Nat := 16

def xferReasonAcceptableInput : BitVec 16 := 8

def transferReasonUnknown : BitVec 16 := 0xFFFF

def transferReasons : List String :=
  ["SystemInitialization", "HighInputVoltage", "LowInputVoltage", "DistortedInput", "RapidChangeOfInputVoltage",
    "HighInputFrequency", "LowInputFrequency", "FreqAndOrPhaseDifference", "AcceptableInput", "AutomaticTest",
    "TestEnded", "LocalUICommand", "ProtocolCommand", "LowBatteryVoltage", "GeneralError", "PowerSystemError",
    "BatterySystemError", "ErrorCleared", "AutomaticRestart", "DistortedInverterOutput", "InverterOutputAcceptable",
    "EPOInterface", "InputPhaseDeltaOutOfRange", "InputNeutralNotConnected", "ATSTransfer", "ConfigurationChange",
    "AlertAsserted", "AlertCleared", "PlugRatingExceeded", "OutletGroupStateChange", "FailureBypassExpired"]

def transferReasonStr (reason : BitVec 16) : String := transferReasons[reason.toNat]?.getD "Unknown"

def transferReasonKnown (reason : BitVec 16) : Bool := reason.toNat < transferReasons.length

structure XferEvent where
  timestampMs : Nat
  reason : BitVec 16
deriving DecidableEq, Repr

-- xfer_ring_t; lastSeen is none until the first push.
structure XferRing where
  entries : List XferEvent
  head : Nat
  count : Nat
  lastSeen : Option (BitVec 16)
deriving DecidableEq, Repr

def XferRing.init : XferRing :=
  { entries := List.replicate xferRingSize { timestampMs := 0, reason := 0 }, head := 0, count := 0, lastSeen := none }

-- The flag tells whether the reading was recorded.
def XferRing.push (ring : XferRing) (nowMs : Nat) (reason : BitVec 16) : XferRing × Bool :=
  if ring.lastSeen = some reason then (ring, false)
  else
    ({ entries := ring.entries.set ring.head { timestampMs := nowMs, reason := reason }
       head := (ring.head + 1) % xferRingSize
       count := if ring.count < xferRingSize then ring.count + 1 else ring.count
       lastSeen := some reason }, true)

def XferRing.recentCause (ring : XferRing) (nowMs lookbackMs : Nat) : BitVec 16 :=
  let cutoff := nowMs - lookbackMs
  let best := (ring.entries.take ring.count).foldl
    (fun (best : BitVec 16 × Nat) entry =>
      if entry.timestampMs < cutoff then best
      else if entry.reason = xferReasonAcceptableInput then best
      else if entry.timestampMs > best.2 then (entry.reason, entry.timestampMs)
      else best)
    (transferReasonUnknown, 0)
  best.1

end AiriesUps.Monitor
