import AiriesUps.Ups.Data
import AiriesUps.Monitor.XferRing

set_option autoImplicit false

namespace AiriesUps.Monitor

open Ups (Double UpsData)

-- The message of an event: a fixed text, or a format string of the source and the
-- values it is filled with.
inductive Body where
  | text (text : String)
  | statusLine (data : UpsData)
  | restored (gap : Int)
  | onBattery (chargePct : Double) (runtimeSec : Nat)
  | shutdownTriggered (chargePct : Double) (runtimeSec : Nat)
deriving DecidableEq, Repr

-- fire_event; reason is the "(reason: ...)" suffix.
structure MonitorEvent where
  severity : String
  category : String
  title : String
  body : Body
  reason : Option (BitVec 16)
deriving DecidableEq, Repr

def fireEvent (severity category title : String) (body : Body) : MonitorEvent :=
  { severity := severity, category := category, title := title, body := body, reason := none }

def fireEventWithReason (severity category title : String) (body : Body) (reason : BitVec 16) : MonitorEvent :=
  { severity := severity, category := category, title := title, body := body
    reason :=
      if transferReasonKnown reason = false ∨ reason = xferReasonAcceptableInput then none else some reason }

def emitWhen (condition : Bool) (event : MonitorEvent) : List MonitorEvent := if condition then [event] else []

@[simp] theorem fire_event_title (severity category title : String) (body : Body) :
    (fireEvent severity category title body).title = title := rfl

@[simp] theorem fire_event_with_reason_title (severity category title : String) (body : Body) (reason : BitVec 16) :
    (fireEventWithReason severity category title body reason).title = title := rfl

theorem emit_when_member (condition : Bool) (event emitted : MonitorEvent) (member : emitted ∈ emitWhen condition event) :
    condition = true ∧ emitted = event := by
  cases condition with
  | true => exact ⟨rfl, List.mem_singleton.mp member⟩
  | false => cases member

end AiriesUps.Monitor
