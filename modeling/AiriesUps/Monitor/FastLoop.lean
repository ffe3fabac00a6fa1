import AiriesUps.Monitor.Events

set_option autoImplicit false

namespace AiriesUps.Monitor

open Ups

-- struct fast_loop: the ring, prev_status_fast and first_tick.
structure FastLoop where
  ring : XferRing
  prevStatusFast : Word
  firstTick : Bool
deriving DecidableEq, Repr

def FastLoop.start : FastLoop := { ring := .init, prevStatusFast := 0, firstTick := true }

-- One turn of fast_loop_thread: what ups_read_status and ups_read_transfer_reason
-- returned, the monotonic clock, and what the extra ups_read_status of the battery
-- event returns when it is made.
structure Tick where
  status : Option Word
  reason : Option (BitVec 16)
  nowMs : Nat
  battery : Option UpsData
deriving DecidableEq, Repr

def fastOwnedBits : Word := stOnBattery ||| stOutputOff ||| stBypass ||| stFault ||| stFaultState ||| stOverload

def onBatteryBody : Option UpsData → Body
  | some data => .onBattery data.chargePct data.runtimeSec
  | none => .text "UPS switched to battery"

def emitTransitions (prevStatusFast status : Word) (reason : BitVec 16) (battery : Option UpsData) : List MonitorEvent :=
  let changed := (prevStatusFast ^^^ status) &&& fastOwnedBits
  if changed = 0 then []
  else
    let set := changed &&& status
    let cleared := changed &&& prevStatusFast
    emitWhen (has set stOnBattery)
      (fireEventWithReason "warning" "power" "On Battery" (onBatteryBody battery) reason) ++
    emitWhen (has cleared stOnBattery)
      (fireEventWithReason "info" "power" "Utility Restored" (.text "UPS returned to utility power") reason) ++
    emitWhen (has set stOutputOff)
      (fireEventWithReason "error" "power" "Output Off" (.text "UPS output has been turned off") reason) ++
    emitWhen (has cleared stOutputOff)
      (fireEventWithReason "info" "power" "Output Restored" (.text "UPS output has been restored") reason) ++
    emitWhen (has set stBypass)
      (fireEventWithReason "warning" "mode" "Bypass Entered" (.text "UPS transferred to bypass") reason) ++
    emitWhen (has cleared stBypass)
      (fireEventWithReason "info" "mode" "Bypass Exited" (.text "UPS returned to normal operation from bypass") reason) ++
    emitWhen (has set (stFault ||| stFaultState))
      (fireEventWithReason "error" "fault" "Fault Detected" (.text "UPS has entered a fault condition") reason) ++
    emitWhen (has cleared (stFault ||| stFaultState))
      (fireEventWithReason "info" "fault" "Fault Cleared" (.text "UPS fault condition has been cleared") reason) ++
    emitWhen (has set stOverload)
      (fireEventWithReason "error" "fault" "Overload" (.text "UPS output is overloaded") reason) ++
    emitWhen (has cleared stOverload)
      (fireEventWithReason "info" "fault" "Overload Cleared" (.text "UPS overload condition has cleared") reason)

structure XferHistory where
  reasonCode : BitVec 16
  reasonStr : String
  statusBits : Word
deriving DecidableEq, Repr

structure TickResult where
  loop : FastLoop
  events : List MonitorEvent
  history : List XferHistory
deriving DecidableEq, Repr

def fastLoopTick (loop : FastLoop) (tick : Tick) : TickResult :=
  match tick.status, tick.reason with
  | some status, some reason =>
    let pushed := loop.ring.push tick.nowMs reason
    { loop := { ring := pushed.1, prevStatusFast := status, firstTick := false }
      events := if loop.firstTick then [] else emitTransitions loop.prevStatusFast status reason tick.battery
      history :=
        if pushed.2 then [{ reasonCode := reason, reasonStr := transferReasonStr reason, statusBits := status }] else [] }
  | _, _ => { loop := loop, events := [], history := [] }

def Tick.successful (tick : Tick) : Option Word := tick.reason.bind fun _ => tick.status

theorem fast_loop_tick_failed (loop : FastLoop) (tick : Tick) (failed : tick.successful = none) :
    fastLoopTick loop tick = { loop := loop, events := [], history := [] } := by
  rw [fastLoopTick]
  cases reason : tick.reason with
  | none => split <;> simp_all
  | some value =>
    have noStatus : tick.status = none := by simpa [Tick.successful, reason] using failed
    rw [noStatus]

theorem fast_loop_tick_successful (loop : FastLoop) (tick : Tick) (status : Word) (successful : tick.successful = some status) :
    ∃ reason, (fastLoopTick loop tick).events =
        (if loop.firstTick then [] else emitTransitions loop.prevStatusFast status reason tick.battery) ∧
      (fastLoopTick loop tick).loop.prevStatusFast = status ∧ (fastLoopTick loop tick).loop.firstTick = false := by
  obtain ⟨reason, read, same⟩ := Option.bind_eq_some_iff.mp successful
  refine ⟨reason, ?_⟩
  rw [fastLoopTick]
  rw [read, same]
  exact ⟨rfl, rfl, rfl⟩

def fastTitles : List String :=
  ["On Battery", "Utility Restored", "Output Off", "Output Restored", "Bypass Entered", "Bypass Exited", "Fault Detected",
    "Fault Cleared", "Overload", "Overload Cleared"]

theorem emit_transitions_titles (prevStatusFast status : Word) (reason : BitVec 16) (battery : Option UpsData) :
    ∀ event ∈ emitTransitions prevStatusFast status reason battery, event.title ∈ fastTitles := by
  intro event member
  rw [emitTransitions] at member
  split at member
  · cases member
  · simp only [List.mem_append, or_assoc] at member
    rcases member with member | member | member | member | member | member | member | member | member | member <;>
      (rw [(emit_when_member _ _ _ member).2]; simp [fastTitles])

theorem fast_loop_tick_titles (loop : FastLoop) (tick : Tick) :
    ∀ event ∈ (fastLoopTick loop tick).events, event.title ∈ fastTitles := by
  intro event member
  cases read : tick.successful with
  | none =>
    rw [fast_loop_tick_failed loop tick read] at member
    cases member
  | some status =>
    obtain ⟨reason, emitted, _, _⟩ := fast_loop_tick_successful loop tick status read
    rw [emitted] at member
    split at member
    · cases member
    · exact emit_transitions_titles loop.prevStatusFast status reason tick.battery event member

end AiriesUps.Monitor
