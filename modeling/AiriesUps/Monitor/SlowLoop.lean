import AiriesUps.Monitor.Events

set_option autoImplicit false

namespace AiriesUps.Monitor

open Ups

structure Snapshot where
  status : Word
  batSystemError : BitVec 16
  generalError : BitVec 16
  powerSystemError : Word
  batLifetimeStatus : BitVec 16
deriving DecidableEq, Repr

def Snapshot.ofData (data : UpsData) : Snapshot :=
  { status := data.status
    batSystemError := data.batSystemError
    generalError := data.generalError
    powerSystemError := data.powerSystemError
    batLifetimeStatus := data.batLifetimeStatus }

-- monitor_create: the stored row, or the baseline when there is none.
def Snapshot.load : Option Snapshot → Snapshot
  | some stored => stored
  | none =>
    { status := stOnline, batSystemError := 0, generalError := 0, powerSystemError := 0, batLifetimeStatus := 0 }

structure HeInhibit where
  active : Bool
  source : String
  reengageCount : Nat
deriving DecidableEq, Repr

def HeInhibit.clear : HeInhibit := { active := false, source := "", reengageCount := 0 }

-- monitor_he_inhibit_set keeps the count.
def HeInhibit.set (inhibit : HeInhibit) (source : String) : HeInhibit :=
  { inhibit with active := true, source := String.ofList (source.toList.take 31) }

def heReengageThreshold : Nat := 30

-- The part of struct monitor the slow thread works on. stored is the row of
-- ups_status_snapshot. prev_sig is written and never read.
structure SlowLoop where
  data : UpsData
  hasData : Bool
  connected : Bool
  prevStatus : Word
  snapshot : Snapshot
  stored : Option Snapshot
  wasConnected : Bool
  disconnectedAt : Int
  inhibit : HeInhibit
deriving DecidableEq, Repr

def SlowLoop.create (stored : Option Snapshot) : SlowLoop :=
  { data := .zero, hasData := false, connected := false, prevStatus := (Snapshot.load stored).status
    snapshot := Snapshot.load stored, stored := stored, wasConnected := false, disconnectedAt := 0, inhibit := .clear }

-- One turn of the poll loop: what ups_read_status and ups_read_dynamic returned
-- together, the state of the transport after a failure, the clock, the HE capability,
-- what fast_loop_recent_cause answers, and whether a save of the snapshot succeeds.
structure Poll where
  reading : Option UpsData
  transportUp : Bool
  now : Int
  heMode : Bool
  saves : Bool
deriving DecidableEq, Repr

def initialRead (loop : SlowLoop) : Option UpsData → SlowLoop × List MonitorEvent
  | none => (loop, [])
  | some data =>
    ({ loop with data := data, hasData := true, connected := true, wasConnected := true },
      [fireEvent "info" "system" "Monitor Started" (.statusLine data)])

def readFailed (loop : SlowLoop) (poll : Poll) : SlowLoop × List MonitorEvent :=
  if !poll.transportUp && loop.wasConnected then
    ({ loop with connected := false, wasConnected := false, disconnectedAt := poll.now },
      [fireEvent "error" "system" "UPS Disconnected" (.text "Lost communication with UPS")])
  else ({ loop with connected := poll.transportUp }, [])

def reconnect (loop : SlowLoop) (now : Int) : SlowLoop × List MonitorEvent :=
  if !loop.wasConnected && loop.disconnectedAt > 0 then
    ({ loop with wasConnected := true, disconnectedAt := 0 },
      [fireEvent "warning" "system" "UPS Reconnected" (.restored (now - loop.disconnectedAt))])
  else ({ loop with wasConnected := true }, [])

def heAutoClear (inhibit : HeInhibit) (heMode : Bool) (data : UpsData) (cause : BitVec 16) :
    HeInhibit × List MonitorEvent :=
  if inhibit.active && heMode then
    if has data.status stHeMode then
      if inhibit.reengageCount + 1 ≥ heReengageThreshold then
        (.clear, [fireEventWithReason "info" "status" "HE Mode Restored"
          (.text "HE mode re-engaged, inhibit cleared") cause])
      else ({ inhibit with reengageCount := inhibit.reengageCount + 1 }, [])
    else ({ inhibit with reengageCount := 0 }, [])
  else (inhibit, [])

def batteryTestResultStr (raw : BitVec 16) : Option String :=
  if has raw battestFailed then some "failed"
  else if has raw battestRefused then some "refused"
  else if has raw battestAborted then some "aborted"
  else if has raw battestPassed then some "passed"
  else none

def batteryTestSourceStr (raw : BitVec 16) : Option String :=
  if has raw battestSrcProtocol then some "protocol"
  else if has raw battestSrcLocalUi then some "local UI"
  else if has raw battestSrcInternal then some "internal scheduler"
  else none

def selfTestSeverity : Option String → String
  | some "failed" => "error"
  | some "refused" | some "aborted" => "warning"
  | _ => "info"

def selfTestTitle : Option String → String
  | some "passed" => "Self-Test Passed"
  | some "failed" => "Self-Test Failed"
  | some "refused" => "Self-Test Refused"
  | some "aborted" => "Self-Test Aborted"
  | _ => "Self-Test Ended"

def selfTestBody (result source : Option String) : String :=
  match result, source with
  | some result, some source => "Result: " ++ result ++ " (triggered by " ++ source ++ ")"
  | some result, none => "Result: " ++ result
  | none, _ => "UPS self-test has completed (result not yet latched)"

def selfTestEvent (raw : BitVec 16) (cause : BitVec 16) : MonitorEvent :=
  let result := batteryTestResultStr raw
  fireEventWithReason (selfTestSeverity result) "test" (selfTestTitle result)
    (.text (selfTestBody result (batteryTestSourceStr raw))) cause

-- State change detection. first_poll is 0 once the thread runs, and data is the
-- reading stored in the monitor before.
def stateChange (prevStatus : Word) (data : UpsData) (cause : BitVec 16) : List MonitorEvent :=
  let changed := prevStatus ^^^ data.status
  let set := changed &&& data.status
  let cleared := changed &&& prevStatus
  let imminent := has data.sigStatus sigShutdownImminent
  emitWhen (has set stHeMode)
    (fireEventWithReason "info" "mode" "HE Mode Entered" (.text "UPS entered high efficiency mode") cause) ++
  emitWhen (has cleared stHeMode)
    (fireEventWithReason "info" "mode" "HE Mode Exited" (.text "UPS exited high efficiency mode") cause) ++
  emitWhen (has set stTest)
    (fireEventWithReason "info" "test" "Self-Test Started" (.text "UPS self-test is in progress") cause) ++
  emitWhen (has cleared stTest) (selfTestEvent data.batTestStatus cause) ++
  emitWhen (has data.status stOnBattery && imminent && !(has prevStatus stOnBattery && imminent))
    (fireEventWithReason "critical" "shutdown" "Shutdown Triggered"
      (.shutdownTriggered data.chargePct data.runtimeSec) cause)

-- The snapshot in memory follows the reading also when the save fails.
def updateSnapshot (loop : SlowLoop) (data : UpsData) (saves : Bool) : SlowLoop :=
  if Snapshot.ofData data ≠ loop.snapshot then
    { loop with
      snapshot := Snapshot.ofData data
      stored := if saves then some (Snapshot.ofData data) else loop.stored }
  else loop

def slowPoll (loop : SlowLoop) (poll : Poll) (cause : BitVec 16) : SlowLoop × List MonitorEvent :=
  match poll.reading with
  | none => readFailed loop poll
  | some data =>
    let stored := { loop with data := data, hasData := true, connected := true }
    let reconnected := reconnect stored poll.now
    let cleared := heAutoClear loop.inhibit poll.heMode data cause
    let events := reconnected.2 ++ cleared.2 ++ stateChange loop.prevStatus data cause
    (updateSnapshot { reconnected.1 with inhibit := cleared.1, prevStatus := data.status } data poll.saves, events)

def slowTitles : List String :=
  ["Monitor Started", "UPS Disconnected", "UPS Reconnected", "HE Mode Restored", "HE Mode Entered", "HE Mode Exited",
    "Self-Test Started", "Self-Test Passed", "Self-Test Failed", "Self-Test Refused", "Self-Test Aborted",
    "Self-Test Ended", "Shutdown Triggered"]

theorem self_test_title_slow (result : Option String) : selfTestTitle result ∈ slowTitles := by
  unfold selfTestTitle
  split <;> decide

theorem state_change_titles (prevStatus : Word) (data : UpsData) (cause : BitVec 16) :
    ∀ event ∈ stateChange prevStatus data cause, event.title ∈ slowTitles := by
  intro event member
  simp only [stateChange, List.mem_append] at member
  rcases member with (((entered | exited) | started) | ended) | triggered
  · rw [(emit_when_member _ _ _ entered).2]
    simp [slowTitles]
  · rw [(emit_when_member _ _ _ exited).2]
    simp [slowTitles]
  · rw [(emit_when_member _ _ _ started).2]
    simp [slowTitles]
  · rw [(emit_when_member _ _ _ ended).2]
    exact self_test_title_slow (batteryTestResultStr data.batTestStatus)
  · rw [(emit_when_member _ _ _ triggered).2]
    simp [slowTitles]

theorem reconnect_title (loop : SlowLoop) (now : Int) (event : MonitorEvent) (member : event ∈ (reconnect loop now).2) :
    event.title = "UPS Reconnected" := by
  rw [reconnect] at member
  split at member
  · rw [List.mem_singleton.mp member]
    rfl
  · cases member

theorem he_auto_clear_title (inhibit : HeInhibit) (heMode : Bool) (data : UpsData) (cause : BitVec 16)
    (event : MonitorEvent) (member : event ∈ (heAutoClear inhibit heMode data cause).2) :
    event.title = "HE Mode Restored" := by
  rw [heAutoClear] at member
  split at member
  · split at member
    · split at member
      · rw [List.mem_singleton.mp member]
        rfl
      · cases member
    · cases member
  · cases member

theorem read_failed_title (loop : SlowLoop) (poll : Poll) (event : MonitorEvent)
    (member : event ∈ (readFailed loop poll).2) : event.title = "UPS Disconnected" := by
  rw [readFailed] at member
  split at member
  · rw [List.mem_singleton.mp member]
    rfl
  · cases member

theorem slow_poll_titles (loop : SlowLoop) (poll : Poll) (cause : BitVec 16) :
    ∀ event ∈ (slowPoll loop poll cause).2, event.title ∈ slowTitles := by
  intro event member
  rw [slowPoll] at member
  cases reading : poll.reading with
  | none =>
    simp only [reading] at member
    rw [read_failed_title loop poll event member]
    simp [slowTitles]
  | some data =>
    simp only [reading, List.mem_append] at member
    rcases member with (reconnected | cleared) | changed
    · rw [reconnect_title _ _ event reconnected]
      simp [slowTitles]
    · rw [he_auto_clear_title _ _ _ _ event cleared]
      simp [slowTitles]
    · exact state_change_titles loop.prevStatus data cause event changed

theorem initial_read_titles (loop : SlowLoop) (reading : Option UpsData) :
    ∀ event ∈ (initialRead loop reading).2, event.title ∈ slowTitles := by
  intro event member
  cases reading with
  | none => cases member
  | some data =>
    rw [List.mem_singleton.mp member]
    simp [slowTitles]

end AiriesUps.Monitor
