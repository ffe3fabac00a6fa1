import AiriesUps.Hid.Status
import AiriesUps.Monitor.ShutdownEvent

set_option autoImplicit false

namespace AiriesUps.Monitor

open Ups
open Hid (Hidraw HidField ReportMap StatusData hidPdcReadStatusStandard hidFieldReadRaw)

-- A reading of a HID driver: its status and its test register are what the
-- PresentStatus reader made of the device, with this value of the Test usage.
def HidReading (data : UpsData) (testVal : BitVec 32) : Prop :=
  ∃ (Device : Type) (node : Hidraw Device) (device : Device) (map : ReportMap) (skipAvrBits : Bool) (test : HidField)
    (before read : StatusData),
    hidPdcReadStatusStandard node device map skipAvrBits (some test) before = .ok (some read) ∧
      hidFieldReadRaw node device (some test) = .ok testVal ∧ data.status = read.status ∧
      data.batTestStatus = read.batTestStatus

-- The bits of the test register that a "Self-Test Passed" event stands for.
def reportsPassed (testVal : BitVec 32) : Bool :=
  testVal.getLsbD 2 && !testVal.getLsbD 3 && !testVal.getLsbD 4 && !testVal.getLsbD 5

def outcomeTitles : List String := ["Self-Test Passed", "Self-Test Failed", "Self-Test Refused", "Self-Test Aborted"]

-- 1 is the only value of the Test usage that means a passed test.
def OutcomeAgrees (testVal : BitVec 32) (event : MonitorEvent) : Prop :=
  (event.title = "Self-Test Passed" → testVal = 1) ∧
    (testVal = 1 → event.title ≠ "Self-Test Failed" ∧ event.title ≠ "Self-Test Refused" ∧
      event.title ≠ "Self-Test Aborted")

-- Every event of a poll agrees with the value of the Test usage it read.
def OutcomesAgree (_ : List MonitorLabel) (state : MonitorState) (label : MonitorLabel) (next : MonitorState) : Prop :=
  ∀ data testVal, polledReading label = some data → HidReading data testVal →
    ∀ event ∈ next.events.drop state.events.length, OutcomeAgrees testVal event

-- A poll at which the test ends does not read a value with the bits of a passed one.
def EndsApart (loaded : Snapshot) (past : List MonitorLabel) (label : MonitorLabel) : Prop :=
  ∀ data testVal, polledReading label = some data → HidReading data testVal →
    has (previousStatus loaded past) stTest = true → has data.status stTest = false → reportsPassed testVal = false

theorem flag_bit (condition : Bool) (flag : Word) (index : Nat) :
    (Hid.flagIf condition flag).getLsbD index = (condition && flag.getLsbD index) := by
  cases condition with
  | true => rw [Hid.flagIf, if_pos rfl, Bool.true_and]
  | false =>
    rw [Hid.flagIf, if_neg Bool.false_ne_true, Bool.false_and]
    exact BitVec.getLsbD_zero

theorem present_status_no_test (bit : Hid.StatusUsage → Bool) (hasBatteryPresent skipAvrBits : Bool)
    (batTestStatus : BitVec 16) :
    (Hid.presentStatus bit hasBatteryPresent skipAvrBits batTestStatus).status.getLsbD 7 = false := by
  have others : Ups.stOnline.getLsbD 7 = false ∧ Ups.stOnBattery.getLsbD 7 = false ∧ Ups.stOverload.getLsbD 7 = false ∧
      Hid.stShutPending.getLsbD 7 = false ∧ Ups.stInputBad.getLsbD 7 = false ∧ Ups.stFault.getLsbD 7 = false ∧
      Hid.stAvrBoost.getLsbD 7 = false ∧ Hid.stAvrTrim.getLsbD 7 = false := by decide
  obtain ⟨online, onBattery, overload, pending, inputBad, fault, boost, trim⟩ := others
  simp only [Hid.presentStatus, BitVec.getLsbD_or, flag_bit, online, onBattery, overload, pending, inputBad, fault, boost,
    trim, Bool.and_false, Bool.or_self]

theorem has_test (status : Word) : has status stTest = status.getLsbD 7 := has_bit status 7 (by decide)

-- The reader tells a test in progress from the value 5 alone, and passes the
-- value on as the register of test results.
theorem hid_reading_test (data : UpsData) (testVal : BitVec 32) (reading : HidReading data testVal) :
    has data.status stTest = (testVal == 5) ∧ data.batTestStatus = testVal.setWidth 16 := by
  obtain ⟨Device, node, device, map, skipAvrBits, test, before, read, done, raw, status, result⟩ := reading
  have inTest : stTest.getLsbD 7 = true := by decide
  rw [hidPdcReadStatusStandard] at done
  cases sent : node.getFeature device (Hid.statusRid map) Hid.readBufferSize with
  | none =>
    rw [sent] at done
    cases done
  | some report =>
    simp only [sent, raw, bind, Except.bind] at done
    cases done
    refine ⟨?_, result⟩
    rw [status, has_test, StatusData.withOutlet, StatusData.withTest]
    rw [BitVec.getLsbD_or, present_status_no_test, flag_bit, inTest, Bool.and_true, Bool.false_or]

theorem has_shifted (raw : BitVec 16) (index : Nat) (inside : index < 16) :
    has raw (1#16 <<< index) = raw.getLsbD index := by
  rw [← BitVec.twoPow_eq]
  exact has_two_pow raw index inside

theorem test_result (testVal : BitVec 32) :
    batteryTestResultStr (testVal.setWidth 16) = some "passed" ↔ reportsPassed testVal = true := by
  have low (index : Nat) (inside : index < 16) : (testVal.setWidth 16).getLsbD index = testVal.getLsbD index := by
    rw [BitVec.getLsbD_setWidth, decide_eq_true inside, Bool.true_and]
  rw [batteryTestResultStr, battestFailed, battestRefused, battestAborted, battestPassed, has_shifted _ 3 (by decide),
    has_shifted _ 4 (by decide), has_shifted _ 5 (by decide), has_shifted _ 2 (by decide), low 3 (by decide),
    low 4 (by decide), low 5 (by decide), low 2 (by decide), reportsPassed]
  cases testVal.getLsbD 2 <;> cases testVal.getLsbD 3 <;> cases testVal.getLsbD 4 <;> cases testVal.getLsbD 5 <;> simp

theorem cleared_test (before after : Word) :
    has ((before ^^^ after) &&& before) stTest = (has before stTest && !has after stTest) := by
  rw [stTest]
  exact has_falling before after 7 (by decide)

theorem change_outcome (prevStatus : Word) (data : UpsData) (cause : BitVec 16) (event : MonitorEvent)
    (member : event ∈ stateChange prevStatus data cause) (outcome : event.title ∈ outcomeTitles) :
    has ((prevStatus ^^^ data.status) &&& prevStatus) stTest = true ∧ event = selfTestEvent data.batTestStatus cause := by
  simp only [stateChange, List.mem_append] at member
  obtain (((entered | exited) | started) | ended) | triggered := member
  · rw [(emit_when_member _ _ _ entered).2] at outcome
    exact absurd outcome (by simp [outcomeTitles])
  · rw [(emit_when_member _ _ _ exited).2] at outcome
    exact absurd outcome (by simp [outcomeTitles])
  · rw [(emit_when_member _ _ _ started).2] at outcome
    exact absurd outcome (by simp [outcomeTitles])
  · exact emit_when_member _ _ _ ended
  · rw [(emit_when_member _ _ _ triggered).2] at outcome
    exact absurd outcome (by simp [outcomeTitles])

-- What a poll says about the outcome of a test: one event, where the test has ended.
theorem poll_outcome (loop : SlowLoop) (poll : Poll) (cause : BitVec 16) (event : MonitorEvent)
    (member : event ∈ (slowPoll loop poll cause).2) (outcome : event.title ∈ outcomeTitles) :
    ∃ data, poll.reading = some data ∧ has loop.prevStatus stTest = true ∧ has data.status stTest = false ∧
      event = selfTestEvent data.batTestStatus cause := by
  rw [slowPoll] at member
  cases read : poll.reading with
  | none =>
    simp only [read] at member
    rw [read_failed_title loop poll event member] at outcome
    exact absurd outcome (by decide)
  | some data =>
    simp only [read, List.mem_append] at member
    obtain (reconnected | cleared) | changed := member
    · rw [reconnect_title _ _ event reconnected] at outcome
      exact absurd outcome (by decide)
    · rw [he_auto_clear_title _ _ _ _ event cleared] at outcome
      exact absurd outcome (by decide)
    · obtain ⟨ended, isEvent⟩ := change_outcome loop.prevStatus data cause event changed outcome
      rw [cleared_test, Bool.and_eq_true, Bool.not_eq_true'] at ended
      exact ⟨data, rfl, ended.1, ended.2, isEvent⟩

theorem poll_reports (loop : SlowLoop) (poll : Poll) (cause : BitVec 16) (data : UpsData) (read : poll.reading = some data)
    (before : has loop.prevStatus stTest = true) (after : has data.status stTest = false) :
    selfTestEvent data.batTestStatus cause ∈ (slowPoll loop poll cause).2 := by
  have ended : emitWhen (has ((loop.prevStatus ^^^ data.status) &&& loop.prevStatus) stTest)
      (selfTestEvent data.batTestStatus cause) = [selfTestEvent data.batTestStatus cause] := by
    rw [cleared_test, before, after]
    rfl
  simp only [slowPoll, read, stateChange, ended, List.mem_append, List.mem_singleton, true_or, or_true]

theorem passed_title (raw : BitVec 16) (cause : BitVec 16) :
    (selfTestEvent raw cause).title = "Self-Test Passed" ↔ batteryTestResultStr raw = some "passed" := by
  rw [selfTestEvent, fire_event_with_reason_title]
  unfold selfTestTitle
  split
  · rename_i passed
    exact iff_of_true rfl passed
  · rename_i failed
    exact iff_of_false (by decide) (by rw [failed]; decide)
  · rename_i refused
    exact iff_of_false (by decide) (by rw [refused]; decide)
  · rename_i aborted
    exact iff_of_false (by decide) (by rw [aborted]; decide)
  · rename_i notPassed _ _ _
    exact iff_of_false (by decide) notPassed

-- The value of a passed test has none of the bits the event text goes by.
theorem passed_value_title (cause : BitVec 16) :
    (selfTestEvent ((1 : BitVec 32).setWidth 16) cause).title = "Self-Test Ended" := rfl

theorem poll_agrees (loop : SlowLoop) (poll : Poll) (cause : BitVec 16) (data : UpsData) (testVal : BitVec 32)
    (read : poll.reading = some data) (reading : HidReading data testVal) :
    (∀ event ∈ (slowPoll loop poll cause).2, OutcomeAgrees testVal event) ↔
      (has loop.prevStatus stTest = true → has data.status stTest = false → reportsPassed testVal = false) := by
  have test := (hid_reading_test data testVal reading).2
  refine ⟨fun agrees before after => ?_, fun apart event member => ⟨fun passed => ?_, fun isPassed => ?_⟩⟩
  · by_contra passed
    rw [Bool.not_eq_false, ← test_result, ← test, ← passed_title _ cause] at passed
    have isOne := (agrees _ (poll_reports loop poll cause data read before after)).1 passed
    rw [test, isOne, passed_value_title] at passed
    exact absurd passed (by decide)
  · obtain ⟨other, isOther, before, after, isEvent⟩ := poll_outcome loop poll cause event member
      (by rw [passed]; exact List.mem_cons_self)
    rw [read, Option.some.injEq] at isOther
    subst isOther
    rw [isEvent, passed_title, test, test_result, apart before after] at passed
    cases passed
  · have quiet : event.title ∉ outcomeTitles := by
      intro outcome
      obtain ⟨other, isOther, _, _, isEvent⟩ := poll_outcome loop poll cause event member outcome
      rw [read, Option.some.injEq] at isOther
      subst isOther
      rw [isEvent, test, isPassed, passed_value_title] at outcome
      exact absurd outcome (by decide)
    simp only [outcomeTitles, List.mem_cons, not_or] at quiet
    exact ⟨quiet.2.1, quiet.2.2.1, quiet.2.2.2.1⟩

theorem step_agrees (state next : MonitorState) (label : MonitorLabel) (past : List MonitorLabel) (loaded : Snapshot)
    (previous : state.slow.prevStatus = previousStatus loaded past) (taken : state.step label = some next) :
    OutcomesAgree past state label next ↔ EndsApart loaded past label := by
  cases label with
  | poll poll nowMs =>
    obtain ⟨_, rfl⟩ := monitor_poll state next poll nowMs taken
    have added : (state.events ++ (slowPoll state.slow poll (recentCause state.fast nowMs)).2).drop state.events.length =
        (slowPoll state.slow poll (recentCause state.fast nowMs)).2 := List.drop_left
    rw [OutcomesAgree, EndsApart, ← previous]
    refine forall_congr' fun data => forall_congr' fun testVal => imp_congr_right fun read => imp_congr_right fun reading => ?_
    rw [added]
    exact poll_agrees state.slow poll _ data testVal read reading
  | _ => exact iff_of_true (fun _ _ read => by cases read) fun _ _ read => by cases read

theorem self_test_outcomes_iff (row : Option Snapshot) (loads fastRuns : Bool) (labels : List MonitorLabel) :
    Runs.EachStep MonitorState.step (.boot row loads fastRuns) labels OutcomesAgree ↔
      Runs.EachStep MonitorState.step (.boot row loads fastRuns) labels fun past _ label _ =>
        EndsApart (Snapshot.load (if loads then row else none)) past label := by
  refine Runs.each_step_congr MonitorState.step _
    (fun past state => state.slow.prevStatus = previousStatus (Snapshot.load (if loads then row else none)) past) rfl
    (fun past state label next inv taken => ?_) _ _ (fun past state label next inv taken => ?_) labels
  · rw [previous_status_concat, ← inv]
    exact (shutdown_step state next label taken).1
  · exact step_agrees state next label past _ inv taken

-- The Test usage in the first byte of report 1.
def testField : HidField :=
  { usagePath := [], usagePage := 0x84, usageId := 0x58, reportId := 1, bitOffset := 0, bitSize := 8, type := .feature
    logicalMin := 0, logicalMax := 6, physicalMin := 0, physicalMax := 0, unitExponent := 0, unit := 0 }

def testReading (value : BitVec 8) : UpsData :=
  { readingWith (if value = 5 then stTest else 0) with batTestStatus := value.setWidth 16 }

def testPoll (value : BitVec 8) (now : Int) (nowMs : Nat) : MonitorLabel :=
  .poll { reading := some (testReading value), transportUp := true, now, heMode := false, saves := true } nowMs

-- A test in progress, and then aborted.
def abortedTest : List MonitorLabel := [.initial (some (testReading 6)), testPoll 5 2 2000, testPoll 4 4 4000]

theorem aborted_reading : HidReading (testReading 4) 4 := by
  refine ⟨Hid.Reports, Hid.reportsNode, fun _ => [4], [], true, testField,
    { status := 0, sigStatus := 0, generalError := 0, batSystemError := 0, transferReason := 0, batTestStatus := 0
      outletMog := 0 }, _, rfl, rfl, rfl, rfl⟩

theorem aborted_test_reported_passed :
    ¬Runs.EachStep MonitorState.step (.boot none true false) abortedTest OutcomesAgree := by
  intro agree
  have last := Runs.each_step_final _ _ _ _ agree (abortedTest.take 2) _ [] rfl (by decide +kernel)
  have outcome := last (testReading 4) 4 rfl aborted_reading
  have titles : ((Runs.final MonitorState.step (.boot none true false) abortedTest).events.drop
      (Runs.final MonitorState.step (.boot none true false) (abortedTest.take 2)).events.length).map MonitorEvent.title =
        ["Self-Test Passed"] := by decide +kernel
  obtain ⟨event, isEvent, title⟩ := List.map_eq_singleton_iff.mp titles
  have member : event ∈ (Runs.final MonitorState.step (.boot none true false) abortedTest).events.drop
      (Runs.final MonitorState.step (.boot none true false) (abortedTest.take 2)).events.length := by
    rw [isEvent]
    exact List.mem_singleton_self event
  exact absurd ((outcome event member).1 title) (by decide)

end AiriesUps.Monitor
