import AiriesUps.Monitor.PowerEvents

set_option autoImplicit false

namespace AiriesUps.Monitor

open Ups

-- monitor_create: row is what the table holds, loads whether status_snapshot_load can
-- read it.
def SlowLoop.boot (row : Option Snapshot) (loads : Bool) : SlowLoop :=
  { SlowLoop.create (if loads then row else none) with stored := row }

def MonitorState.boot (row : Option Snapshot) (loads fastRuns : Bool) : MonitorState :=
  { MonitorState.initial row fastRuns with slow := .boot row loads }

def polledReading : MonitorLabel → Option UpsData
  | .poll poll _ => poll.reading
  | _ => none

def previousReading (labels : List MonitorLabel) : Option UpsData := (labels.filterMap polledReading).getLast?

def armed (data : UpsData) : Bool := has data.status stOnBattery && has data.sigStatus sigShutdownImminent

def previouslyArmed (labels : List MonitorLabel) : Bool := (previousReading labels).any armed

-- prev_status: the status of the previous successful poll, at the first one that of
-- the snapshot.
def previousStatus (loaded : Snapshot) (labels : List MonitorLabel) : Word :=
  ((previousReading labels).map UpsData.status).getD loaded.status

def triggers (events : List MonitorEvent) : Nat := events.countP fun event => event.title == "Shutdown Triggered"

def triggersDue (past : List MonitorLabel) (label : MonitorLabel) : Nat :=
  ((polledReading label).any fun data => armed data && !previouslyArmed past).toNat

def ShutdownEventExact (past : List MonitorLabel) (state : MonitorState) (label : MonitorLabel) (next : MonitorState) : Prop :=
  triggers next.events = triggers state.events + triggersDue past label

-- Both bits are set and were not at the previous poll: then ON_BATTERY was not set.
def ArmedFromLine (loaded : Snapshot) (past : List MonitorLabel) (label : MonitorLabel) : Prop :=
  ∀ data, polledReading label = some data → armed data = true → previouslyArmed past = false →
    has (previousStatus loaded past) stOnBattery = false

@[simp] theorem triggers_append (before after : List MonitorEvent) :
    triggers (before ++ after) = triggers before + triggers after := List.countP_append

theorem triggers_emit (condition : Bool) (event : MonitorEvent) :
    triggers (emitWhen condition event) = (condition && event.title == "Shutdown Triggered").toNat := by
  cases condition with
  | true => simp only [triggers, emitWhen, if_true, List.countP_singleton, Bool.true_and, Bool.toNat, Bool.cond_eq_ite]
  | false => rfl

theorem triggers_none (events : List MonitorEvent) (others : ∀ event ∈ events, event.title ≠ "Shutdown Triggered") :
    triggers events = 0 := by
  refine List.countP_eq_zero.mpr fun event member => ?_
  simpa using others event member

theorem triggers_state_change (prevStatus : Word) (data : UpsData) (cause : BitVec 16) :
    triggers (stateChange prevStatus data cause) = (armed data && !has prevStatus stOnBattery).toNat := by
  have other : (selfTestTitle (batteryTestResultStr data.batTestStatus) == "Shutdown Triggered") = false := by
    unfold selfTestTitle
    split <;> decide
  simp only [stateChange, triggers_append, triggers_emit, selfTestEvent, fire_event_with_reason_title, other, Bool.and_false]
  rw [armed]
  cases has data.status stOnBattery <;> cases has data.sigStatus sigShutdownImminent <;>
    cases has prevStatus stOnBattery <;> simp

theorem triggers_poll (loop : SlowLoop) (poll : Poll) (cause : BitVec 16) :
    triggers (slowPoll loop poll cause).2 =
      (poll.reading.any fun data => armed data && !has loop.prevStatus stOnBattery).toNat := by
  rw [slowPoll]
  cases poll.reading with
  | none =>
    dsimp only
    rw [readFailed]
    split <;> rfl
  | some data =>
    have reconnected : triggers (reconnect { loop with data := data, hasData := true, connected := true } poll.now).2 = 0 := by
      rw [reconnect]
      split <;> rfl
    have restored : triggers (heAutoClear loop.inhibit poll.heMode data cause).2 = 0 := by
      rw [heAutoClear]
      split
      · split
        · split <;> rfl
        · rfl
      · rfl
    simp only [triggers_append, reconnected, restored, triggers_state_change, Option.any_some, Nat.zero_add]

theorem poll_prev_status (loop : SlowLoop) (poll : Poll) (cause : BitVec 16) :
    (slowPoll loop poll cause).1.prevStatus = (poll.reading.map UpsData.status).getD loop.prevStatus := by
  rw [slowPoll]
  cases poll.reading with
  | none =>
    dsimp only
    rw [readFailed]
    split <;> rfl
  | some data =>
    dsimp only
    rw [updateSnapshot]
    split <;> rfl

theorem previous_status_concat (loaded : Snapshot) (past : List MonitorLabel) (label : MonitorLabel) :
    previousStatus loaded (past ++ [label]) =
      ((polledReading label).map UpsData.status).getD (previousStatus loaded past) := by
  rw [previousStatus, previousReading, List.filterMap_append]
  cases read : polledReading label with
  | none => simp [read, previousStatus, previousReading]
  | some data => simp [read]

theorem previously_armed_status (loaded : Snapshot) (past : List MonitorLabel) (earlier : previouslyArmed past = true) :
    has (previousStatus loaded past) stOnBattery = true := by
  rw [previouslyArmed] at earlier
  rw [previousStatus]
  cases read : previousReading past with
  | none =>
    rw [read] at earlier
    cases earlier
  | some data =>
    rw [read, Option.any_some, armed, Bool.and_eq_true] at earlier
    exact earlier.1

-- What a step does to the events counted and to prev_status.
theorem shutdown_step (state next : MonitorState) (label : MonitorLabel) (taken : state.step label = some next) :
    next.slow.prevStatus = ((polledReading label).map UpsData.status).getD state.slow.prevStatus ∧
      triggers next.events = triggers state.events +
        ((polledReading label).any fun data => armed data && !has state.slow.prevStatus stOnBattery).toNat := by
  cases label with
  | initial reading =>
    obtain ⟨_, rfl⟩ := monitor_initial state next reading taken
    cases reading <;> exact ⟨rfl, by rw [triggers_append]; rfl⟩
  | poll poll nowMs =>
    obtain ⟨_, rfl⟩ := monitor_poll state next poll nowMs taken
    exact ⟨poll_prev_status state.slow poll _, by rw [triggers_append, triggers_poll]; rfl⟩
  | tick tick =>
    obtain ⟨loop, _, rfl⟩ := monitor_tick state next tick taken
    have silent : triggers (fastLoopTick loop tick).events = 0 := by
      refine triggers_none _ fun event member title => ?_
      have listed := fast_loop_tick_titles loop tick event member
      rw [title] at listed
      exact absurd listed (by decide)
    exact ⟨rfl, by rw [triggers_append, silent]; rfl⟩
  | inhibitSet source =>
    cases taken
    exact ⟨rfl, rfl⟩
  | inhibitClear =>
    cases taken
    exact ⟨rfl, rfl⟩

theorem shutdown_event_exact_iff (row : Option Snapshot) (loads fastRuns : Bool) (labels : List MonitorLabel) :
    Runs.EachStep MonitorState.step (.boot row loads fastRuns) labels ShutdownEventExact ↔
      Runs.EachStep MonitorState.step (.boot row loads fastRuns) labels fun past _ label _ =>
        ArmedFromLine (Snapshot.load (if loads then row else none)) past label := by
  refine Runs.each_step_congr MonitorState.step _
    (fun past state => state.slow.prevStatus = previousStatus (Snapshot.load (if loads then row else none)) past) rfl
    (fun past state label next inv taken => ?_) _ _ (fun past state label next inv taken => ?_) labels
  · rw [previous_status_concat, ← inv]
    exact (shutdown_step state next label taken).1
  · rw [ShutdownEventExact, (shutdown_step state next label taken).2, ArmedFromLine, triggersDue, inv]
    cases polledReading label with
    | none => simp
    | some data =>
      have set := previously_armed_status (Snapshot.load (if loads then row else none)) past
      simp only [Option.any_some, Option.some.injEq, forall_eq']
      cases before : previouslyArmed past with
      | true => simp [set before]
      | false =>
        generalize previousStatus (Snapshot.load (if loads then row else none)) past = previous
        cases armed data <;> cases has previous stOnBattery <;> simp

-- The usual order: mains fail, and the battery runs low at a later poll.
def batteryRunsLow : List MonitorLabel :=
  [.initial (some (readingWith stOnline)),
    .poll { reading := some (readingWith stOnBattery), transportUp := true, now := 2, heMode := false, saves := true } 2000,
    .poll { reading := some { readingWith stOnBattery with sigStatus := sigShutdownImminent }
            transportUp := true, now := 4, heMode := false, saves := true } 4000]

theorem late_shutdown_event_lost :
    ¬Runs.EachStep MonitorState.step (.boot (some (Snapshot.ofData (readingWith stOnline))) true false) batteryRunsLow
      ShutdownEventExact := by
  intro exact
  have due := Runs.each_step_final _ _ _ _ exact (batteryRunsLow.take 2) _ [] rfl (by decide +kernel)
  rw [ShutdownEventExact] at due
  exact absurd due (by decide +kernel)

end AiriesUps.Monitor
