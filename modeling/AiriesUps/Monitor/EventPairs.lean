import AiriesUps.Lib.Alternation
import AiriesUps.Monitor.ShutdownEvent
import AiriesUps.Ups.TransportSafety

set_option autoImplicit false

namespace AiriesUps.Monitor

open Ups Alternation

-- The pairs of events the slow loop reports a change and its end with.
inductive Channel where
  | connection
  | heMode
  | selfTest
deriving DecidableEq, Repr

def Channel.openings : Channel → List String
  | .connection => ["UPS Disconnected"]
  | .heMode => ["HE Mode Entered"]
  | .selfTest => ["Self-Test Started"]

def Channel.closings : Channel → List String
  | .connection => ["UPS Reconnected"]
  | .heMode => ["HE Mode Exited"]
  | .selfTest => ["Self-Test Passed", "Self-Test Failed", "Self-Test Refused", "Self-Test Aborted", "Self-Test Ended"]

def Channel.edge (channel : Channel) (event : MonitorEvent) : Option Edge :=
  if event.title ∈ channel.openings then some .rise else if event.title ∈ channel.closings then some .fall else none

def Channel.log (channel : Channel) (events : List MonitorEvent) : List Edge := events.filterMap channel.edge

-- disconnected_at is set from the event on until the reconnection is reported.
def SlowLoop.down (loop : SlowLoop) : Bool := !loop.wasConnected && decide (loop.disconnectedAt > 0)

def Channel.flag (loop : SlowLoop) : Channel → Bool
  | .connection => loop.down
  | .heMode => has loop.prevStatus stHeMode
  | .selfTest => has loop.prevStatus stTest

-- time(NULL) is past the epoch where a loss is recorded.
def ClockRuns (_ : MonitorState) (label : MonitorLabel) : Prop :=
  match label with
  | .poll poll _ => poll.reading = none → 0 < poll.now
  | _ => True

instance (state : MonitorState) (label : MonitorLabel) : Decidable (ClockRuns state label) :=
  match label with
  | .poll poll _ => inferInstanceAs (Decidable (poll.reading = none → 0 < poll.now))
  | .initial _ | .tick _ | .inhibitSet _ | .inhibitClear => isTrue trivial

@[simp] theorem channel_log_append (channel : Channel) (before after : List MonitorEvent) :
    channel.log (before ++ after) = channel.log before ++ channel.log after := List.filterMap_append

theorem channel_log_emit (channel : Channel) (condition : Bool) (event : MonitorEvent) :
    channel.log (emitWhen condition event) = if condition then (channel.edge event).toList else [] := by
  cases condition with
  | true => cases about : channel.edge event <;> simp [Channel.log, emitWhen, about]
  | false => rfl

theorem channel_log_silent (channel : Channel) (events : List MonitorEvent) (titles : List String)
    (listed : ∀ event ∈ events, event.title ∈ titles)
    (other : ∀ title ∈ titles, title ∉ channel.openings ∧ title ∉ channel.closings) : channel.log events = [] := by
  refine List.filterMap_eq_nil_iff.mpr fun event member => ?_
  obtain ⟨notOpening, notClosing⟩ := other event.title (listed event member)
  rw [Channel.edge, if_neg notOpening, if_neg notClosing]

theorem channel_log_fast (channel : Channel) (loop : FastLoop) (tick : Tick) :
    channel.log (fastLoopTick loop tick).events = [] :=
  channel_log_silent channel _ fastTitles (fast_loop_tick_titles loop tick) (by cases channel <;> decide)

theorem channel_log_initial (channel : Channel) (loop : SlowLoop) (reading : Option UpsData) :
    channel.log (initialRead loop reading).2 = [] := by
  refine channel_log_silent channel _ ["Monitor Started"] ?_ (by cases channel <;> decide)
  intro event member
  cases reading with
  | none => cases member
  | some data => simp [List.mem_singleton.mp member]

theorem channel_log_he_clear (channel : Channel) (inhibit : HeInhibit) (heMode : Bool) (data : UpsData)
    (cause : BitVec 16) : channel.log (heAutoClear inhibit heMode data cause).2 = [] := by
  refine channel_log_silent channel _ ["HE Mode Restored"] ?_ (by cases channel <;> decide)
  intro event member
  rw [he_auto_clear_title _ _ _ _ event member]
  exact List.mem_singleton_self _

theorem channel_log_reconnect (channel : Channel) (other : channel ≠ .connection) (loop : SlowLoop) (now : Int) :
    channel.log (reconnect loop now).2 = [] := by
  refine channel_log_silent channel _ ["UPS Reconnected"] ?_ (by cases channel <;> simp_all [Channel.openings, Channel.closings])
  intro event member
  rw [reconnect_title _ _ event member]
  exact List.mem_singleton_self _

theorem outcome_edge (channel : Channel) (raw cause : BitVec 16) :
    channel.edge (selfTestEvent raw cause) = if channel = .selfTest then some .fall else none := by
  rw [Channel.edge, selfTestEvent, fire_event_with_reason_title]
  unfold selfTestTitle
  split <;> cases channel <;> decide

theorem state_change_log (channel : Channel) (prevStatus : Word) (data : UpsData) (cause : BitVec 16) :
    channel.log (stateChange prevStatus data cause) =
      match channel with
      | .connection => []
      | .heMode => edges (has prevStatus stHeMode) (has data.status stHeMode)
      | .selfTest => edges (has prevStatus stTest) (has data.status stTest) := by
  simp only [stateChange, channel_log_append, channel_log_emit, outcome_edge]
  rw [stHeMode, stTest, has_rising _ _ 13 (by decide), has_falling _ _ 13 (by decide), has_rising _ _ 7 (by decide),
    has_falling _ _ 7 (by decide)]
  cases channel with
  | connection => simp [Channel.edge, Channel.openings, Channel.closings]
  | heMode =>
    simp only [Channel.edge, Channel.openings, Channel.closings, fire_event_with_reason_title]
    cases has prevStatus (bit 13) <;> cases has data.status (bit 13) <;> simp [edges]
  | selfTest =>
    simp only [Channel.edge, Channel.openings, Channel.closings, fire_event_with_reason_title]
    cases has prevStatus (bit 7) <;> cases has data.status (bit 7) <;> simp [edges]

theorem read_failed_alternates (channel : Channel) (loop : SlowLoop) (poll : Poll) (clock : 0 < poll.now) :
    Alternates (channel.flag loop) (channel.log (readFailed loop poll).2) (channel.flag (readFailed loop poll).1) := by
  rw [readFailed]
  split
  case isTrue lost =>
    obtain ⟨_, connected⟩ := Bool.and_eq_true_iff.mp lost
    cases channel with
    | connection => simp [Channel.flag, SlowLoop.down, Channel.log, Channel.edge, Channel.openings, connected, clock, Alternates]
    | heMode => simp [Channel.flag, Channel.log, Channel.edge, Channel.openings, Channel.closings, Alternates]
    | selfTest => simp [Channel.flag, Channel.log, Channel.edge, Channel.openings, Channel.closings, Alternates]
  case isFalse => cases channel <;> exact alternates_nil _

theorem reconnect_alternates (loop : SlowLoop) (now : Int) :
    Alternates loop.down (Channel.log .connection (reconnect loop now).2) (reconnect loop now).1.down := by
  rw [reconnect, SlowLoop.down]
  split
  case isTrue restored =>
    rw [restored]
    simp [SlowLoop.down, Channel.log, Channel.edge, Channel.openings, Channel.closings, Alternates]
  case isFalse =>
    rw [Bool.not_eq_true] at *
    simp_all [SlowLoop.down, Channel.log, Alternates]

theorem update_snapshot_flag (channel : Channel) (loop : SlowLoop) (data : UpsData) (saves : Bool) :
    channel.flag (updateSnapshot loop data saves) = channel.flag loop := by
  rw [updateSnapshot]
  split <;> cases channel <;> rfl

theorem poll_alternates (channel : Channel) (loop : SlowLoop) (poll : Poll) (cause : BitVec 16)
    (clock : poll.reading = none → 0 < poll.now) :
    Alternates (channel.flag loop) (channel.log (slowPoll loop poll cause).2)
      (channel.flag (slowPoll loop poll cause).1) := by
  rw [slowPoll]
  cases read : poll.reading with
  | none => exact read_failed_alternates channel loop poll (clock read)
  | some data =>
    simp only [channel_log_append, channel_log_he_clear, List.append_nil, update_snapshot_flag, state_change_log]
    cases channel with
    | connection =>
      simp only [List.append_nil]
      exact reconnect_alternates { loop with data := data, hasData := true, connected := true } poll.now
    | heMode =>
      rw [channel_log_reconnect .heMode (by decide), List.nil_append]
      exact alternates_edges _ _
    | selfTest =>
      rw [channel_log_reconnect .selfTest (by decide), List.nil_append]
      exact alternates_edges _ _

-- The events so far bring every pair from where the boot has it to where it is now.
structure PairsKept (first : SlowLoop) (past : List MonitorLabel) (state : MonitorState) : Prop where
  fresh : state.started = false → state.slow.wasConnected = false ∧ state.slow.disconnectedAt = 0
  alternates : ∀ channel : Channel, Alternates (channel.flag first) (channel.log state.events) (channel.flag state.slow)
  status : state.slow.prevStatus = previousStatus first.snapshot past

theorem paired_step (first : SlowLoop) (past : List MonitorLabel) (state next : MonitorState) (label : MonitorLabel)
    (paired : PairsKept first past state) (clock : ClockRuns state label) (taken : state.step label = some next) :
    PairsKept first (past ++ [label]) next := by
  have status : next.slow.prevStatus = previousStatus first.snapshot (past ++ [label]) := by
    rw [previous_status_concat, ← paired.status]
    exact (shutdown_step state next label taken).1
  cases label with
  | initial reading =>
    obtain ⟨notStarted, rfl⟩ := monitor_initial state next reading taken
    obtain ⟨unconnected, never⟩ := paired.fresh notStarted
    refine ⟨fun fresh => by simp at fresh, fun channel => ?_, status⟩
    rw [channel_log_append, channel_log_initial, List.append_nil]
    have same : channel.flag (initialRead state.slow reading).1 = channel.flag state.slow := by
      cases reading <;> cases channel <;> simp [initialRead, Channel.flag, SlowLoop.down, never]
    rw [same]
    exact paired.alternates channel
  | poll poll nowMs =>
    obtain ⟨started, rfl⟩ := monitor_poll state next poll nowMs taken
    refine ⟨fun fresh => absurd (started.symm.trans fresh) (by decide), fun channel => ?_, status⟩
    rw [channel_log_append]
    exact alternates_append _ _ _ _ _ (paired.alternates channel) (poll_alternates channel state.slow poll _ clock)
  | tick tick =>
    obtain ⟨loop, _, rfl⟩ := monitor_tick state next tick taken
    refine ⟨paired.fresh, fun channel => ?_, status⟩
    rw [channel_log_append, channel_log_fast, List.append_nil]
    exact paired.alternates channel
  | inhibitSet source =>
    cases taken
    exact ⟨paired.fresh, fun channel => by cases channel <;> exact paired.alternates _, status⟩
  | inhibitClear =>
    cases taken
    exact ⟨paired.fresh, fun channel => by cases channel <;> exact paired.alternates _, status⟩

-- 'UPS Disconnected' comes of a poll whose reads failed and that found the transport down.
theorem disconnected_by_poll (state next : MonitorState) (label : MonitorLabel) (taken : state.step label = some next)
    (event : MonitorEvent) (member : event ∈ next.events.drop state.events.length)
    (title : event.title = "UPS Disconnected") :
    ∃ poll nowMs, label = .poll poll nowMs ∧ poll.reading = none ∧ poll.transportUp = false := by
  cases label with
  | poll poll nowMs =>
    refine ⟨poll, nowMs, rfl, ?_⟩
    obtain ⟨_, rfl⟩ := monitor_poll state next poll nowMs taken
    rw [List.drop_left, slowPoll] at member
    cases read : poll.reading with
    | none =>
      simp only [read, readFailed] at member
      split at member
      case isTrue lost => exact ⟨rfl, by simpa using (Bool.and_eq_true_iff.mp lost).1⟩
      · cases member
    | some data =>
      simp only [read, List.mem_append] at member
      rcases member with (reconnected | cleared) | changed
      · rw [reconnect_title _ _ event reconnected] at title
        exact absurd title (by decide)
      · rw [he_auto_clear_title _ _ _ _ event cleared] at title
        exact absurd title (by decide)
      · have silent := List.filterMap_eq_nil_iff.mp (state_change_log .connection state.slow.prevStatus data _) event changed
        simp [Channel.edge, Channel.openings, title] at silent
  | initial reading =>
    obtain ⟨_, rfl⟩ := monitor_initial state next reading taken
    rw [List.drop_left] at member
    cases reading with
    | none => cases member
    | some data =>
      rw [List.mem_singleton.mp member] at title
      exact absurd title (by simp)
  | tick tick =>
    obtain ⟨loop, _, rfl⟩ := monitor_tick state next tick taken
    rw [List.drop_left] at member
    have fast := fast_loop_tick_titles loop tick event member
    rw [title] at fast
    exact absurd fast (by decide)
  | inhibitSet source =>
    cases taken
    simp at member
  | inhibitClear =>
    cases taken
    simp at member

theorem monitor_events_pair (row : Option Snapshot) (loads fastRuns : Bool) (labels : List MonitorLabel)
    (final : MonitorState) (reached : Runs.run MonitorState.step (.boot row loads fastRuns) labels = some final)
    (clock : Runs.Admitted MonitorState.step ClockRuns (.boot row loads fastRuns) labels) :
    PairsKept (.boot row loads) labels final := by
  have booted : PairsKept (.boot row loads) [] (.boot row loads fastRuns) :=
    ⟨fun _ => ⟨rfl, rfl⟩, fun channel => alternates_nil _, rfl⟩
  apply Runs.history_invariant MonitorState.step ClockRuns _ (PairsKept (.boot row loads)) booted _ labels final reached clock
  intro past state label next inv allowed taken
  exact paired_step _ past state next label inv allowed taken

-- The monitor beside the handle, whose transport every thread's calls tear down and
-- restore. transportUp is the local of the poll loop between ups_is_connected, which
-- takes no lock, and the event.
structure LinkedMonitor where
  monitor : MonitorState
  ups : Registry
  transportUp : Option Bool

inductive LinkedLabel where
  | monitor (label : MonitorLabel)
  | look
  | ups (label : UpsLabel)
deriving DecidableEq, Repr

def LinkedLabel.own : LinkedLabel → Option MonitorLabel
  | .monitor label => some label
  | _ => none

def LinkedMonitor.boot (ups : Registry) (row : Option Snapshot) (loads fastRuns : Bool) : LinkedMonitor :=
  { monitor := .boot row loads fastRuns, ups := ups, transportUp := none }

-- What the local is when the slow thread takes the step: set in a failed poll.
def MonitorLabel.looked (transportUp : Option Bool) : MonitorLabel → Prop
  | .poll polled _ => transportUp = if polled.reading.isNone then some polled.transportUp else none
  | .initial _ => transportUp = none
  | _ => True

instance (transportUp : Option Bool) (label : MonitorLabel) : Decidable (label.looked transportUp) :=
  match label with
  | .poll polled _ =>
    inferInstanceAs (Decidable (transportUp = if polled.reading.isNone then some polled.transportUp else none))
  | .initial _ => inferInstanceAs (Decidable (transportUp = none))
  | .tick _ | .inhibitSet _ | .inhibitClear => isTrue trivial

def MonitorLabel.leaves (transportUp : Option Bool) : MonitorLabel → Option Bool
  | .poll _ _ => none
  | _ => transportUp

def LinkedMonitor.step (driver : Driver) : Runs.Step LinkedMonitor LinkedLabel
  | state, .monitor label =>
    if label.looked state.transportUp then
      (state.monitor.step label).map fun monitor =>
        { state with monitor := monitor, transportUp := label.leaves state.transportUp }
    else none
  | state, .look =>
    if state.monitor.started ∧ state.transportUp = none then
      some { state with transportUp := some state.ups.transport.isSome }
    else none
  | state, .ups label => (state.ups.step driver label).map fun ups => { state with ups := ups }

def LinkedClock (state : LinkedMonitor) : LinkedLabel → Prop
  | .monitor label => ClockRuns state.monitor label
  | _ => True

instance (state : LinkedMonitor) (label : LinkedLabel) : Decidable (LinkedClock state label) :=
  match label with
  | .monitor label => inferInstanceAs (Decidable (ClockRuns state.monitor label))
  | .look | .ups _ => isTrue trivial

-- No thread brings the transport back while a poll that has found it down has not
-- reported this.
def NotRestored (driver : Driver) (state : LinkedMonitor) : LinkedLabel → Prop
  | .ups label => state.transportUp = some false → ((state.ups.step driver label).bind Registry.transport) = none
  | _ => True

def Disconnects (state next : LinkedMonitor) : Prop :=
  ∃ event ∈ next.monitor.events.drop state.monitor.events.length, event.title = "UPS Disconnected"

-- The poll that emits the event has looked and found the transport down.
def FoundDown (driver : Driver) (start : LinkedMonitor) (past : List LinkedLabel) (state : LinkedMonitor)
    (_ : LinkedLabel) (next : LinkedMonitor) : Prop :=
  Disconnects state next → ∃ before since, past = before ++ .look :: since ∧ .look ∉ since ∧
    ∀ looked, Runs.run (LinkedMonitor.step driver) start before = some looked → looked.ups.transport = none

def WhileDown (_ : List LinkedLabel) (state : LinkedMonitor) (_ : LinkedLabel) (next : LinkedMonitor) : Prop :=
  Disconnects state next → state.ups.transport = none

theorem linked_monitor (driver : Driver) (state next : LinkedMonitor) (label : MonitorLabel)
    (taken : state.step driver (.monitor label) = some next) :
    label.looked state.transportUp ∧ state.monitor.step label = some next.monitor ∧ next.ups = state.ups ∧
      next.transportUp = label.leaves state.transportUp := by
  simp only [LinkedMonitor.step] at taken
  split at taken
  case isTrue looked =>
    obtain ⟨monitor, moved, rfl⟩ := Option.map_eq_some_iff.mp taken
    exact ⟨looked, moved, rfl, rfl⟩
  case isFalse => cases taken

theorem linked_look (driver : Driver) (state next : LinkedMonitor) (taken : state.step driver .look = some next) :
    next = { state with transportUp := some state.ups.transport.isSome } := by
  simp only [LinkedMonitor.step] at taken
  split at taken
  · exact (Option.some.inj taken).symm
  · cases taken

theorem linked_ups (driver : Driver) (state next : LinkedMonitor) (label : UpsLabel)
    (taken : state.step driver (.ups label) = some next) :
    state.ups.step driver label = some next.ups ∧ next.monitor = state.monitor ∧ next.transportUp = state.transportUp := by
  obtain ⟨ups, moved, rfl⟩ := Option.map_eq_some_iff.mp taken
  exact ⟨moved, rfl, rfl⟩

theorem linked_follows (driver : Driver) (state : LinkedMonitor) (label : LinkedLabel) (next : LinkedMonitor)
    (act : MonitorLabel) (own : label.own = some act) (taken : state.step driver label = some next) :
    state.monitor.step act = some next.monitor := by
  cases label with
  | monitor label =>
    cases own
    exact (linked_monitor driver state next act taken).2.1
  | look => cases own
  | ups label => cases own

theorem linked_stays (driver : Driver) (state : LinkedMonitor) (label : LinkedLabel) (next : LinkedMonitor)
    (own : label.own = none) (taken : state.step driver label = some next) : next.monitor = state.monitor := by
  cases label with
  | monitor label => cases own
  | look => rw [linked_look driver state next taken]
  | ups label => exact (linked_ups driver state next label taken).2.1

theorem disconnects_looked (driver : Driver) (state next : LinkedMonitor) (label : LinkedLabel)
    (taken : state.step driver label = some next) (disconnects : Disconnects state next) :
    state.transportUp = some false := by
  obtain ⟨event, member, title⟩ := disconnects
  cases own : label.own with
  | none =>
    rw [linked_stays driver state label next own taken, List.drop_length] at member
    cases member
  | some act =>
    cases label with
    | monitor label =>
      obtain ⟨looked, moved, _⟩ := linked_monitor driver state next label taken
      obtain ⟨poll, nowMs, rfl, failed, down⟩ := disconnected_by_poll state.monitor next.monitor label moved event member title
      simpa [MonitorLabel.looked, failed, down] using looked
    | look => cases own
    | ups label => cases own

-- The look the local comes from.
def LookedDown (driver : Driver) (start : LinkedMonitor) (past : List LinkedLabel) (state : LinkedMonitor) : Prop :=
  state.transportUp = some false → ∃ before since, past = before ++ .look :: since ∧ .look ∉ since ∧
    ∀ looked, Runs.run (LinkedMonitor.step driver) start before = some looked → looked.ups.transport = none

theorem leaves_down (label : MonitorLabel) (transportUp : Option Bool) (down : label.leaves transportUp = some false) :
    transportUp = some false := by
  cases label <;> first | exact down | cases down

theorem looked_down_concat (driver : Driver) (start : LinkedMonitor) (past : List LinkedLabel) (state : LinkedMonitor)
    (label : LinkedLabel) (other : label ≠ .look) (looked : LookedDown driver start past state)
    (down : state.transportUp = some false) :
    ∃ before since, past ++ [label] = before ++ .look :: since ∧ .look ∉ since ∧
      ∀ looked, Runs.run (LinkedMonitor.step driver) start before = some looked → looked.ups.transport = none := by
  obtain ⟨before, since, split, none, found⟩ := looked down
  refine ⟨before, since ++ [label], ?_, ?_, found⟩
  · rw [split, List.append_assoc, List.cons_append]
  · simpa [none] using Ne.symm other

theorem looked_down_step (driver : Driver) (start : LinkedMonitor) (past : List LinkedLabel) (state : LinkedMonitor)
    (label : LinkedLabel) (next : LinkedMonitor) (reached : Runs.run (LinkedMonitor.step driver) start past = some state)
    (looked : LookedDown driver start past state) (taken : state.step driver label = some next) :
    LookedDown driver start (past ++ [label]) next := by
  intro down
  cases label with
  | monitor label =>
    rw [(linked_monitor driver state next label taken).2.2.2] at down
    exact looked_down_concat driver start past state _ (by simp) looked (leaves_down label _ down)
  | ups label =>
    rw [(linked_ups driver state next label taken).2.2] at down
    exact looked_down_concat driver start past state _ (by simp) looked down
  | look =>
    rw [linked_look driver state next taken] at down
    refine ⟨past, [], rfl, List.not_mem_nil, ?_⟩
    intro then_ same
    rw [reached] at same
    cases same
    simpa using down

theorem found_down (driver : Driver) (start : LinkedMonitor) (fresh : start.transportUp = none)
    (labels : List LinkedLabel) : Runs.EachStep (LinkedMonitor.step driver) start labels (FoundDown driver start) := by
  intro earlier label later before after _ reached taken disconnects
  have looked := Runs.run_invariant (LinkedMonitor.step driver) start
    (fun past state => Runs.run (LinkedMonitor.step driver) start past = some state ∧ LookedDown driver start past state)
    ⟨rfl, by simp [LookedDown, fresh]⟩
    (fun past state label next inv taken =>
      ⟨(Runs.run_concat _ start next past label).mpr ⟨state, inv.1, taken⟩,
        looked_down_step driver start past state label next inv.1 inv.2 taken⟩)
    earlier before reached
  exact looked.2 (disconnects_looked driver before after label taken disconnects)

theorem still_down_step (driver : Driver) (state : LinkedMonitor) (label : LinkedLabel) (next : LinkedMonitor)
    (still : state.transportUp = some false → state.ups.transport = none) (kept : NotRestored driver state label)
    (taken : state.step driver label = some next) : next.transportUp = some false → next.ups.transport = none := by
  intro down
  cases label with
  | monitor label =>
    obtain ⟨_, _, same, left⟩ := linked_monitor driver state next label taken
    rw [left] at down
    rw [same]
    exact still (leaves_down label _ down)
  | look =>
    rw [linked_look driver state next taken] at down ⊢
    simpa using down
  | ups label =>
    obtain ⟨moved, _, same⟩ := linked_ups driver state next label taken
    rw [same] at down
    simpa [moved] using kept down

theorem disconnected_while_down (driver : Driver) (start : LinkedMonitor) (fresh : start.transportUp = none)
    (labels : List LinkedLabel) (kept : Runs.Admitted (LinkedMonitor.step driver) (NotRestored driver) start labels) :
    Runs.EachStep (LinkedMonitor.step driver) start labels WhileDown := by
  intro earlier label later before after split reached taken disconnects
  rw [split] at kept
  have admitted := ((Runs.admitted_append _ _ start earlier (label :: later)).mp kept).1
  have still := Runs.guarded_invariant (LinkedMonitor.step driver) (NotRestored driver) start
    (fun state => state.transportUp = some false → state.ups.transport = none) (by simp [fresh])
    (fun state label next inv allowed taken => still_down_step driver state label next inv allowed taken)
    earlier before reached admitted
  exact still (disconnects_looked driver before after label taken disconnects)

-- Of any run from any stored snapshot and any state of the handle, every other thread
-- at any place in it.
theorem slow_loop_events_pair (driver : Driver) (ups : Registry) (row : Option Snapshot) (loads fastRuns : Bool)
    (labels : List LinkedLabel) (final : LinkedMonitor)
    (reached : Runs.run (LinkedMonitor.step driver) (.boot ups row loads fastRuns) labels = some final)
    (clock : Runs.Admitted (LinkedMonitor.step driver) LinkedClock (.boot ups row loads fastRuns) labels) :
    Paired (Channel.log .connection final.monitor.events) final.monitor.slow.down ∧
      Runs.EachStep (LinkedMonitor.step driver) (.boot ups row loads fastRuns) labels
        (FoundDown driver (.boot ups row loads fastRuns)) ∧
      (Runs.Admitted (LinkedMonitor.step driver) (NotRestored driver) (.boot ups row loads fastRuns) labels →
        Runs.EachStep (LinkedMonitor.step driver) (.boot ups row loads fastRuns) labels WhileDown) ∧
      Alternates (has (Snapshot.load (if loads then row else none)).status stHeMode)
        (Channel.log .heMode final.monitor.events)
        (has (previousStatus (Snapshot.load (if loads then row else none)) (labels.filterMap LinkedLabel.own)) stHeMode) ∧
      ∀ earlier between later,
        Channel.log .selfTest final.monitor.events = earlier ++ .rise :: (between ++ .rise :: later) → .rise ∉ between →
          between = [.fall] := by
  have projected := Runs.run_project (LinkedMonitor.step driver) MonitorState.step LinkedMonitor.monitor LinkedLabel.own
    (linked_follows driver) (linked_stays driver) labels _ final reached
  have timed := Runs.admitted_project (LinkedMonitor.step driver) MonitorState.step LinkedMonitor.monitor LinkedLabel.own
    LinkedClock ClockRuns (linked_follows driver) (linked_stays driver)
    (fun state label act own allowed => by cases label <;> cases own; exact allowed) labels _ final reached clock
  have paired := monitor_events_pair row loads fastRuns _ final.monitor projected timed
  refine ⟨paired_of_alternates _ _ (paired.alternates .connection), found_down driver _ rfl labels,
    disconnected_while_down driver _ rfl labels, ?_, ?_⟩
  · have mode := paired.alternates .heMode
    rw [Channel.flag, Channel.flag, paired.status] at mode
    exact mode
  · intro earlier between later split none
    have alternating := alternating_of_alternates _ _ _ (paired.alternates .selfTest)
    rw [split] at alternating
    exact one_fall_between earlier between later alternating none

-- A self-test runs when the transport is torn down by the fifth failed read, and has
-- ended when a reading comes again. The last poll that fails finds the transport down;
-- in lossAndRestore an API call reconnects between this and the event.
def tornDown : List LinkedLabel :=
  (Ups.failedRead ++ Ups.failedRead ++ Ups.failedRead ++ Ups.failedRead ++ Ups.failedRead ++
    [UpsLabel.advance true 100, UpsLabel.advance true 100]).map LinkedLabel.ups

def apiReconnect : List LinkedLabel :=
  .ups (.call 1 .readDynamic) :: List.replicate 9 (.ups (.advance true 103))

def outageInTest : List LinkedLabel :=
  [.monitor (.initial none),
    .monitor (.poll { reading := some { UpsData.zero with status := stOnline ||| stTest }
                      transportUp := true, now := 100, heMode := false, saves := true } 0)] ++ tornDown ++
    [.look,
      .monitor (.poll { reading := none, transportUp := false, now := 105, heMode := false, saves := true } 0)] ++
    apiReconnect ++
    [.monitor (.poll { reading := some { UpsData.zero with status := stOnline }
                       transportUp := true, now := 110, heMode := false, saves := true } 0)]

def monitorBoot : LinkedMonitor := .boot Ups.hidHandle none true false

theorem outage_in_test_pairs :
    Paired (Channel.log .connection (Runs.final (LinkedMonitor.step Ups.hidDriver) monitorBoot outageInTest).monitor.events)
        (Runs.final (LinkedMonitor.step Ups.hidDriver) monitorBoot outageInTest).monitor.slow.down ∧
      Runs.EachStep (LinkedMonitor.step Ups.hidDriver) monitorBoot outageInTest (FoundDown Ups.hidDriver monitorBoot) ∧
      (Runs.Admitted (LinkedMonitor.step Ups.hidDriver) (NotRestored Ups.hidDriver) monitorBoot outageInTest →
        Runs.EachStep (LinkedMonitor.step Ups.hidDriver) monitorBoot outageInTest WhileDown) ∧
      Alternates (has (Snapshot.load (if true then none else none)).status stHeMode)
        (Channel.log .heMode (Runs.final (LinkedMonitor.step Ups.hidDriver) monitorBoot outageInTest).monitor.events)
        (has (previousStatus (Snapshot.load (if true then none else none)) (outageInTest.filterMap LinkedLabel.own))
          stHeMode) ∧
      ∀ earlier between later,
        Channel.log .selfTest (Runs.final (LinkedMonitor.step Ups.hidDriver) monitorBoot outageInTest).monitor.events =
          earlier ++ .rise :: (between ++ .rise :: later) → .rise ∉ between → between = [.fall] :=
  slow_loop_events_pair Ups.hidDriver Ups.hidHandle none true false outageInTest _
    (Runs.run_final _ _ _ (by decide +kernel)) (by decide +kernel)

def lossAndRestore : List LinkedLabel :=
  [.monitor (.initial (some UpsData.zero))] ++ tornDown ++ [.look] ++ apiReconnect

def reportedLoss : LinkedLabel :=
  .monitor (.poll { reading := none, transportUp := false, now := 105, heMode := false, saves := true } 0)

-- At the epoch a second loss follows the first without a reconnection between them.
def lossesAtEpoch : List LinkedLabel :=
  [.monitor (.initial (some UpsData.zero))] ++ tornDown ++
    [.look, .monitor (.poll { reading := none, transportUp := false, now := 0, heMode := false, saves := true } 0),
      .monitor (.poll { reading := some UpsData.zero, transportUp := true, now := 0, heMode := false, saves := true } 0),
      .look, .monitor (.poll { reading := none, transportUp := false, now := 0, heMode := false, saves := true } 0)]

theorem disconnected_event_after_restore :
    (¬Runs.EachStep (LinkedMonitor.step Ups.hidDriver) monitorBoot (lossAndRestore ++ [reportedLoss]) WhileDown) ∧
      ¬Paired (Channel.log .connection (Runs.final (LinkedMonitor.step Ups.hidDriver) monitorBoot lossesAtEpoch).monitor.events)
        (Runs.final (LinkedMonitor.step Ups.hidDriver) monitorBoot lossesAtEpoch).monitor.slow.down := by
  constructor
  · intro each
    have down := Runs.each_step_final _ _ _ _ each lossAndRestore reportedLoss [] rfl (by decide +kernel)
    have restored : (Runs.final (LinkedMonitor.step Ups.hidDriver) monitorBoot lossAndRestore).ups.transport ≠ none := by
      decide +kernel
    apply restored
    apply down
    have reported : ((Runs.final (LinkedMonitor.step Ups.hidDriver) monitorBoot (lossAndRestore ++ [reportedLoss])).monitor.events.drop
        (Runs.final (LinkedMonitor.step Ups.hidDriver) monitorBoot lossAndRestore).monitor.events.length).any
        (fun event => event.title == "UPS Disconnected") = true := by decide +kernel
    obtain ⟨event, member, title⟩ := List.any_eq_true.mp reported
    exact ⟨event, member, beq_iff_eq.mp title⟩
  · intro paired
    have twice : Channel.log .connection
        (Runs.final (LinkedMonitor.step Ups.hidDriver) monitorBoot lossesAtEpoch).monitor.events = [.rise, .rise] := by
      decide +kernel
    have alternating := paired.alternating
    rw [twice] at alternating
    exact absurd alternating (by decide)

end AiriesUps.Monitor
