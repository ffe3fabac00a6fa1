import AiriesUps.Lib.Runs
import AiriesUps.Lib.Sequences
import AiriesUps.Monitor.FastLoop
import AiriesUps.Monitor.SlowLoop

set_option autoImplicit false

namespace AiriesUps.Monitor

open Ups

-- The monitor with its two loops. fast is none where the driver has no
-- read_transfer_reason. started tells that the slow thread has made its initial read.
structure MonitorState where
  slow : SlowLoop
  started : Bool
  fast : Option FastLoop
  events : List MonitorEvent
  history : List XferHistory
deriving DecidableEq, Repr

def MonitorState.initial (stored : Option Snapshot) (fastRuns : Bool) : MonitorState :=
  { slow := .create stored, started := false, fast := if fastRuns then some .start else none, events := [], history := [] }

inductive MonitorLabel where
  | initial (reading : Option UpsData)
  | poll (poll : Poll) (nowMs : Nat)
  | tick (tick : Tick)
  | inhibitSet (source : String)
  | inhibitClear
deriving DecidableEq, Repr

def xferLookbackMs : Nat := 5000

def recentCause (fast : Option FastLoop) (nowMs : Nat) : BitVec 16 :=
  match fast with
  | none => transferReasonUnknown
  | some loop => loop.ring.recentCause nowMs xferLookbackMs

def MonitorState.step : Runs.Step MonitorState MonitorLabel
  | state, .initial reading =>
    if state.started then none
    else
      let read := initialRead state.slow reading
      some { state with slow := read.1, started := true, events := state.events ++ read.2 }
  | state, .poll poll nowMs =>
    if state.started then
      let polled := slowPoll state.slow poll (recentCause state.fast nowMs)
      some { state with slow := polled.1, events := state.events ++ polled.2 }
    else none
  | state, .tick tick =>
    match state.fast with
    | none => none
    | some loop =>
      let ticked := fastLoopTick loop tick
      some { state with fast := some ticked.loop, events := state.events ++ ticked.events
                        history := state.history ++ ticked.history }
  | state, .inhibitSet source => some { state with slow := { state.slow with inhibit := state.slow.inhibit.set source } }
  | state, .inhibitClear => some { state with slow := { state.slow with inhibit := .clear } }

theorem monitor_initial (state next : MonitorState) (reading : Option UpsData)
    (taken : state.step (.initial reading) = some next) :
    state.started = false ∧
      next = { state with slow := (initialRead state.slow reading).1, started := true
                          events := state.events ++ (initialRead state.slow reading).2 } := by
  by_cases started : state.started = true
  · rw [MonitorState.step, if_pos started] at taken
    cases taken
  · rw [MonitorState.step, if_neg started, Option.some.injEq] at taken
    exact ⟨Bool.eq_false_iff.mpr started, taken.symm⟩

theorem monitor_poll (state next : MonitorState) (poll : Poll) (nowMs : Nat)
    (taken : state.step (.poll poll nowMs) = some next) :
    state.started = true ∧
      next = { state with slow := (slowPoll state.slow poll (recentCause state.fast nowMs)).1
                          events := state.events ++ (slowPoll state.slow poll (recentCause state.fast nowMs)).2 } := by
  by_cases started : state.started = true
  · rw [MonitorState.step, if_pos started, Option.some.injEq] at taken
    exact ⟨started, taken.symm⟩
  · rw [MonitorState.step, if_neg started] at taken
    cases taken

theorem monitor_tick (state next : MonitorState) (tick : Tick) (taken : state.step (.tick tick) = some next) :
    ∃ loop, state.fast = some loop ∧
      next = { state with fast := some (fastLoopTick loop tick).loop
                          events := state.events ++ (fastLoopTick loop tick).events
                          history := state.history ++ (fastLoopTick loop tick).history } := by
  cases running : state.fast with
  | none =>
    simp only [MonitorState.step, running] at taken
    cases taken
  | some loop =>
    simp only [MonitorState.step, running, Option.some.injEq] at taken
    exact ⟨loop, rfl, taken.symm⟩

inductive PowerBit where
  | onBattery
  | outputOff
  | bypass
  | overload
deriving DecidableEq, Repr

def PowerBit.mask : PowerBit → Word
  | .onBattery => stOnBattery
  | .outputOff => stOutputOff
  | .bypass => stBypass
  | .overload => stOverload

def PowerBit.entered : PowerBit → String
  | .onBattery => "On Battery"
  | .outputOff => "Output Off"
  | .bypass => "Bypass Entered"
  | .overload => "Overload"

def PowerBit.left : PowerBit → String
  | .onBattery => "Utility Restored"
  | .outputOff => "Output Restored"
  | .bypass => "Bypass Exited"
  | .overload => "Overload Cleared"

def PowerBit.about (bit : PowerBit) (title : String) : Bool := title == bit.entered || title == bit.left

def eventsAbout (bit : PowerBit) (events : List MonitorEvent) : List String :=
  (events.map MonitorEvent.title).filter bit.about

def changeEvents (bit : PowerBit) (change : Word × Word) : List String :=
  match has change.1 bit.mask, has change.2 bit.mask with
  | false, true => [bit.entered]
  | true, false => [bit.left]
  | _, _ => []

def responsibleStatus (fastRuns : Bool) : MonitorLabel → Option Word
  | .initial reading => if fastRuns then none else reading.map UpsData.status
  | .poll poll _ => if fastRuns then none else poll.reading.map UpsData.status
  | .tick tick => if fastRuns then tick.successful else none
  | _ => none

def responsibleStatuses (fastRuns : Bool) (labels : List MonitorLabel) : List Word :=
  labels.filterMap (responsibleStatus fastRuns)

-- Every change of a power bit, from the persisted snapshot on, has its one event.
def PowerEventsExact (stored : Option Snapshot) (fastRuns : Bool) (labels : List MonitorLabel)
    (events : List MonitorEvent) : Prop :=
  ∀ bit, eventsAbout bit events =
    (Sequences.pairs ((Snapshot.load stored).status :: responsibleStatuses fastRuns labels)).flatMap (changeEvents bit)

def SameBits (first second : Word) : Prop := ∀ bit : PowerBit, has first bit.mask = has second bit.mask

theorem change_events_nil (bit : PowerBit) (change : Word × Word) :
    changeEvents bit change = [] ↔ has change.1 bit.mask = has change.2 bit.mask := by
  rw [changeEvents]
  cases has change.1 bit.mask <;> cases has change.2 bit.mask <;> simp

@[simp] theorem events_about_append (bit : PowerBit) (before after : List MonitorEvent) :
    eventsAbout bit (before ++ after) = eventsAbout bit before ++ eventsAbout bit after := by
  simp only [eventsAbout, List.map_append, List.filter_append]

theorem events_about_emit (bit : PowerBit) (condition : Bool) (event : MonitorEvent) :
    eventsAbout bit (emitWhen condition event) = if condition && bit.about event.title then [event.title] else [] := by
  cases condition with
  | true =>
    cases about : bit.about event.title <;> simp [eventsAbout, emitWhen, about]
  | false => rfl

theorem events_about_slow (bit : PowerBit) (events : List MonitorEvent)
    (slow : ∀ event ∈ events, event.title ∈ slowTitles) : eventsAbout bit events = [] := by
  have silent : ∀ title ∈ slowTitles, bit.about title = false := by
    cases bit <;> decide
  rw [eventsAbout, List.filter_eq_nil_iff]
  intro title member
  obtain ⟨event, present, rfl⟩ := List.mem_map.mp member
  rw [silent event.title (slow event present)]
  exact Bool.false_ne_true

theorem has_set (previous current : Word) (index : Nat) (inside : index < 32)
    (owned : fastOwnedBits.getLsbD index = true) :
    has ((previous ^^^ current) &&& fastOwnedBits &&& current) (bit index) =
      (!has previous (bit index) && has current (bit index)) := by
  simp only [has_bit _ index inside, BitVec.getLsbD_and, BitVec.getLsbD_xor, owned]
  cases previous.getLsbD index <;> cases current.getLsbD index <;> rfl

theorem has_cleared (previous current : Word) (index : Nat) (inside : index < 32)
    (owned : fastOwnedBits.getLsbD index = true) :
    has ((previous ^^^ current) &&& fastOwnedBits &&& previous) (bit index) =
      (has previous (bit index) && !has current (bit index)) := by
  simp only [has_bit _ index inside, BitVec.getLsbD_and, BitVec.getLsbD_xor, owned]
  cases previous.getLsbD index <;> cases current.getLsbD index <;> rfl

def PowerBit.index : PowerBit → Nat
  | .onBattery => 2
  | .outputOff => 4
  | .bypass => 3
  | .overload => 21

theorem mask_index (powerBit : PowerBit) : powerBit.mask = bit powerBit.index := by
  cases powerBit <;> rfl

theorem index_owned (powerBit : PowerBit) : powerBit.index < 32 ∧ fastOwnedBits.getLsbD powerBit.index = true := by
  cases powerBit <;> decide

theorem change_events_words (powerBit : PowerBit) (previous current : Word) :
    changeEvents powerBit (previous, current) =
      (if has ((previous ^^^ current) &&& fastOwnedBits &&& current) powerBit.mask then [powerBit.entered] else []) ++
        if has ((previous ^^^ current) &&& fastOwnedBits &&& previous) powerBit.mask then [powerBit.left] else [] := by
  obtain ⟨inside, owned⟩ := index_owned powerBit
  rw [changeEvents, mask_index, has_set previous current _ inside owned, has_cleared previous current _ inside owned]
  cases has previous (bit powerBit.index) <;> cases has current (bit powerBit.index) <;> rfl

theorem emit_transitions_about (powerBit : PowerBit) (previous current : Word) (reason : BitVec 16)
    (battery : Option UpsData) :
    eventsAbout powerBit (emitTransitions previous current reason battery) = changeEvents powerBit (previous, current) := by
  rw [change_events_words, emitTransitions]
  by_cases same : (previous ^^^ current) &&& fastOwnedBits = 0
  · simp [same, has, eventsAbout]
  · simp only [if_neg same, events_about_append, events_about_emit, fire_event_with_reason_title]
    cases powerBit <;> simp [PowerBit.about, PowerBit.entered, PowerBit.left, PowerBit.mask] <;> rfl

-- A step either emits nothing about the power bits, or is a successful tick.
theorem step_cases (state next : MonitorState) (label : MonitorLabel) (taken : state.step label = some next) :
    (next.fast = state.fast ∧ responsibleStatus true label = none ∧
        ∀ powerBit, eventsAbout powerBit next.events = eventsAbout powerBit state.events) ∨
      ∃ loop after status, state.fast = some loop ∧ next.fast = some after ∧ responsibleStatus true label = some status ∧
        after.prevStatusFast = status ∧ after.firstTick = false ∧
        ∀ powerBit, eventsAbout powerBit next.events = eventsAbout powerBit state.events ++
          if loop.firstTick then [] else changeEvents powerBit (loop.prevStatusFast, status) := by
  cases label with
  | initial reading =>
    obtain ⟨_, rfl⟩ := monitor_initial state next reading taken
    refine Or.inl ⟨rfl, rfl, fun powerBit => ?_⟩
    rw [events_about_append, events_about_slow powerBit _ (initial_read_titles state.slow reading), List.append_nil]
  | poll poll nowMs =>
    obtain ⟨_, rfl⟩ := monitor_poll state next poll nowMs taken
    refine Or.inl ⟨rfl, rfl, fun powerBit => ?_⟩
    rw [events_about_append, events_about_slow powerBit _ (slow_poll_titles state.slow poll _), List.append_nil]
  | tick tick =>
    obtain ⟨loop, running, isNext⟩ := monitor_tick state next tick taken
    cases read : tick.successful with
    | none =>
      rw [fast_loop_tick_failed loop tick read] at isNext
      subst isNext
      exact Or.inl ⟨running.symm, read, fun powerBit => by rw [events_about_append]; exact List.append_nil _⟩
    | some status =>
      obtain ⟨reason, emitted, previous, later⟩ := fast_loop_tick_successful loop tick status read
      subst isNext
      refine Or.inr ⟨loop, _, status, running, rfl, read, previous, later, fun powerBit => ?_⟩
      rw [events_about_append, emitted]
      by_cases first : loop.firstTick = true
      · rw [if_pos first, if_pos first]
        rfl
      · rw [if_neg first, if_neg first, emit_transitions_about]
  | inhibitSet source =>
    cases taken
    exact Or.inl ⟨rfl, rfl, fun _ => rfl⟩
  | inhibitClear =>
    cases taken
    exact Or.inl ⟨rfl, rfl, fun _ => rfl⟩

theorem responsible_concat (fastRuns : Bool) (past : List MonitorLabel) (label : MonitorLabel) :
    responsibleStatuses fastRuns (past ++ [label]) =
      responsibleStatuses fastRuns past ++ (responsibleStatus fastRuns label).toList := by
  rw [responsibleStatuses, List.filterMap_append]
  cases found : responsibleStatus fastRuns label <;> simp [found, responsibleStatuses]

structure FastSound (past : List MonitorLabel) (state : MonitorState) : Prop where
  running : ∃ loop, state.fast = some loop ∧
    ((loop.firstTick = true ∧ responsibleStatuses true past = []) ∨
      (loop.firstTick = false ∧ ∃ before, responsibleStatuses true past = before ++ [loop.prevStatusFast]))
  reported : ∀ powerBit, eventsAbout powerBit state.events =
    (Sequences.pairs (responsibleStatuses true past)).flatMap (changeEvents powerBit)

theorem fast_sound_step (past : List MonitorLabel) (state next : MonitorState) (label : MonitorLabel)
    (sound : FastSound past state) (taken : state.step label = some next) : FastSound (past ++ [label]) next := by
  obtain ⟨loop, running, progress⟩ := sound.running
  rcases step_cases state next label taken with ⟨kept, silent, same⟩ | ⟨loop', after, status, found, now, read, previous, later, emitted⟩
  · have statuses : responsibleStatuses true (past ++ [label]) = responsibleStatuses true past := by
      rw [responsible_concat, silent]
      exact List.append_nil _
    refine ⟨⟨loop, kept.trans running, ?_⟩, ?_⟩
    · rwa [statuses]
    · intro powerBit
      rw [statuses, same powerBit, sound.reported powerBit]
  · obtain rfl : loop = loop' := Option.some.inj (running.symm.trans found)
    have statuses : responsibleStatuses true (past ++ [label]) = responsibleStatuses true past ++ [status] := by
      rw [responsible_concat, read]
      rfl
    refine ⟨⟨after, now, Or.inr ⟨later, responsibleStatuses true past, ?_⟩⟩, ?_⟩
    · rw [statuses, previous]
    · intro powerBit
      rw [statuses, emitted powerBit, sound.reported powerBit]
      rcases progress with ⟨first, none⟩ | ⟨notFirst, before, some⟩
      · rw [none, if_pos first]
        rfl
      · rw [some, notFirst, if_neg Bool.false_ne_true, Sequences.pairs_concat, List.flatMap_append]
        simp

theorem fast_sound (stored : Option Snapshot) (labels : List MonitorLabel) (final : MonitorState)
    (reached : Runs.run MonitorState.step (.initial stored true) labels = some final) : FastSound labels final :=
  Runs.run_invariant MonitorState.step _ FastSound
    ⟨⟨.start, rfl, Or.inl ⟨rfl, rfl⟩⟩, fun _ => rfl⟩
    (fun past state label next sound taken => fast_sound_step past state next label sound taken)
    labels final reached

theorem slow_loop_silent (stored : Option Snapshot) (labels : List MonitorLabel) (final : MonitorState)
    (reached : Runs.run MonitorState.step (.initial stored false) labels = some final) :
    ∀ powerBit, eventsAbout powerBit final.events = [] := by
  have inv := Runs.run_invariant MonitorState.step (.initial stored false)
    (fun _ state => state.fast = none ∧ ∀ powerBit, eventsAbout powerBit state.events = [])
    ⟨rfl, fun _ => rfl⟩
    (by
      rintro past state label next ⟨alone, silent⟩ taken
      rcases step_cases state next label taken with ⟨kept, _, same⟩ | ⟨loop, _, _, found, _⟩
      · exact ⟨kept.trans alone, fun powerBit => (same powerBit).trans (silent powerBit)⟩
      · rw [alone] at found
        cases found)
    labels final reached
  exact inv.2

-- When the monitor reports every change of the power bits exactly once: the fast
-- loop runs and its first status has the snapshot's bits, or there is no fast loop and
-- no status the slow loop reads has other bits than the snapshot.
def ChangesCovered (stored : Option Snapshot) (fastRuns : Bool) (labels : List MonitorLabel) : Prop :=
  if fastRuns then
    ∀ first, (responsibleStatuses true labels).head? = some first → SameBits (Snapshot.load stored).status first
  else ∀ status ∈ responsibleStatuses false labels, SameBits (Snapshot.load stored).status status

theorem power_events_exact_iff (stored : Option Snapshot) (fastRuns : Bool) (labels : List MonitorLabel) (final : MonitorState)
    (reached : Runs.run MonitorState.step (.initial stored fastRuns) labels = some final) :
    PowerEventsExact stored fastRuns labels final.events ↔ ChangesCovered stored fastRuns labels := by
  cases fastRuns with
  | true =>
    have sound := fast_sound stored labels final reached
    simp only [PowerEventsExact, ChangesCovered, if_true, sound.reported]
    cases responsibleStatuses true labels with
    | nil => simp
    | cons first rest =>
      simp only [Sequences.pairs_cons, List.flatMap_cons, List.head?_cons, Option.some.injEq, forall_eq', SameBits]
      refine forall_congr' fun powerBit => ?_
      rw [← change_events_nil powerBit ((Snapshot.load stored).status, first), List.self_eq_append_left]
  | false =>
    have silent := slow_loop_silent stored labels final reached
    simp only [PowerEventsExact, ChangesCovered, Bool.false_eq_true, if_false, silent, SameBits]
    constructor
    · intro none status member powerBit
      have unchanged := (Sequences.pairs_unchanged (fun status => has status powerBit.mask)
        (Snapshot.load stored).status (responsibleStatuses false labels)).mp
        fun pair present => (change_events_nil powerBit pair).mp (List.flatMap_eq_nil_iff.mp (none powerBit).symm pair present)
      exact (unchanged status member).symm
    · intro same powerBit
      refine (List.flatMap_eq_nil_iff.mpr fun pair present => ?_).symm
      rw [change_events_nil]
      exact (Sequences.pairs_unchanged (fun status => has status powerBit.mask) _ _).mpr
        (fun status member => (same status member powerBit).symm) pair present

def readingWith (status : Word) : UpsData := { UpsData.zero with status := status }

-- A driver without a fast loop: the UPS goes to battery between two polls.
def unattendedTransfer : List MonitorLabel :=
  [.initial (some (readingWith stOnline)),
    .poll { reading := some (readingWith stOnBattery), transportUp := true, now := 2, heMode := false, saves := true } 2000]

theorem transfer_without_fast_loop_lost :
    ¬ PowerEventsExact (some (Snapshot.ofData (readingWith stOnline))) false unattendedTransfer
      (Runs.final MonitorState.step (.initial (some (Snapshot.ofData (readingWith stOnline))) false)
        unattendedTransfer).events := by
  intro exact
  exact absurd (exact .onBattery) (by decide +kernel)

-- A fast loop that starts on the snapshot's bits and sees a transfer and the return.
def watchedTransfer : List MonitorLabel :=
  [.initial (some (readingWith stOnline)),
    .tick { status := some stOnline, reason := some 8, nowMs := 200, battery := none },
    .tick { status := some stOnBattery, reason := some 2, nowMs := 400, battery := some (readingWith stOnBattery) },
    .poll { reading := some (readingWith stOnBattery), transportUp := true, now := 2, heMode := false, saves := true } 2000,
    .tick { status := some stOnline, reason := some 8, nowMs := 2200, battery := none }]

theorem watched_transfer_reported :
    PowerEventsExact (some (Snapshot.ofData (readingWith stOnline))) true watchedTransfer
      (Runs.final MonitorState.step (.initial (some (Snapshot.ofData (readingWith stOnline))) true) watchedTransfer).events := by
  apply (power_events_exact_iff _ true watchedTransfer _ (Runs.run_final _ _ _ (by decide +kernel))).mpr
  rintro first read powerBit
  obtain rfl : first = stOnline := by
    have start : (responsibleStatuses true watchedTransfer).head? = some stOnline := by decide +kernel
    exact Option.some.inj (read.symm.trans start)
  rfl

end AiriesUps.Monitor
