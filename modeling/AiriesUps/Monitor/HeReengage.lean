import AiriesUps.Monitor.ShutdownEvent
import AiriesUps.Ups.Capabilities

set_option autoImplicit false

namespace AiriesUps.Monitor

open Ups

def readings (labels : List MonitorLabel) : List UpsData := labels.filterMap polledReading

def inHeMode (data : UpsData) : Bool := has data.status stHeMode

def MonitorState.inhibited (state : MonitorState) : Prop := state.slow.inhibit.active = true

-- The polls ask ups_has_cap about the one driver the handle was opened with.
def CapabilityOf (driver : DriverName) (_ : MonitorState) : MonitorLabel → Prop
  | .poll poll _ => ∃ fields, poll.heMode = upsHasCap (resolvedCaps driver fields) capHeMode
  | _ => True

-- The last labels of the history are a stretch in which the inhibit stayed on, and
-- shown holds of the readings made there.
def HeStreak (start : MonitorState) (past : List MonitorLabel) (shown : List UpsData → Prop) : Prop :=
  ∃ earlier recent middle, past = earlier ++ recent ∧ Runs.run MonitorState.step start earlier = some middle ∧
    Runs.Throughout MonitorState.step middle recent MonitorState.inhibited ∧ shown (readings recent)

-- The poll reads the UPS and its reading is the last of the streak.
def StablyReengaged (start : MonitorState) (past : List MonitorLabel) (label : MonitorLabel) : Prop :=
  ∃ data, polledReading label = some data ∧
    HeStreak start past fun shown => shown.length + 1 = heReengageThreshold ∧ ∀ reading ∈ shown ++ [data], inHeMode reading = true

-- The poll loop clears the inhibit; monitor_he_inhibit_clear is another label.
def AutoCleared (before : MonitorState) (label : MonitorLabel) (after : MonitorState) : Prop :=
  (∃ poll nowMs, label = .poll poll nowMs) ∧ before.slow.inhibit.active = true ∧ after.slow.inhibit.active = false

structure ReengageSound (driver : DriverName) (start : MonitorState) (past : List MonitorLabel)
    (state : MonitorState) : Prop where
  reached : Runs.run MonitorState.step start past = some state
  idle : state.slow.inhibit.active = false ∨ upsHasCap driver.caps capHeMode = false →
    state.slow.inhibit.reengageCount = 0
  below : state.slow.inhibit.reengageCount < heReengageThreshold
  counted : state.slow.inhibit.active = true → HeStreak start past fun shown =>
    shown.length = state.slow.inhibit.reengageCount ∧ ∀ reading ∈ shown, inHeMode reading = true

theorem he_streak_empty (start state : MonitorState) (past : List MonitorLabel)
    (reached : Runs.run MonitorState.step start past = some state) (inhibited : state.inhibited) :
    HeStreak start past fun shown => shown.length = 0 ∧ ∀ reading ∈ shown, inHeMode reading = true :=
  ⟨past, [], state, (List.append_nil past).symm, reached,
    Runs.throughout_nil MonitorState.step state MonitorState.inhibited inhibited, rfl, fun _ member => by cases member⟩

theorem readings_concat (labels : List MonitorLabel) (label : MonitorLabel) :
    readings (labels ++ [label]) = readings labels ++ (polledReading label).toList := by
  rw [readings, List.filterMap_append]
  cases read : polledReading label <;> simp [read, readings]

-- A step that leaves the inhibit on lengthens the stretch by its label.
theorem he_streak_concat (start next : MonitorState) (past : List MonitorLabel) (label : MonitorLabel)
    (before after : List UpsData → Prop) (streak : HeStreak start past before)
    (reached : Runs.run MonitorState.step start (past ++ [label]) = some next) (inhibited : next.inhibited)
    (longer : ∀ shown, before shown → after (shown ++ (polledReading label).toList)) :
    HeStreak start (past ++ [label]) after := by
  obtain ⟨earlier, recent, middle, rfl, reachedMiddle, active, shown⟩ := streak
  refine ⟨earlier, recent ++ [label], middle, List.append_assoc _ _ _, reachedMiddle, ?_, ?_⟩
  · rw [List.append_assoc, Runs.run_append, reachedMiddle, Option.bind_some] at reached
    exact Runs.throughout_concat MonitorState.step middle next recent label MonitorState.inhibited active reached inhibited
  · rw [readings_concat]
    exact longer _ shown

theorem poll_inhibit (loop : SlowLoop) (poll : Poll) (cause : BitVec 16) :
    (slowPoll loop poll cause).1.inhibit =
      match poll.reading with
      | none => loop.inhibit
      | some data => (heAutoClear loop.inhibit poll.heMode data cause).1 := by
  rw [slowPoll]
  cases poll.reading with
  | none =>
    dsimp only
    rw [readFailed]
    split <;> rfl
  | some data =>
    dsimp only
    rw [updateSnapshot]
    split <;> rfl

-- All that a successful poll can do to the inhibit.
theorem auto_clear_cases (inhibit : HeInhibit) (heMode : Bool) (data : UpsData) (cause : BitVec 16) :
    (inhibit.active && heMode) = false ∧ (heAutoClear inhibit heMode data cause).1 = inhibit ∨
      inhibit.active = true ∧ heMode = true ∧
        (inHeMode data = false ∧ (heAutoClear inhibit heMode data cause).1 = { inhibit with reengageCount := 0 } ∨
          inHeMode data = true ∧
            (heReengageThreshold ≤ inhibit.reengageCount + 1 ∧ (heAutoClear inhibit heMode data cause).1 = .clear ∨
              inhibit.reengageCount + 1 < heReengageThreshold ∧
                (heAutoClear inhibit heMode data cause).1 =
                  { inhibit with reengageCount := inhibit.reengageCount + 1 })) := by
  rw [heAutoClear]
  cases looks : inhibit.active && heMode with
  | false => exact Or.inl ⟨rfl, rfl⟩
  | true =>
    obtain ⟨active, capable⟩ := Bool.and_eq_true_iff.mp looks
    refine Or.inr ⟨active, capable, ?_⟩
    rw [if_pos rfl]
    by_cases shown : has data.status stHeMode = true
    · rw [if_pos shown]
      refine Or.inr ⟨shown, ?_⟩
      by_cases enough : heReengageThreshold ≤ inhibit.reengageCount + 1
      · rw [if_pos enough]
        exact Or.inl ⟨enough, rfl⟩
      · rw [if_neg enough]
        exact Or.inr ⟨by omega, rfl⟩
    · rw [if_neg shown]
      exact Or.inl ⟨Bool.eq_false_iff.mpr shown, rfl⟩

-- What the labels other than a successful poll do to the inhibit.
theorem inhibit_quiet (state next : MonitorState) (label : MonitorLabel) (taken : state.step label = some next)
    (unread : polledReading label = none) :
    next.slow.inhibit = state.slow.inhibit ∨ next.slow.inhibit = .clear ∧ label = .inhibitClear ∨
      ∃ source, next.slow.inhibit = state.slow.inhibit.set source ∧ label = .inhibitSet source := by
  cases label with
  | initial reading =>
    obtain ⟨_, rfl⟩ := monitor_initial state next reading taken
    cases reading <;> exact Or.inl rfl
  | poll poll nowMs =>
    obtain ⟨_, rfl⟩ := monitor_poll state next poll nowMs taken
    refine Or.inl ?_
    rw [polledReading] at unread
    simp only [poll_inhibit, unread]
  | tick tick =>
    obtain ⟨loop, _, rfl⟩ := monitor_tick state next tick taken
    exact Or.inl rfl
  | inhibitSet source =>
    cases taken
    exact Or.inr (Or.inr ⟨source, rfl, rfl⟩)
  | inhibitClear =>
    cases taken
    exact Or.inr (Or.inl ⟨rfl, rfl⟩)

theorem inhibit_read (state next : MonitorState) (label : MonitorLabel) (taken : state.step label = some next)
    (data : UpsData) (read : polledReading label = some data) :
    ∃ poll nowMs, label = .poll poll nowMs ∧
      next.slow.inhibit = (heAutoClear state.slow.inhibit poll.heMode data (recentCause state.fast nowMs)).1 := by
  cases label with
  | poll poll nowMs =>
    obtain ⟨_, rfl⟩ := monitor_poll state next poll nowMs taken
    rw [polledReading] at read
    refine ⟨poll, nowMs, rfl, ?_⟩
    simp only [poll_inhibit, read]
  | initial reading => cases read
  | tick tick => cases read
  | inhibitSet source => cases read
  | inhibitClear => cases read

theorem capability_poll (driver : DriverName) (state : MonitorState) (poll : Poll) (nowMs : Nat)
    (capable : CapabilityOf driver state (.poll poll nowMs)) : poll.heMode = upsHasCap driver.caps capHeMode := by
  obtain ⟨fields, found⟩ := capable
  rw [found, he_mode_resolved]

-- With the count at zero a new stretch begins, if the inhibit is on.
theorem reengage_fresh (driver : DriverName) (start : MonitorState) (past : List MonitorLabel) (state : MonitorState)
    (reached : Runs.run MonitorState.step start past = some state) (zero : state.slow.inhibit.reengageCount = 0) :
    ReengageSound driver start past state := by
  refine ⟨reached, fun _ => zero, by rw [zero]; decide, fun inhibited => ?_⟩
  rw [zero]
  exact he_streak_empty start state past reached inhibited

-- A label without a reading: the stretch goes on, or starts here where the inhibit was off.
theorem reengage_quiet (driver : DriverName) (start : MonitorState) (past : List MonitorLabel)
    (state : MonitorState) (label : MonitorLabel) (next : MonitorState) (sound : ReengageSound driver start past state)
    (taken : state.step label = some next) (read : polledReading label = none)
    (reached : Runs.run MonitorState.step start (past ++ [label]) = some next) :
    ReengageSound driver start (past ++ [label]) next := by
  have continued : ∀ inhibited : next.inhibited, state.slow.inhibit.active = true →
      HeStreak start (past ++ [label]) fun shown =>
        shown.length = state.slow.inhibit.reengageCount ∧ ∀ reading ∈ shown, inHeMode reading = true := by
    intro inhibited active
    refine he_streak_concat start next past label _ _ (sound.counted active) reached inhibited ?_
    intro shown counted
    rwa [read, Option.toList_none, List.append_nil]
  rcases inhibit_quiet state next label taken read with same | ⟨cleared, _⟩ | ⟨source, set, _⟩
  · refine ⟨reached, by rw [same]; exact sound.idle, by rw [same]; exact sound.below, ?_⟩
    intro active
    have inhibited : next.inhibited := active
    rw [same] at active ⊢
    exact continued inhibited active
  · exact reengage_fresh driver start _ next reached (by rw [cleared]; rfl)
  · have count : next.slow.inhibit.reengageCount = state.slow.inhibit.reengageCount := by
      rw [set]
      rfl
    cases active : state.slow.inhibit.active with
    | false => exact reengage_fresh driver start _ next reached (count.trans (sound.idle (Or.inl active)))
    | true =>
      refine ⟨reached, ?_, by rw [count]; exact sound.below, fun inhibited => ?_⟩
      · rintro (off | incapable)
        · rw [set] at off
          cases off
        · rw [count]
          exact sound.idle (Or.inr incapable)
      · rw [count]
        exact continued inhibited active

-- A poll that has its reading: the count starts again or is one more than the stretch had.
theorem reengage_read (driver : DriverName) (start : MonitorState) (past : List MonitorLabel)
    (state : MonitorState) (label : MonitorLabel) (next : MonitorState) (sound : ReengageSound driver start past state)
    (capable : CapabilityOf driver state label) (taken : state.step label = some next) (data : UpsData)
    (read : polledReading label = some data)
    (reached : Runs.run MonitorState.step start (past ++ [label]) = some next) :
    ReengageSound driver start (past ++ [label]) next := by
  obtain ⟨poll, nowMs, rfl, after⟩ := inhibit_read state next label taken data read
  have answered := capability_poll driver state poll nowMs capable
  rcases auto_clear_cases state.slow.inhibit poll.heMode data (recentCause state.fast nowMs) with
    ⟨skipped, same⟩ | ⟨active, asked, ⟨_, reset⟩ | ⟨shows, ⟨_, cleared⟩ | ⟨below, counts⟩⟩⟩
  · refine reengage_fresh driver start _ next reached ?_
    rw [after, same]
    refine sound.idle ?_
    rw [Bool.and_eq_false_iff] at skipped
    exact skipped.imp_right fun incapable => answered.symm.trans incapable
  · exact reengage_fresh driver start _ next reached (by rw [after, reset])
  · exact reengage_fresh driver start _ next reached (by rw [after, cleared]; rfl)
  · have capableDriver : ¬upsHasCap driver.caps capHeMode = false := by
      rw [← answered, asked]
      exact Bool.true_eq_false_eq_False
    rw [counts] at after
    refine ⟨reached, ?_, by rw [after]; exact below, ?_⟩
    · rintro (off | incapable)
      · rw [after] at off
        exact absurd (active.symm.trans off) Bool.true_eq_false_eq_False
      · exact absurd incapable capableDriver
    · intro inhibited
      refine he_streak_concat start next past _ _ _ (sound.counted active) reached inhibited ?_
      rintro shown ⟨length, every⟩
      rw [read, Option.toList_some, List.length_append, List.length_singleton, length, after]
      refine ⟨rfl, ?_⟩
      intro reading member
      rcases List.mem_append.mp member with earlier | last
      · exact every reading earlier
      · rw [List.mem_singleton.mp last]
        exact shows

theorem reengage_sound_step (driver : DriverName) (start : MonitorState) (past : List MonitorLabel)
    (state : MonitorState) (label : MonitorLabel) (next : MonitorState) (sound : ReengageSound driver start past state)
    (capable : CapabilityOf driver state label) (taken : state.step label = some next) :
    ReengageSound driver start (past ++ [label]) next := by
  have reached := (Runs.run_concat MonitorState.step start next past label).mpr ⟨state, sound.reached, taken⟩
  cases read : polledReading label with
  | none => exact reengage_quiet driver start past state label next sound taken read reached
  | some data => exact reengage_read driver start past state label next sound capable taken data read reached

theorem reengage_sound (driver : DriverName) (row : Option Snapshot) (loads fastRuns : Bool) (labels : List MonitorLabel)
    (final : MonitorState) (reached : Runs.run MonitorState.step (.boot row loads fastRuns) labels = some final)
    (capable : Runs.Admitted MonitorState.step (CapabilityOf driver) (.boot row loads fastRuns) labels) :
    ReengageSound driver (.boot row loads fastRuns) labels final := by
  refine Runs.history_invariant MonitorState.step (CapabilityOf driver) _
    (ReengageSound driver (.boot row loads fastRuns)) ?_ ?_ labels final reached capable
  · exact ⟨rfl, fun _ => rfl, Nat.zero_lt_succ 29, fun active => by cases active⟩
  · exact reengage_sound_step driver (.boot row loads fastRuns)

-- The weather inhibit is on, the unit is back in the mode, and thirty polls show it.
def hePoll : MonitorLabel :=
  .poll { reading := some (readingWith stHeMode), transportUp := true, now := 2, heMode := true, saves := true } 2000

def backInHeMode : List MonitorLabel := .initial none :: .inhibitSet "weather" :: List.replicate 30 hePoll

end AiriesUps.Monitor
