import AiriesUps.Monitor.ShutdownEvent

set_option autoImplicit false

namespace AiriesUps.Monitor

open Ups

-- After a poll at which a save would succeed, the row has the fields of its reading.
def RowCurrent (_ : List MonitorLabel) (_ : MonitorState) (label : MonitorLabel) (next : MonitorState) : Prop :=
  ∀ poll nowMs data, label = .poll poll nowMs → poll.reading = some data → poll.saves = true →
    next.slow.stored = some (Snapshot.ofData data)

-- A reading that equals the copy in memory finds the copy equal to the row.
def CopyCurrent (state : MonitorState) (label : MonitorLabel) : Prop :=
  ∀ poll nowMs data, label = .poll poll nowMs → poll.reading = some data → poll.saves = true →
    Snapshot.ofData data = state.slow.snapshot → state.slow.stored = some state.slow.snapshot

theorem poll_snapshot (loop : SlowLoop) (poll : Poll) (cause : BitVec 16) (data : UpsData) (read : poll.reading = some data) :
    (slowPoll loop poll cause).1.snapshot = Snapshot.ofData data ∧
      (slowPoll loop poll cause).1.stored =
        if Snapshot.ofData data ≠ loop.snapshot ∧ poll.saves = true then some (Snapshot.ofData data) else loop.stored := by
  have kept : (reconnect { loop with data := data, hasData := true, connected := true } poll.now).1.snapshot = loop.snapshot ∧
      (reconnect { loop with data := data, hasData := true, connected := true } poll.now).1.stored = loop.stored := by
    rw [reconnect]
    split <;> exact ⟨rfl, rfl⟩
  rw [slowPoll, read]
  dsimp only
  rw [updateSnapshot, kept.1, kept.2]
  by_cases changed : Snapshot.ofData data ≠ loop.snapshot
  · rw [if_pos changed]
    refine ⟨rfl, ?_⟩
    cases poll.saves <;> simp [changed]
  · rw [if_neg changed]
    refine ⟨(not_not.mp changed).symm, ?_⟩
    rw [if_neg fun both => changed both.1]

theorem failed_saves_forgotten_iff (row : Option Snapshot) (loads fastRuns : Bool) (labels : List MonitorLabel) :
    Runs.EachStep MonitorState.step (.boot row loads fastRuns) labels RowCurrent ↔
      Runs.EachStep MonitorState.step (.boot row loads fastRuns) labels fun _ state label _ => CopyCurrent state label := by
  refine Runs.each_step_congr MonitorState.step _ (fun _ _ => True) trivial (fun _ _ _ _ _ _ => trivial) _ _
    (fun past state label next _ taken => ?_) labels
  refine forall_congr' fun poll => forall_congr' fun nowMs => forall_congr' fun data => imp_congr_right fun polled =>
    imp_congr_right fun read => imp_congr_right fun saves => ?_
  subst polled
  have stored : next.slow.stored =
      if Snapshot.ofData data ≠ state.slow.snapshot then some (Snapshot.ofData data) else state.slow.stored := by
    have written := (poll_snapshot state.slow poll (recentCause state.fast nowMs) data read).2
    rw [saves] at written
    obtain ⟨_, rfl⟩ := monitor_poll state next poll nowMs taken
    rw [written]
    simp
  rw [stored]
  by_cases same : Snapshot.ofData data = state.slow.snapshot
  · simp [same]
  · simp [same]

-- Every save that is attempted succeeds.
def SavesSucceed (state : MonitorState) : MonitorLabel → Prop
  | .poll poll _ => ∀ data, poll.reading = some data → Snapshot.ofData data ≠ state.slow.snapshot → poll.saves = true
  | _ => True

theorem copy_step (state next : MonitorState) (label : MonitorLabel) (taken : state.step label = some next)
    (current : state.slow.stored = some state.slow.snapshot) (saved : SavesSucceed state label) :
    next.slow.stored = some next.slow.snapshot := by
  cases label with
  | initial reading =>
    obtain ⟨_, rfl⟩ := monitor_initial state next reading taken
    cases reading <;> exact current
  | poll poll nowMs =>
    obtain ⟨_, rfl⟩ := monitor_poll state next poll nowMs taken
    cases read : poll.reading with
    | none =>
      simp only [slowPoll, read, readFailed]
      split <;> exact current
    | some data =>
      obtain ⟨copied, written⟩ := poll_snapshot state.slow poll (recentCause state.fast nowMs) data read
      rw [copied, written]
      by_cases changed : Snapshot.ofData data ≠ state.slow.snapshot
      · rw [if_pos ⟨changed, saved data read changed⟩]
      · rw [if_neg fun both => changed both.1, current, not_not.mp changed]
  | tick tick =>
    obtain ⟨loop, _, rfl⟩ := monitor_tick state next tick taken
    exact current
  | inhibitSet source =>
    cases taken
    exact current
  | inhibitClear =>
    cases taken
    exact current

-- From a row that was loaded, the copy leaves the row only through a save that fails.
theorem saved_copy_current (row : Snapshot) (fastRuns : Bool) (labels : List MonitorLabel) (final : MonitorState)
    (reached : Runs.run MonitorState.step (.boot (some row) true fastRuns) labels = some final)
    (saved : Runs.Admitted MonitorState.step SavesSucceed (.boot (some row) true fastRuns) labels) :
    final.slow.stored = some final.slow.snapshot :=
  Runs.guarded_invariant MonitorState.step SavesSucceed _ (fun state => state.slow.stored = some state.slow.snapshot) rfl
    (fun state label next current saves taken => copy_step state next label taken current saves) labels final reached saved

-- The save at the poll that finds a fault fails, and the fault is still there at the
-- next poll.
def faultUnsaved : List MonitorLabel :=
  [.initial (some (readingWith stOnline)),
    .poll { reading := some (readingWith stFault), transportUp := true, now := 2, heMode := false, saves := false } 2000,
    .poll { reading := some (readingWith stFault), transportUp := true, now := 4, heMode := false, saves := true } 4000]

theorem unsaved_fault_forgotten :
    ¬Runs.EachStep MonitorState.step (.boot (some (Snapshot.ofData (readingWith stOnline))) true false) faultUnsaved
      RowCurrent := by
  intro current
  have row := Runs.each_step_final _ _ _ _ current (faultUnsaved.take 2) _ [] rfl (by decide +kernel) _ _ _ rfl rfl rfl
  exact absurd row (by decide +kernel)

end AiriesUps.Monitor
