import AiriesUps.Lib.Alternation
import AiriesUps.Monitor.PowerEvents

set_option autoImplicit false

namespace AiriesUps.Monitor

open Ups Alternation

def faultBits : Word := stFault ||| stFaultState

-- UPS_ST_FAULT or UPS_ST_FAULT_STATE is set.
def faulted (status : Word) : Bool := has status faultBits

def faultEdge (event : MonitorEvent) : Option Edge :=
  if event.title = "Fault Detected" then some .rise else if event.title = "Fault Cleared" then some .fall else none

def fastNext (loop : FastLoop) (tick : Tick) : FastLoop := (fastLoopTick loop tick).loop
def fastStep : Runs.Step FastLoop Tick := fun loop tick => some (fastNext loop tick)

-- The fault events of a tick, and of a run.
def tickFaults (loop : FastLoop) (tick : Tick) : List Edge := (fastLoopTick loop tick).events.filterMap faultEdge
def faultLog : FastLoop → List Tick → List Edge := history fastNext tickFaults

-- Detected comes only where no fault bit was set, Cleared only where none remains.
def FaultEventsSound (loop : FastLoop) (tick : Tick) : Prop :=
  (.rise ∈ tickFaults loop tick → faulted loop.prevStatusFast = false) ∧
    (.fall ∈ tickFaults loop tick → faulted (fastNext loop tick).prevStatusFast = false)

-- Between two statuses that both have a fault, neither fault bit changes.
def FaultsKept (loop : FastLoop) (tick : Tick) : Prop :=
  loop.firstTick = false → ∀ status, tick.successful = some status →
    faulted loop.prevStatusFast = true → faulted status = true →
      has (loop.prevStatusFast ^^^ status) faultBits = false

theorem has_or (status first second : Word) : has status (first ||| second) = (has status first || has status second) := by
  rw [Bool.eq_iff_iff, Bool.or_eq_true]
  simp only [has, bne_iff_ne, ne_eq, BitVec.and_or_distrib_left]
  rw [← not_and_or, not_iff_not]
  exact BitVec.or_eq_zero_iff

theorem has_xor_bit (before after : Word) (index : Nat) (inside : index < 32) :
    has (before ^^^ after) (bit index) = (has before (bit index) != has after (bit index)) := by
  rw [has_bit _ index inside, has_bit _ index inside, has_bit _ index inside, BitVec.getLsbD_xor]

theorem edges_emit (condition : Bool) (event : MonitorEvent) :
    (emitWhen condition event).filterMap faultEdge = if condition then (faultEdge event).toList else [] := by
  cases condition with
  | true => cases about : faultEdge event <;> simp [emitWhen, about]
  | false => rfl

theorem emit_transitions_faults (prev status : Word) (reason : BitVec 16) (battery : Option UpsData) :
    (emitTransitions prev status reason battery).filterMap faultEdge =
      (if has ((prev ^^^ status) &&& fastOwnedBits &&& status) faultBits then [.rise] else []) ++
        if has ((prev ^^^ status) &&& fastOwnedBits &&& prev) faultBits then [.fall] else [] := by
  rw [emitTransitions]
  by_cases same : (prev ^^^ status) &&& fastOwnedBits = 0
  · simp [same, has]
  · simp only [if_neg same, List.filterMap_append, edges_emit]
    simp [faultEdge, fireEventWithReason, faultBits]
    rfl

-- The two masked words of emit_transitions, in the four fault bits before and after.
theorem faults_changed (prev status : Word) :
    has ((prev ^^^ status) &&& fastOwnedBits &&& status) faultBits =
        (!has prev stFault && has status stFault || !has prev stFaultState && has status stFaultState) ∧
      has ((prev ^^^ status) &&& fastOwnedBits &&& prev) faultBits =
        (has prev stFault && !has status stFault || has prev stFaultState && !has status stFaultState) ∧
      has (prev ^^^ status) faultBits =
        ((has prev stFault != has status stFault) || (has prev stFaultState != has status stFaultState)) := by
  refine ⟨?_, ?_, ?_⟩
  · rw [faultBits, has_or, stFault, stFaultState, has_set _ _ 5 (by decide) (by decide),
      has_set _ _ 15 (by decide) (by decide)]
  · rw [faultBits, has_or, stFault, stFaultState, has_cleared _ _ 5 (by decide) (by decide),
      has_cleared _ _ 15 (by decide) (by decide)]
  · rw [faultBits, has_or, stFault, stFaultState, has_xor_bit _ _ 5 (by decide), has_xor_bit _ _ 15 (by decide)]

theorem tick_failed (loop : FastLoop) (tick : Tick) (failed : tick.successful = none) :
    fastNext loop tick = loop ∧ tickFaults loop tick = [] := by
  rw [fastNext, tickFaults, fast_loop_tick_failed loop tick failed]
  exact ⟨rfl, rfl⟩

-- The first successful tick only sets the baseline.
theorem tick_first (loop : FastLoop) (tick : Tick) (status : Word) (read : tick.successful = some status)
    (first : loop.firstTick = true) : (fastNext loop tick).firstTick = false ∧ tickFaults loop tick = [] := by
  obtain ⟨reason, emitted, _, later⟩ := fast_loop_tick_successful loop tick status read
  rw [tickFaults, emitted, first]
  exact ⟨later, rfl⟩

theorem tick_later (loop : FastLoop) (tick : Tick) (status : Word) (read : tick.successful = some status)
    (later : loop.firstTick = false) :
    (fastNext loop tick).firstTick = false ∧ (fastNext loop tick).prevStatusFast = status ∧
      tickFaults loop tick =
        (if has ((loop.prevStatusFast ^^^ status) &&& fastOwnedBits &&& status) faultBits then [.rise] else []) ++
          if has ((loop.prevStatusFast ^^^ status) &&& fastOwnedBits &&& loop.prevStatusFast) faultBits then [.fall]
          else [] := by
  obtain ⟨reason, emitted, previous, going⟩ := fast_loop_tick_successful loop tick status read
  rw [tickFaults, emitted, later, if_neg Bool.false_ne_true, emit_transitions_faults]
  exact ⟨going, previous, rfl⟩

theorem tick_sound_iff (loop : FastLoop) (tick : Tick) : FaultEventsSound loop tick ↔ FaultsKept loop tick := by
  cases read : tick.successful with
  | none => simp [FaultEventsSound, FaultsKept, tick_failed loop tick read, read]
  | some status =>
    cases first : loop.firstTick with
    | true => simp [FaultEventsSound, FaultsKept, tick_first loop tick status read first, first]
    | false =>
      obtain ⟨_, previous, faults⟩ := tick_later loop tick status read first
      obtain ⟨set, cleared, changed⟩ := faults_changed loop.prevStatusFast status
      rw [FaultEventsSound, FaultsKept, faults, previous, set, cleared, read, first]
      simp only [forall_const, Option.some.injEq, forall_eq', changed]
      rw [faulted, faulted, faultBits, has_or, has_or]
      cases has loop.prevStatusFast stFault <;> cases has loop.prevStatusFast stFaultState <;>
        cases has status stFault <;> cases has status stFaultState <;> decide

theorem tick_alternates (loop : FastLoop) (tick : Tick) (later : loop.firstTick = false) (kept : FaultsKept loop tick) :
    (fastNext loop tick).firstTick = false ∧
      Alternates (faulted loop.prevStatusFast) (tickFaults loop tick) (faulted (fastNext loop tick).prevStatusFast) := by
  cases read : tick.successful with
  | none =>
    obtain ⟨same, silent⟩ := tick_failed loop tick read
    rw [same, silent]
    exact ⟨later, alternates_nil _⟩
  | some status =>
    obtain ⟨going, previous, faults⟩ := tick_later loop tick status read later
    obtain ⟨set, cleared, changed⟩ := faults_changed loop.prevStatusFast status
    refine ⟨going, ?_⟩
    have unchanged := kept later status read
    rw [changed] at unchanged
    rw [faults, previous, set, cleared]
    revert unchanged
    rw [faulted, faulted, faultBits, has_or, has_or]
    cases has loop.prevStatusFast stFault <;> cases has loop.prevStatusFast stFaultState <;>
      cases has status stFault <;> cases has status stFaultState <;> decide

theorem alternates_after_first (loop : FastLoop) (ticks : List Tick) (later : loop.firstTick = false)
    (kept : Runs.Admitted fastStep FaultsKept loop ticks) :
    Alternates (faulted loop.prevStatusFast) (faultLog loop ticks)
      (faulted (ticks.foldl fastNext loop).prevStatusFast) := by
  induction ticks generalizing loop with
  | nil => exact alternates_nil _
  | cons tick rest ih =>
    obtain ⟨going, alternates⟩ := tick_alternates loop tick later kept.1
    exact alternates_append _ _ _ _ _ alternates (ih (fastNext loop tick) going kept.2)

theorem alternates_from_first (loop : FastLoop) (ticks : List Tick) (first : loop.firstTick = true)
    (kept : Runs.Admitted fastStep FaultsKept loop ticks) : (faultLog loop ticks).IsChain (· ≠ ·) := by
  induction ticks generalizing loop with
  | nil => exact List.isChain_nil
  | cons tick rest ih =>
    rw [faultLog, history]
    cases read : tick.successful with
    | none =>
      obtain ⟨same, silent⟩ := tick_failed loop tick read
      have later : Runs.Admitted fastStep FaultsKept (fastNext loop tick) rest := kept.2
      rw [silent, same]
      rw [same] at later
      exact ih loop first later
    | some status =>
      obtain ⟨going, silent⟩ := tick_first loop tick status read first
      rw [silent]
      exact alternating_of_alternates _ _ _ (alternates_after_first (fastNext loop tick) rest going kept.2)

theorem fault_events_paired_iff (ticks : List Tick) :
    ((faultLog .start ticks).IsChain (· ≠ ·) ∧ Runs.Admitted fastStep FaultEventsSound .start ticks) ↔
      Runs.Admitted fastStep FaultsKept .start ticks := by
  rw [Runs.admitted_congr fastStep FaultEventsSound FaultsKept tick_sound_iff]
  exact and_iff_right_of_imp (alternates_from_first .start ticks rfl)

def faultTick (status : Word) : Tick := { status := some status, reason := some 8, nowMs := 0, battery := none }

-- FAULT comes on mains, FAULT_STATE 200 ms later, and FAULT goes first.
def separateFaults : List Tick :=
  [faultTick stOnline, faultTick (stOnline ||| stFault), faultTick (stOnline ||| stFault ||| stFaultState),
    faultTick (stOnline ||| stFaultState)]

theorem separate_faults_unpaired :
    ¬∀ ticks, (faultLog .start ticks).IsChain (· ≠ ·) ∧ Runs.Admitted fastStep FaultEventsSound .start ticks := by
  intro paired
  have twice : faultLog .start separateFaults = [.rise, .rise, .fall] := by decide +kernel
  have chain := (paired separateFaults).1
  rw [twice] at chain
  simp at chain

end AiriesUps.Monitor
