import AiriesUps.Lib.Calendar
import AiriesUps.Monitor.FastLoop

set_option autoImplicit false

namespace AiriesUps.Monitor

open Ups
open Calendar (FourDigits)

-- A row of xfer_history with the UTC time in milliseconds its timestamp was made from.
structure HistoryRow where
  time : Int
  row : XferHistory
deriving DecidableEq, Repr

def HistoryRow.second (row : HistoryRow) : Int := row.time / 1000

def formatUtcMs (time : Int) : List Char :=
  Calendar.text (Nat.toDigits 10) (time / 1000) ++ '.' :: Decimal.fixed 3 (time % 1000).toNat

def retentionSeconds : Int := 7 * 86400

def pruneCutoff (now : Int) : List Char := Calendar.text (Decimal.fixed 4) (now - retentionSeconds)

-- DELETE FROM xfer_history WHERE timestamp < datetime('now', '-7 days'): texts compare
-- by their characters.
def prune (rows : List HistoryRow) (now : Int) : List HistoryRow :=
  rows.filter fun row => !decide (formatUtcMs row.time < pruneCutoff now)

-- The fast loop of the running daemon and the table, which stays when the daemon restarts.
structure HistoryState where
  loop : FastLoop
  rows : List HistoryRow
deriving DecidableEq, Repr

-- A turn of the fast loop at a wall-clock time, whose INSERT may fail; the daily DELETE
-- of the slow loop, which may fail too; and a restart of the daemon.
inductive HistoryLabel where
  | tick (tick : Tick) (time : Int) (stored : Bool)
  | prune (now : Int) (deleted : Bool)
  | restart
deriving DecidableEq, Repr

def persisted (result : TickResult) (time : Int) (stored : Bool) : List HistoryRow :=
  if stored then result.history.map fun row => { time := time, row := row } else []

def HistoryState.step (state : HistoryState) (label : HistoryLabel) : HistoryState :=
  match label with
  | .tick tick time stored =>
    let result := fastLoopTick state.loop tick
    { loop := result.loop, rows := state.rows ++ persisted result time stored }
  | .prune now deleted => { state with rows := if deleted then Monitor.prune state.rows now else state.rows }
  | .restart => { state with loop := .start }

def HistoryState.steps (state : HistoryState) (labels : List HistoryLabel) : HistoryState := labels.foldl step state

-- No later prune that works comes more than seven days after the row.
def HistoryRow.survives (row : HistoryRow) (later : List HistoryLabel) : Bool :=
  later.all fun label =>
    match label with
    | .prune now true => decide (now - retentionSeconds ≤ row.second)
    | _ => true

-- What the table is for: the changes of the transfer reason, from one reading to the next
-- of the same daemon, that were stored and are not too old.
def retained (lastRead : Option (BitVec 16)) : List HistoryLabel → List HistoryRow
  | [] => []
  | .tick tick time stored :: later =>
    match tick.status, tick.reason with
    | some status, some reason =>
      let row : HistoryRow :=
        { time := time, row := { reasonCode := reason, reasonStr := transferReasonStr reason, statusBits := status } }
      if lastRead ≠ some reason ∧ stored = true ∧ row.survives later = true then row :: retained (some reason) later
      else retained (some reason) later
    | _, _ => retained lastRead later
  | .prune _ _ :: later => retained lastRead later
  | .restart :: later => retained none later

-- The clock shows years of four digits at every insert and every prune.
def HistoryLabel.Dated : HistoryLabel → Prop
  | .tick _ time _ => FourDigits (time / 1000)
  | .prune now _ => FourDigits (now - retentionSeconds)
  | .restart => True

instance : (label : HistoryLabel) → Decidable label.Dated
  | .tick _ _ _ | .prune _ _ => inferInstanceAs (Decidable (FourDigits _))
  | .restart => inferInstanceAs (Decidable True)

theorem clock_text_length (seconds : Nat) : (Calendar.clockText seconds).length = 8 := by simp [Calendar.clockText]

theorem text_length (time : Int) : (Calendar.text (Decimal.fixed 4) time).length = 19 := by
  rw [Calendar.text, List.length_append, List.length_cons, clock_text_length]
  simp [Calendar.dateText]

-- The milliseconds at the end of a timestamp do not count against a cutoff without them.
theorem before_cutoff_iff (time now : Int) (rowYears : FourDigits (time / 1000))
    (cutoffYears : FourDigits (now - retentionSeconds)) :
    formatUtcMs time < pruneCutoff now ↔ time / 1000 < now - retentionSeconds := by
  rw [formatUtcMs, pruneCutoff, Calendar.text_unpadded _ rowYears]
  have sameLength : (Calendar.text (Decimal.fixed 4) (time / 1000)).length =
      (Calendar.text (Decimal.fixed 4) (now - retentionSeconds)).length := by
    rw [text_length, text_length]
  constructor
  · intro before
    by_contra late
    rcases Int.lt_or_eq_of_le (Int.not_lt.mp late) with after | same
    · have later := (Calendar.text_lt_iff _ _ cutoffYears rowYears).mpr after
      have longer := Decimal.append_lt_append _ _ [] ('.' :: Decimal.fixed 3 (time % 1000).toNat) sameLength.symm later
      rw [List.append_nil] at longer
      exact List.lt_asymm before longer
    · have longer := Decimal.append_lt_append_left (Calendar.text (Decimal.fixed 4) (time / 1000)) []
        ('.' :: Decimal.fixed 3 (time % 1000).toNat) (List.nil_lt_cons _ _)
      rw [List.append_nil] at longer
      rw [same] at before
      exact List.lt_asymm before longer
  · intro less
    have earlier := (Calendar.text_lt_iff _ _ rowYears cutoffYears).mpr less
    have shorter := Decimal.append_lt_append _ _ ('.' :: Decimal.fixed 3 (time % 1000).toNat) [] sameLength earlier
    rwa [List.append_nil] at shorter

theorem prune_rows (rows : List HistoryRow) (now : Int) (rowYears : ∀ row ∈ rows, FourDigits row.second)
    (cutoffYears : FourDigits (now - retentionSeconds)) :
    prune rows now = rows.filter fun row => decide (now - retentionSeconds ≤ row.second) := by
  refine List.filter_congr fun row among => ?_
  have compared := before_cutoff_iff row.time now (rowYears row among) cutoffYears
  rw [decide_eq_decide.mpr compared, ← decide_not]
  exact decide_eq_decide.mpr Int.not_lt

theorem tick_rows (loop : FastLoop) (tick : Tick) (time : Int) (stored : Bool) (status : Word) (reason : BitVec 16)
    (statusRead : tick.status = some status) (reasonRead : tick.reason = some reason) :
    (fastLoopTick loop tick).loop.ring.lastSeen = some reason ∧
      persisted (fastLoopTick loop tick) time stored =
        if loop.ring.lastSeen ≠ some reason ∧ stored = true then
          [{ time := time
             row := { reasonCode := reason, reasonStr := transferReasonStr reason, statusBits := status } }]
        else [] := by
  rw [persisted, fastLoopTick, statusRead, reasonRead]
  dsimp only
  rw [XferRing.push]
  by_cases same : loop.ring.lastSeen = some reason
  · refine ⟨by rw [if_pos same]; exact same, ?_⟩
    have unchanged : ¬(loop.ring.lastSeen ≠ some reason ∧ stored = true) := fun changed => changed.1 same
    rw [if_neg unchanged, if_pos same]
    cases stored <;> rfl
  · refine ⟨by rw [if_neg same], ?_⟩
    rw [if_neg same]
    cases stored with
    | false => simp only [Bool.false_eq_true, and_false, if_false]
    | true =>
      have changed : loop.ring.lastSeen ≠ some reason ∧ true = true := ⟨same, rfl⟩
      rw [if_pos changed]
      rfl

theorem failed_tick (state : HistoryState) (tick : Tick) (time : Int) (stored : Bool) (failed : tick.successful = none) :
    state.step (.tick tick time stored) = state := by
  rw [HistoryState.step, fast_loop_tick_failed state.loop tick failed, persisted]
  cases stored <;> simp

-- The rows of a run are those it began with and those retained, less what was pruned.
theorem steps_rows (labels : List HistoryLabel) (state : HistoryState) (rowYears : ∀ row ∈ state.rows, FourDigits row.second)
    (dated : ∀ label ∈ labels, label.Dated) :
    (state.steps labels).rows =
      (state.rows.filter fun row => row.survives labels) ++ retained state.loop.ring.lastSeen labels := by
  induction labels generalizing state with
  | nil => simp [HistoryState.steps, HistoryRow.survives, retained]
  | cons label later ih =>
    have datedLater : ∀ label ∈ later, label.Dated := fun next among => dated next (List.mem_cons_of_mem _ among)
    have here := dated label List.mem_cons_self
    change ((state.step label).steps later).rows = _
    cases label with
    | tick tick time stored =>
      have kept : (state.rows.filter fun row => row.survives (.tick tick time stored :: later)) =
          state.rows.filter fun row => row.survives later := rfl
      rw [kept, retained]
      cases statusRead : tick.status with
      | none =>
        rw [failed_tick state tick time stored (by simp [Tick.successful, statusRead])]
        exact ih state rowYears datedLater
      | some status =>
        cases reasonRead : tick.reason with
        | none =>
          rw [failed_tick state tick time stored (by simp [Tick.successful, reasonRead])]
          exact ih state rowYears datedLater
        | some reason =>
          obtain ⟨lastSeen, inserted⟩ := tick_rows state.loop tick time stored status reason statusRead reasonRead
          have rows : (state.step (.tick tick time stored)).rows =
              state.rows ++ persisted (fastLoopTick state.loop tick) time stored := rfl
          have years : ∀ row ∈ (state.step (.tick tick time stored)).rows, FourDigits row.second := by
            intro row among
            rw [rows, inserted] at among
            rcases List.mem_append.mp among with old | new
            · exact rowYears row old
            · split at new
              · rw [List.mem_singleton.mp new]
                exact here
              · cases new
          rw [ih _ years datedLater, rows, inserted, List.filter_append, List.append_assoc]
          congr 1
          have loop : (state.step (.tick tick time stored)).loop.ring.lastSeen = some reason := lastSeen
          rw [loop]
          dsimp only
          by_cases changed : state.loop.ring.lastSeen ≠ some reason ∧ stored = true
          · rw [if_pos changed, List.filter_cons, List.filter_nil]
            split <;> rename_i survives
            · rw [if_pos ⟨changed.1, changed.2, survives⟩]
              rfl
            · rw [if_neg fun all => survives all.2.2]
              rfl
          · rw [if_neg changed, if_neg fun all => changed ⟨all.1, all.2.1⟩]
            rfl
    | prune now deleted =>
      cases deleted with
      | false => exact ih state rowYears datedLater
      | true =>
        have rows : (state.step (.prune now true)).rows =
            state.rows.filter fun row => decide (now - retentionSeconds ≤ row.second) := prune_rows _ now rowYears here
        have years : ∀ row ∈ (state.step (.prune now true)).rows, FourDigits row.second := by
          intro row among
          rw [rows] at among
          exact rowYears row (List.mem_of_mem_filter among)
        rw [ih _ years datedLater, rows, List.filter_filter]
        congr 1
        refine List.filter_congr fun row _ => ?_
        rw [HistoryRow.survives, HistoryRow.survives, List.all_cons, Bool.and_comm]
    | restart => exact ih (state.step .restart) rowYears datedLater

def HistoryState.start : HistoryState := { loop := .start, rows := [] }

-- In every run the table holds exactly the changes of the transfer reason that were
-- stored and that no working prune found older than seven days, in the order they came.
theorem history_retained (labels : List HistoryLabel) (dated : ∀ label ∈ labels, label.Dated) :
    (HistoryState.start.steps labels).rows = retained none labels :=
  steps_rows labels .start nofun dated

def reading (reason : BitVec 16) (nowMs : Nat) : Tick :=
  { status := some stOnline, reason := some reason, nowMs := nowMs, battery := none }

-- A change, the same reason again, another change nine days later, and a prune.
def nineDays : List HistoryLabel :=
  [.tick (reading 8 200) 1700000000250 true, .tick (reading 8 400) 1700000000450 true,
    .tick (reading 2 600) 1700777600001 true, .prune 1700777601 true, .restart]

theorem old_change_pruned :
    (HistoryState.start.steps nineDays).rows =
      [{ time := 1700777600001
         row := { reasonCode := 2, reasonStr := "LowInputVoltage", statusBits := stOnline } }] :=
  (history_retained nineDays (by decide +kernel)).trans (by decide +kernel)

end AiriesUps.Monitor
