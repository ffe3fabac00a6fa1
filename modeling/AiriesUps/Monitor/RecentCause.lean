import AiriesUps.Lib.RingLog
import AiriesUps.Monitor.XferRing

set_option autoImplicit false

namespace AiriesUps.Monitor

-- A push is the pair the fast loop gives xfer_ring_push: the clock and the reason read.
def XferRing.after (pushes : List XferEvent) : XferRing :=
  pushes.foldl (fun ring event => (ring.push event.timestampMs event.reason).1) XferRing.init

def lastPushed (pushes : List XferEvent) : Option (BitVec 16) := pushes.getLast?.map XferEvent.reason

-- The history list: the pushes whose reason differs from that of the push before.
def recorded : Option (BitVec 16) → List XferEvent → List XferEvent
  | _, [] => []
  | previous, event :: rest =>
    if previous = some event.reason then recorded previous rest else event :: recorded (some event.reason) rest

-- Not AcceptableInput, and not older than the window.
def relevant (nowMs lookbackMs : Nat) (event : XferEvent) : Bool :=
  decide (event.reason ≠ xferReasonAcceptableInput) && decide (nowMs ≤ event.timestampMs + lookbackMs)

-- The answer read off the plain history list.
def historyCause (log : List XferEvent) (nowMs lookbackMs : Nat) : BitVec 16 :=
  ((((RingLog.latest xferRingSize log).filter (relevant nowMs lookbackMs)).getLast?).map XferEvent.reason).getD
    transferReasonUnknown

structure XferRing.Keeps (ring : XferRing) (pushes : List XferEvent) : Prop where
  holds : RingLog.Holds xferRingSize ring.entries ring.head ring.count (recorded none pushes)
  seen : ring.lastSeen = lastPushed pushes

theorem ring_after_concat (pushes : List XferEvent) (event : XferEvent) :
    XferRing.after (pushes ++ [event]) = ((XferRing.after pushes).push event.timestampMs event.reason).1 := by
  rw [XferRing.after, List.foldl_append]
  rfl

theorem last_pushed_concat (pushes : List XferEvent) (event : XferEvent) :
    lastPushed (pushes ++ [event]) = some event.reason := by
  rw [lastPushed, List.getLast?_concat, Option.map_some]

theorem recorded_concat (previous : Option (BitVec 16)) (pushes : List XferEvent) (event : XferEvent) :
    recorded previous (pushes ++ [event]) =
      recorded previous pushes ++
        if (lastPushed pushes).or previous = some event.reason then [] else [event] := by
  induction pushes generalizing previous with
  | nil => by_cases same : previous = some event.reason <;> simp [recorded, lastPushed, same]
  | cons first rest ih =>
    have carried : (lastPushed (first :: rest)).or previous = (lastPushed rest).or (some first.reason) := by
      rw [lastPushed, lastPushed, List.getLast?_cons]
      cases rest.getLast? <;> simp
    rw [List.cons_append, recorded, recorded, carried]
    split
    case isTrue same => rw [ih, same]
    case isFalse => rw [ih, List.cons_append]

theorem recorded_sublist (previous : Option (BitVec 16)) (pushes : List XferEvent) :
    (recorded previous pushes).Sublist pushes := by
  induction pushes generalizing previous with
  | nil => exact List.Sublist.slnil
  | cons first rest ih =>
    rw [recorded]
    split
    · exact (ih _).cons _
    · exact (ih _).cons_cons _

theorem push_records_iff (ring : XferRing) (nowMs : Nat) (reason : BitVec 16) :
    (ring.push nowMs reason).2 = true ↔ ring.lastSeen ≠ some reason := by
  rw [XferRing.push]
  split <;> simp_all

theorem push_keeps (ring : XferRing) (pushes : List XferEvent) (event : XferEvent) (keeps : ring.Keeps pushes) :
    (ring.push event.timestampMs event.reason).1.Keeps (pushes ++ [event]) := by
  by_cases repeated : ring.lastSeen = some event.reason
  · have same : lastPushed pushes = some event.reason := keeps.seen ▸ repeated
    rw [XferRing.push, if_pos repeated]
    refine ⟨?_, ?_⟩
    · rw [recorded_concat, same, Option.some_or, if_pos rfl, List.append_nil]
      exact keeps.holds
    · rw [last_pushed_concat]
      exact repeated
  · have differs : lastPushed pushes ≠ some event.reason := keeps.seen ▸ repeated
    rw [XferRing.push, if_neg repeated]
    refine ⟨?_, ?_⟩
    · rw [recorded_concat, Option.or_none, if_neg differs]
      exact RingLog.holds_push xferRingSize _ _ _ _ event (by decide) keeps.holds
    · rw [last_pushed_concat]

theorem ring_keeps (pushes : List XferEvent) : (XferRing.after pushes).Keeps pushes := by
  induction pushes using List.reverseRecOn with
  | nil => exact ⟨RingLog.holds_empty xferRingSize _, rfl⟩
  | append_singleton earlier event ih =>
    rw [ring_after_concat]
    exact push_keeps _ earlier event ih

-- The scan of xfer_ring_recent_cause; the cutoff of a window longer than the uptime is 0.
theorem recent_cause_scan (ring : XferRing) (nowMs lookbackMs : Nat) :
    ring.recentCause nowMs lookbackMs =
      ((ring.entries.take ring.count).foldl
        (RingLog.scan (relevant nowMs lookbackMs) XferEvent.reason XferEvent.timestampMs)
        (transferReasonUnknown, 0)).1 := by
  rw [XferRing.recentCause]
  congr 2
  funext best event
  rw [RingLog.scan, relevant]
  by_cases old : event.timestampMs < nowMs - lookbackMs
  · rw [if_pos old, decide_eq_false (show ¬nowMs ≤ event.timestampMs + lookbackMs by omega), Bool.and_false, Bool.false_and]
    rfl
  · rw [if_neg old, decide_eq_true (show nowMs ≤ event.timestampMs + lookbackMs by omega), Bool.and_true]
    by_cases acceptable : event.reason = xferReasonAcceptableInput
    · simp [acceptable]
    · simp [acceptable]

theorem recent_cause_history (pushes : List XferEvent)
    (increasing : pushes.Pairwise fun earlier later => earlier.timestampMs < later.timestampMs)
    (positive : ∀ event ∈ pushes, 0 < event.timestampMs) (nowMs lookbackMs : Nat) :
    (XferRing.after pushes).recentCause nowMs lookbackMs = historyCause (recorded none pushes) nowMs lookbackMs := by
  have last : (RingLog.latest xferRingSize (recorded none pushes)).Sublist pushes :=
    (List.drop_sublist _ _).trans (recorded_sublist none pushes)
  rw [recent_cause_scan, historyCause]
  exact RingLog.scan_latest _ _ _ _ _
    (RingLog.holds_member xferRingSize _ _ _ _ (by decide) (ring_keeps pushes).holds) (increasing.sublist last)
    (fun event member => positive event (last.subset member)) transferReasonUnknown

theorem ring_is_history (pushes : List XferEvent)
    (increasing : pushes.Pairwise fun earlier later => earlier.timestampMs < later.timestampMs)
    (positive : ∀ event ∈ pushes, 0 < event.timestampMs) :
    (∀ earlier event later, pushes = earlier ++ event :: later →
      (((XferRing.after earlier).push event.timestampMs event.reason).2 = true ↔ lastPushed earlier ≠ some event.reason)) ∧
    ∀ nowMs lookbackMs,
      (XferRing.after pushes).recentCause nowMs lookbackMs = historyCause (recorded none pushes) nowMs lookbackMs := by
  refine ⟨?_, recent_cause_history pushes increasing positive⟩
  intro earlier event later _
  rw [push_records_iff, (ring_keeps earlier).seen]

-- A glitch: a rapid change of the input, acceptable again one poll later.
def glitch : List XferEvent := [⟨200, 8⟩, ⟨400, 4⟩, ⟨600, 4⟩, ⟨800, 8⟩]

theorem glitch_is_history :
    (∀ earlier event later, glitch = earlier ++ event :: later →
      (((XferRing.after earlier).push event.timestampMs event.reason).2 = true ↔ lastPushed earlier ≠ some event.reason)) ∧
    ∀ nowMs lookbackMs,
      (XferRing.after glitch).recentCause nowMs lookbackMs = historyCause (recorded none glitch) nowMs lookbackMs :=
  ring_is_history glitch (by decide) (by decide)

end AiriesUps.Monitor
