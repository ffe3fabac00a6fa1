import AiriesUps.Api.Sse
import AiriesUps.Lib.Tables
import Mathlib.Logic.Function.Iterate

set_option autoImplicit false

namespace AiriesUps.Api

def sseMaxSubscribers : Nat := 8

-- A subscriber and whether it is in a slot of the broadcaster. cached and late are ghost:
-- the numbers of the cached frames queued to it, in that order, and whether it
-- subscribed after the latest broadcast of one.
structure Subscription where
  subscriber : Subscriber
  attached : Bool
  cached : List Nat
  late : Bool

-- Where sse_broadcaster_emit_cached is: outside, before its first locked section, and
-- between the two. The number counts the calls.
inductive EmitPc where
  | idle
  | broadcasting (number : Nat) (frame : Bytes)
  | replacing (number : Nat) (frame : Bytes)
deriving DecidableEq, Repr

-- struct sse_broadcaster, its emitter, and the number of the last call that returned.
structure Broadcaster where
  subs : List Subscription
  shuttingDown : Bool
  cachedFrame : Option (Nat × Bytes)
  emitter : EmitPc
  returned : Nat

def Broadcaster.create : Broadcaster :=
  { subs := [], shuttingDown := false, cachedFrame := none, emitter := .idle, returned := 0 }

def Broadcaster.nSubs (broadcaster : Broadcaster) : Nat := broadcaster.subs.countP Subscription.attached

def Subscription.isOpen (entry : Subscription) : Bool := entry.attached && !entry.subscriber.closed

def Subscription.enqueue (frame : Bytes) (entry : Subscription) : Subscription :=
  if entry.attached then { entry with subscriber := subscriberEnqueueLocked entry.subscriber frame } else entry

-- The same for a cached frame, which is recorded.
def Subscription.enqueueCached (number : Nat) (frame : Bytes) (entry : Subscription) : Subscription :=
  { entry.enqueue frame with
    cached := if entry.isOpen then entry.cached ++ [number] else entry.cached
    late := false }

def Subscription.shut (entry : Subscription) : Subscription :=
  if entry.attached then { entry with subscriber := { entry.subscriber with closed := true } } else entry

-- The second section of sse_subscriber_close.
def subscriberDrain (subscriber : Subscriber) : Subscriber :=
  { Nat.iterate subscriberDropOldest subscriber.ring.count subscriber with closed := true }

-- The new subscriber, primed with the cached frame.
def primedSubscription : Option (Nat × Bytes) → Subscription
  | none => { subscriber := .subscribed, attached := true, cached := [], late := true }
  | some (number, frame) =>
    if frame.length > 0 then
      { subscriber := subscriberEnqueueLocked .subscribed frame, attached := true, cached := [number], late := true }
    else { subscriber := .subscribed, attached := true, cached := [], late := true }

def sseBroadcasterSubscribe (broadcaster : Broadcaster) : Broadcaster :=
  if broadcaster.shuttingDown || decide (broadcaster.nSubs ≥ sseMaxSubscribers) then broadcaster
  else { broadcaster with subs := broadcaster.subs ++ [primedSubscription broadcaster.cachedFrame] }

-- A locked section each, but for emitCached, the call of the one emitter. emit is
-- sse_broadcaster_emit of any thread, read what takes frames out of a queue.
inductive ReplayLabel where
  | emitCached (eventType payload : String)
  | broadcast
  | replace
  | emit (eventType payload : String)
  | subscribe
  | detach (index : Nat)
  | drain (index : Nat)
  | read (index max : Nat)
  | shutdown
deriving DecidableEq, Repr

def Broadcaster.change (broadcaster : Broadcaster) (index : Nat) (change : Subscription → Subscription) : Broadcaster :=
  { broadcaster with subs := broadcaster.subs.modify index change }

def Subscription.detach (entry : Subscription) : Subscription := { entry with attached := false }

def Subscription.drain (entry : Subscription) : Subscription :=
  if entry.attached then entry else { entry with subscriber := subscriberDrain entry.subscriber }

def Subscription.read (max : Nat) (entry : Subscription) : Subscription :=
  if entry.subscriber.ring.count = 0 then entry else { entry with subscriber := (drainHead entry.subscriber max).2 }

def Broadcaster.step : Runs.Step Broadcaster ReplayLabel
  | state, .emitCached eventType payload =>
    match state.emitter with
    | .idle => some { state with emitter := .broadcasting (state.returned + 1) (formatFrame eventType payload) }
    | _ => none
  | state, .broadcast =>
    match state.emitter with
    | .broadcasting number frame =>
      some { state with subs := state.subs.map (Subscription.enqueueCached number frame), emitter := .replacing number frame }
    | _ => none
  | state, .replace =>
    match state.emitter with
    | .replacing number frame =>
      some { state with cachedFrame := some (number, frame), emitter := .idle, returned := number }
    | _ => none
  | state, .emit eventType payload =>
    some { state with subs := state.subs.map (Subscription.enqueue (formatFrame eventType payload)) }
  | state, .subscribe => some (sseBroadcasterSubscribe state)
  | state, .detach index => some (state.change index Subscription.detach)
  | state, .drain index => some (state.change index Subscription.drain)
  | state, .read index max => some (state.change index (Subscription.read max))
  | state, .shutdown => some { state with shuttingDown := true, subs := state.subs.map Subscription.shut }

-- Once a call has returned, every open subscriber was queued its frame or a later one;
-- and no subscriber was queued an older cached frame after a newer one.
def Broadcaster.Current (state : Broadcaster) : Prop :=
  0 < state.returned → ∀ entry ∈ state.subs, entry.isOpen = true → ∃ number ∈ entry.cached, state.returned ≤ number

structure Replayed (_ : List ReplayLabel) (_ : Broadcaster) (_ : ReplayLabel) (state : Broadcaster) : Prop where
  current : state.Current
  ordered : ∀ entry ∈ state.subs, entry.cached.Pairwise (· ≤ ·)

-- When the cache is replaced, no subscriber is open that joined after the broadcast.
def NoneJoined (state : Broadcaster) (label : ReplayLabel) : Prop :=
  label = .replace → ∀ entry ∈ state.subs, entry.late = true → entry.isOpen = false

-- A change of a subscription that queues no cached frame and opens nothing.
structure Quieter (before after : Subscription) : Prop where
  cached : after.cached = before.cached
  late : after.late = before.late
  isOpen : after.isOpen = true → before.isOpen = true

theorem drop_closed (subscriber : Subscriber) : (subscriberDropOldest subscriber).closed = subscriber.closed := by
  rw [subscriberDropOldest]
  split <;> rfl

theorem enqueue_closed (subscriber : Subscriber) (frame : Bytes) :
    (subscriberEnqueueLocked subscriber frame).closed = subscriber.closed := by
  rw [subscriberEnqueueLocked]
  split
  · rfl
  split
  · exact drop_closed subscriber
  · rfl

theorem enqueue_quieter (frame : Bytes) (entry : Subscription) : Quieter entry (entry.enqueue frame) := by
  rw [Subscription.enqueue]
  split
  · refine ⟨rfl, rfl, fun isOpen => ?_⟩
    rw [Subscription.isOpen] at isOpen ⊢
    rwa [enqueue_closed] at isOpen
  · exact ⟨rfl, rfl, id⟩

theorem shut_quieter (entry : Subscription) : Quieter entry entry.shut := by
  rw [Subscription.shut]
  split
  · refine ⟨rfl, rfl, fun isOpen => ?_⟩
    rw [Subscription.isOpen, Bool.not_true, Bool.and_false] at isOpen
    cases isOpen
  · exact ⟨rfl, rfl, id⟩

theorem detach_quieter (entry : Subscription) : Quieter entry entry.detach :=
  ⟨rfl, rfl, fun isOpen => by cases isOpen⟩

theorem drain_quieter (entry : Subscription) : Quieter entry entry.drain := by
  rw [Subscription.drain]
  split
  · exact ⟨rfl, rfl, id⟩
  · refine ⟨rfl, rfl, fun isOpen => ?_⟩
    rw [Subscription.isOpen, subscriberDrain, Bool.not_true, Bool.and_false] at isOpen
    cases isOpen

theorem drain_head_closed (subscriber : Subscriber) (max : Nat) :
    (drainHead subscriber max).2.closed = subscriber.closed := by
  rw [drainHead]
  split <;> rfl

theorem read_quieter (max : Nat) (entry : Subscription) : Quieter entry (entry.read max) := by
  rw [Subscription.read]
  split
  · exact ⟨rfl, rfl, id⟩
  · refine ⟨rfl, rfl, fun isOpen => ?_⟩
    rw [Subscription.isOpen] at isOpen ⊢
    rwa [drain_head_closed] at isOpen

theorem map_quieter (subs : List Subscription) (change : Subscription → Subscription)
    (quieter : ∀ entry, Quieter entry (change entry)) :
    ∀ after ∈ subs.map change, ∃ before ∈ subs, Quieter before after := by
  intro after member
  obtain ⟨before, old, rfl⟩ := List.mem_map.mp member
  exact ⟨before, old, quieter before⟩

theorem modify_quieter (subs : List Subscription) (index : Nat) (change : Subscription → Subscription)
    (quieter : ∀ entry, Quieter entry (change entry)) :
    ∀ after ∈ subs.modify index change, ∃ before ∈ subs, Quieter before after := by
  intro after member
  rcases Tables.modify_member subs index change after member with ⟨before, found, rfl⟩ | old
  · exact ⟨before, List.mem_of_getElem? found, quieter before⟩
  · exact ⟨after, old, rfl, rfl, id⟩

theorem format_frame_nonempty (eventType payload : String) : formatFrame eventType payload ≠ [] := by
  simp [formatFrame]

-- The number of the latest cached frame that was broadcast.
def Broadcaster.latest (state : Broadcaster) : Nat :=
  match state.emitter with
  | .replacing number _ => number
  | _ => state.returned

-- What the cached frames queued to a subscriber say of when it joined.
structure EntryNumbered (state : Broadcaster) (entry : Subscription) : Prop where
  ordered : entry.cached.Pairwise (· ≤ ·)
  bounded : ∀ number ∈ entry.cached, number ≤ state.latest
  missed : entry.late = true → ∀ number ∈ entry.cached, number ≤ state.returned
  reached : ∀ number frame, state.emitter = .replacing number frame → entry.late = false → entry.isOpen = true →
    number ∈ entry.cached

structure Numbered (state : Broadcaster) : Prop where
  cache : 0 < state.returned → ∃ frame, state.cachedFrame = some (state.returned, frame)
  primes : ∀ number frame, state.cachedFrame = some (number, frame) → number = state.returned ∧ frame ≠ []
  emitter : ∀ number frame, state.emitter = .broadcasting number frame ∨ state.emitter = .replacing number frame →
    number = state.returned + 1 ∧ frame ≠ []
  entries : ∀ entry ∈ state.subs, EntryNumbered state entry

-- Everything a step can do to what the numbers speak of.
inductive ReplayStep (state : Broadcaster) (label : ReplayLabel) : Broadcaster → Prop where
  | began (frame : Bytes) (idle : state.emitter = .idle) (nonempty : frame ≠ []) (silent : label ≠ .replace) :
    ReplayStep state label { state with emitter := .broadcasting (state.returned + 1) frame }
  | broadcast (number : Nat) (frame : Bytes) (pending : state.emitter = .broadcasting number frame)
    (silent : label ≠ .replace) :
    ReplayStep state label
      { state with subs := state.subs.map (Subscription.enqueueCached number frame), emitter := .replacing number frame }
  | replaced (number : Nat) (frame : Bytes) (pending : state.emitter = .replacing number frame) (same : label = .replace) :
    ReplayStep state label { state with cachedFrame := some (number, frame), emitter := .idle, returned := number }
  | joined (entry : Subscription) (late : entry.late = true)
    (primed : ∀ frame, state.cachedFrame = some (state.returned, frame) → entry.cached = [state.returned])
    (unprimed : state.cachedFrame = none → entry.cached = []) (silent : label ≠ .replace) :
    ReplayStep state label { state with subs := state.subs ++ [entry] }
  | quiet (subs : List Subscription) (shuttingDown : Bool)
    (quieter : ∀ after ∈ subs, ∃ before ∈ state.subs, Quieter before after) (silent : label ≠ .replace) :
    ReplayStep state label { state with subs := subs, shuttingDown := shuttingDown }

theorem primed_late (cachedFrame : Option (Nat × Bytes)) : (primedSubscription cachedFrame).late = true := by
  cases cachedFrame with
  | none => rfl
  | some pair =>
    rw [primedSubscription]
    split <;> rfl

theorem subscribe_cases (state : Broadcaster) (numbered : Numbered state) :
    ReplayStep state .subscribe (sseBroadcasterSubscribe state) := by
  have silent : ReplayLabel.subscribe ≠ .replace := fun wrong => by cases wrong
  rw [sseBroadcasterSubscribe]
  split
  · exact .quiet state.subs state.shuttingDown (fun after member => ⟨after, member, rfl, rfl, id⟩) silent
  · refine .joined _ (primed_late _) (fun frame cached => ?_) (fun missing => ?_) silent
    · have long : frame.length > 0 := List.length_pos_iff.mpr (numbered.primes _ frame cached).2
      rw [cached, primedSubscription, if_pos long]
    · rw [missing, primedSubscription]

theorem replay_step_cases (state next : Broadcaster) (label : ReplayLabel) (numbered : Numbered state)
    (taken : state.step label = some next) : ReplayStep state label next := by
  cases label with
  | emitCached eventType payload =>
    rw [Broadcaster.step] at taken
    split at taken
    · cases taken
      exact .began _ ‹_› (format_frame_nonempty eventType payload) fun wrong => by cases wrong
    · cases taken
  | broadcast =>
    rw [Broadcaster.step] at taken
    split at taken
    · cases taken
      exact .broadcast _ _ ‹_› fun wrong => by cases wrong
    · cases taken
  | replace =>
    rw [Broadcaster.step] at taken
    split at taken
    · cases taken
      exact .replaced _ _ ‹_› rfl
    · cases taken
  | emit eventType payload =>
    cases taken
    exact .quiet _ state.shuttingDown (map_quieter _ _ (enqueue_quieter _)) fun wrong => by cases wrong
  | subscribe =>
    cases taken
    exact subscribe_cases state numbered
  | detach index =>
    cases taken
    exact .quiet _ state.shuttingDown (modify_quieter _ _ _ detach_quieter) fun wrong => by cases wrong
  | drain index =>
    cases taken
    exact .quiet _ state.shuttingDown (modify_quieter _ _ _ drain_quieter) fun wrong => by cases wrong
  | read index max =>
    cases taken
    exact .quiet _ state.shuttingDown (modify_quieter _ _ _ (read_quieter max)) fun wrong => by cases wrong
  | shutdown =>
    cases taken
    exact .quiet _ true (map_quieter _ _ shut_quieter) fun wrong => by cases wrong

theorem entry_quieter (state : Broadcaster) (before after : Subscription) (numbered : EntryNumbered state before)
    (quieter : Quieter before after) : EntryNumbered state after := by
  constructor
  · rw [quieter.cached]
    exact numbered.ordered
  · rw [quieter.cached]
    exact numbered.bounded
  · rw [quieter.cached, quieter.late]
    exact numbered.missed
  · intro number frame pending early isOpen
    rw [quieter.cached]
    exact numbered.reached number frame pending (quieter.late ▸ early) (quieter.isOpen isOpen)

-- An emitter that is not between its two sections goes by the last call alone.
theorem entry_waiting (state next : Broadcaster) (entry : Subscription) (numbered : EntryNumbered state entry)
    (waiting : ∀ number frame, next.emitter ≠ .replacing number frame) (latest : state.latest ≤ next.returned)
    (returned : state.returned ≤ next.returned) : EntryNumbered next entry := by
  have same : next.latest = next.returned := by
    rw [Broadcaster.latest]
    split
    · exact absurd ‹_› (waiting _ _)
    · rfl
  refine ⟨numbered.ordered, fun number member => ?_, fun late number member => ?_, fun number frame pending => ?_⟩
  · rw [same]
    exact Nat.le_trans (numbered.bounded number member) latest
  · exact Nat.le_trans (numbered.missed late number member) returned
  · exact absurd pending (waiting number frame)

theorem entry_broadcast (state : Broadcaster) (number : Nat) (frame : Bytes) (entry : Subscription)
    (numbered : EntryNumbered state entry) (newer : state.latest ≤ number) (subs : List Subscription) :
    EntryNumbered { state with subs := subs, emitter := .replacing number frame } (entry.enqueueCached number frame) := by
  have older : ∀ other ∈ entry.cached, other ≤ number := fun other member => Nat.le_trans (numbered.bounded other member) newer
  refine ⟨?_, ?_, (fun late => by cases late), ?_⟩
  · rw [Subscription.enqueueCached]
    dsimp only
    split
    · refine List.pairwise_append.mpr ⟨numbered.ordered, List.pairwise_singleton _ _, fun other member last same => ?_⟩
      rw [List.mem_singleton.mp same]
      exact older other member
    · exact numbered.ordered
  · intro other member
    change other ≤ number
    rw [Subscription.enqueueCached] at member
    dsimp only at member
    split at member
    · rcases List.mem_append.mp member with old | new
      · exact older other old
      · exact Nat.le_of_eq (List.mem_singleton.mp new)
    · exact older other member
  · intro other others pending _ isOpen
    cases pending
    have wasOpen : entry.isOpen = true := (enqueue_quieter frame entry).isOpen isOpen
    rw [Subscription.enqueueCached, wasOpen]
    exact List.mem_append_right _ (List.mem_singleton_self number)

-- A new subscriber is queued nothing but the frame of the last call that returned.
theorem entry_joined (state : Broadcaster) (entry : Subscription) (numbered : Numbered state) (late : entry.late = true)
    (primed : ∀ frame, state.cachedFrame = some (state.returned, frame) → entry.cached = [state.returned])
    (unprimed : state.cachedFrame = none → entry.cached = []) : EntryNumbered state entry := by
  have queued : entry.cached = [] ∨ entry.cached = [state.returned] := by
    cases cached : state.cachedFrame with
    | none => exact Or.inl (unprimed cached)
    | some pair =>
      obtain ⟨number, frame⟩ := pair
      obtain ⟨same, _⟩ := numbered.primes number frame cached
      exact Or.inr (primed frame (by rw [cached, same]))
  have small : ∀ number ∈ entry.cached, number ≤ state.returned := by
    intro number queuedNumber
    rcases queued with none | one
    · rw [none] at queuedNumber
      cases queuedNumber
    · rw [one] at queuedNumber
      exact Nat.le_of_eq (List.mem_singleton.mp queuedNumber)
  have latest : state.returned ≤ state.latest := by
    rw [Broadcaster.latest]
    split
    · have called := numbered.emitter _ _ (Or.inr ‹_›)
      omega
    · exact Nat.le_refl _
  refine ⟨?_, fun number member => Nat.le_trans (small number member) latest, fun _ => small, ?_⟩
  · rcases queued with none | one
    · rw [none]
      exact List.Pairwise.nil
    · rw [one]
      exact List.pairwise_singleton _ _
  · intro number frame pending early
    rw [late] at early
    cases early

theorem numbered_step (state next : Broadcaster) (label : ReplayLabel) (numbered : Numbered state)
    (taken : state.step label = some next) : Numbered next := by
  have outcome := replay_step_cases state next label numbered taken
  cases outcome with
  | began frame idle nonempty silent =>
    have latest : state.latest = state.returned := by rw [Broadcaster.latest, idle]
    refine ⟨numbered.cache, numbered.primes, ?_, ?_⟩
    · rintro number other (pending | pending)
      · cases pending
        exact ⟨rfl, nonempty⟩
      · cases pending
    · intro entry member
      exact entry_waiting state _ entry (numbered.entries entry member) (fun _ _ wrong => by cases wrong)
        (Nat.le_of_eq latest) (Nat.le_refl _)
  | broadcast number frame pending silent =>
    have called := numbered.emitter number frame (Or.inl pending)
    have latest : state.latest = state.returned := by rw [Broadcaster.latest, pending]
    refine ⟨numbered.cache, numbered.primes, ?_, ?_⟩
    · rintro other others (wrong | same)
      · cases wrong
      · cases same
        exact called
    · intro entry member
      obtain ⟨before, old, rfl⟩ := List.mem_map.mp member
      exact entry_broadcast state number frame before (numbered.entries before old) (by omega) _
  | replaced number frame pending same =>
    have called := numbered.emitter number frame (Or.inr pending)
    have latest : state.latest = number := by rw [Broadcaster.latest, pending]
    refine ⟨fun _ => ⟨frame, rfl⟩, ?_, ?_, ?_⟩
    · intro other others cached
      cases cached
      exact ⟨rfl, called.2⟩
    · rintro other others (wrong | wrong) <;> cases wrong
    · intro entry member
      refine entry_waiting state _ entry (numbered.entries entry member) (fun _ _ wrong => by cases wrong)
        (Nat.le_of_eq latest) ?_
      change state.returned ≤ number
      omega
  | joined entry late primed unprimed silent =>
    refine ⟨numbered.cache, numbered.primes, numbered.emitter, ?_⟩
    intro other member
    rcases List.mem_append.mp member with old | new
    · have kept := numbered.entries other old
      exact ⟨kept.ordered, kept.bounded, kept.missed, kept.reached⟩
    · rw [List.mem_singleton.mp new]
      have joined := entry_joined state entry numbered late primed unprimed
      exact ⟨joined.ordered, joined.bounded, joined.missed, joined.reached⟩
  | quiet subs shuttingDown quieter silent =>
    refine ⟨numbered.cache, numbered.primes, numbered.emitter, ?_⟩
    intro after member
    obtain ⟨before, old, quiet⟩ := quieter after member
    have kept := entry_quieter state before after (numbered.entries before old) quiet
    exact ⟨kept.ordered, kept.bounded, kept.missed, kept.reached⟩

theorem create_numbered : Numbered .create :=
  ⟨fun wrong => absurd wrong (Nat.lt_irrefl 0), (fun _ _ wrong => by cases wrong),
    (fun _ _ wrong => by rcases wrong with wrong | wrong <;> cases wrong), (fun _ member => by cases member)⟩

theorem current_step (state next : Broadcaster) (label : ReplayLabel) (numbered : Numbered state) (current : state.Current)
    (noneJoined : NoneJoined state label) (taken : state.step label = some next) : next.Current := by
  have outcome := replay_step_cases state next label numbered taken
  cases outcome with
  | began frame idle nonempty silent => exact current
  | broadcast number frame pending silent =>
    intro returned entry member isOpen
    obtain ⟨before, old, rfl⟩ := List.mem_map.mp member
    have wasOpen : before.isOpen = true := (enqueue_quieter frame before).isOpen isOpen
    obtain ⟨other, queued, late⟩ := current returned before old wasOpen
    refine ⟨other, ?_, late⟩
    rw [Subscription.enqueueCached, wasOpen]
    exact List.mem_append_left _ queued
  | replaced number frame pending same =>
    intro _ entry member isOpen
    have early : entry.late = false := by
      cases late : entry.late with
      | false => rfl
      | true =>
        have closed := noneJoined same entry member late
        cases closed.symm.trans isOpen
    exact ⟨number, (numbered.entries entry member).reached number frame pending early isOpen, Nat.le_refl number⟩
  | joined entry late primed unprimed silent =>
    intro returned other member isOpen
    rcases List.mem_append.mp member with old | new
    · exact current returned other old isOpen
    · obtain ⟨frame, cached⟩ := numbered.cache returned
      rw [List.mem_singleton.mp new, primed frame cached]
      exact ⟨state.returned, List.mem_singleton_self _, Nat.le_refl _⟩
  | quiet subs shuttingDown quieter silent =>
    intro returned after member isOpen
    obtain ⟨before, old, quiet⟩ := quieter after member
    rw [quiet.cached]
    exact current returned before old (quiet.isOpen isOpen)

-- A subscriber that joined after the broadcast and is still open shows at the return.
theorem joined_shows (state next : Broadcaster) (label : ReplayLabel) (numbered : Numbered state) (current : next.Current)
    (taken : state.step label = some next) : NoneJoined state label := by
  intro same entry member late
  have outcome := replay_step_cases state next label numbered taken
  cases outcome with
  | began frame idle nonempty silent => exact absurd same silent
  | broadcast number frame pending silent => exact absurd same silent
  | replaced number frame pending replaced =>
    have called := (numbered.emitter number frame (Or.inr pending)).1
    rw [Bool.eq_false_iff]
    intro isOpen
    obtain ⟨other, queued, newest⟩ := current (by change 0 < number; omega) entry member isOpen
    have older := (numbered.entries entry member).missed late other queued
    change number ≤ other at newest
    omega
  | joined other late primed unprimed silent => exact absurd same silent
  | quiet subs shuttingDown quieter silent => exact absurd same silent

theorem replay_current_iff (labels : List ReplayLabel) :
    Runs.EachStep Broadcaster.step .create labels Replayed ↔
      Runs.EachStep Broadcaster.step .create labels fun _ state label _ => NoneJoined state label := by
  constructor
  · refine Runs.each_step_imp Broadcaster.step _ _ _ (fun _ state => Numbered state) create_numbered ?_ ?_ labels
    · exact fun _ state label next numbered _ taken => numbered_step state next label numbered taken
    · exact fun _ state label next numbered replayed taken => joined_shows state next label numbered replayed.current taken
  · refine Runs.each_step_imp Broadcaster.step _ _ _ (fun _ state => Numbered state ∧ state.Current)
      ⟨create_numbered, fun wrong => absurd wrong (Nat.lt_irrefl 0)⟩ ?_ ?_ labels
    · exact fun _ state label next both noneJoined taken =>
        ⟨numbered_step state next label both.1 taken, current_step state next label both.1 both.2 noneJoined taken⟩
    · intro _ state label next both noneJoined taken
      have numbered := numbered_step state next label both.1 taken
      exact ⟨current_step state next label both.1 both.2 noneJoined taken, fun entry member =>
        (numbered.entries entry member).ordered⟩

-- A client connects between the two sections of the second emission.
def joinedBetween : List ReplayLabel :=
  [.emitCached "state" "1", .broadcast, .replace, .emitCached "state" "2", .broadcast, .subscribe, .replace]

theorem joined_between_stale : ¬Runs.EachStep Broadcaster.step .create joinedBetween Replayed := by
  intro replayed
  have last := Runs.each_step_final _ _ _ _ replayed (joinedBetween.take 6) .replace [] rfl (by decide +kernel)
  have returned : (Runs.final Broadcaster.step .create joinedBetween).returned = 2 := by decide +kernel
  have stale : ∃ entry ∈ (Runs.final Broadcaster.step .create joinedBetween).subs,
      entry.isOpen = true ∧ entry.cached = [1] := by decide +kernel
  obtain ⟨entry, member, isOpen, cached⟩ := stale
  obtain ⟨number, queued, newest⟩ := last.current (by decide +kernel) entry member isOpen
  rw [cached] at queued
  rw [List.mem_singleton.mp queued] at newest
  exact absurd (returned ▸ newest : 2 ≤ 1) (by decide)

end AiriesUps.Api
