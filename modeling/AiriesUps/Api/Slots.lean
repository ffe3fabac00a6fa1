import AiriesUps.Api.QueueFrames
import AiriesUps.Api.Replay

set_option autoImplicit false

namespace AiriesUps.Api.Slots

-- A subscriber is live from its subscription to the start of its close, whose
-- first section leaves it detached.
inductive Life where
  | live
  | detached
  | freed
deriving DecidableEq, Repr

-- struct sse_subscriber: slot is none for -1. primed is the cached frame it was given,
-- joined the number of broadcasts begun before it subscribed (both ghost).
structure Member where
  delivery : Delivery
  slot : Option Nat
  life : Life
  primed : List Bytes
  joined : Nat

-- What the holder of the broadcaster's mutex is doing: nothing, or a loop over the
-- slots at the given position. cached marks the broadcast of sse_broadcaster_emit_cached.
inductive Holder where
  | idle
  | broadcasting (frame : Bytes) (cached : Bool) (position : Nat)
  | closing (position : Nat)
deriving DecidableEq, Repr

-- struct sse_broadcaster, whose slots hold positions in members: every subscriber that
-- ever was. replacing are the frames of the emit_cached calls between their two
-- sections, emitted the frames broadcast so far (ghost).
structure Broadcaster where
  subs : List (Option Nat)
  nSubs : Nat
  shuttingDown : Bool
  cachedFrame : Option Bytes
  holder : Holder
  replacing : List Bytes
  members : List Member
  emitted : List Bytes

def Broadcaster.create : Broadcaster :=
  { subs := List.replicate sseMaxSubscribers none, nSubs := 0, shuttingDown := false, cachedFrame := none, holder := .idle,
    replacing := [], members := [], emitted := [] }

-- A new subscriber, primed with the cached frame if there is one.
def primedDelivery (cachedFrame : Option Bytes) : Delivery :=
  match cachedFrame with
  | none => .start
  | some frame =>
    if frame.length > 0 then
      { Delivery.start with subscriber := subscriberEnqueueLocked .subscribed frame, queued := [frame] }
    else .start

-- The subscriber's number, or none for NULL, and the broadcaster after it.
def sseBroadcasterSubscribe (state : Broadcaster) : Option Nat × Broadcaster :=
  if state.shuttingDown || decide (state.nSubs ≥ sseMaxSubscribers) then (none, state)
  else
    let number := state.members.length
    let delivery := primedDelivery state.cachedFrame
    let slot := state.subs.findIdx? Option.isNone
    let subs := match slot with
      | some position => state.subs.set position (some number)
      | none => state.subs
    let member : Member :=
      { delivery := delivery, slot := slot, life := .live, primed := delivery.queued, joined := state.emitted.length }
    (some number, { state with subs := subs, nSubs := state.nSubs + 1, members := state.members ++ [member] })

-- The first section of sse_subscriber_close.
def subscriberDetach (state : Broadcaster) (number : Nat) (member : Member) : Broadcaster :=
  let detached := { state with members := state.members.modify number fun member => { member with life := .detached } }
  match member.slot with
  | none => detached
  | some position =>
    if state.subs[position]? = some (some number) then
      { detached with subs := state.subs.set position none, nSubs := state.nSubs - 1 }
    else detached

-- Its second section, after which the subscriber is freed.
def Member.free (member : Member) : Member :=
  { member with
    life := .freed
    delivery := { member.delivery with subscriber := subscriberDrain member.delivery.subscriber } }

-- One operation under the subscriber's own mutex.
def Broadcaster.operate (state : Broadcaster) (number : Nat) (label : DeliveryLabel) : Option Broadcaster :=
  match state.members[number]? with
  | none => none
  | some member =>
    if member.life = .freed then none
    else
      match member.delivery.step label with
      | none => none
      | some delivery =>
        some { state with members := state.members.modify number fun member => { member with delivery := delivery } }

-- One turn of the loop over the slots.
def Broadcaster.visit (state : Broadcaster) (position : Nat) (label : DeliveryLabel) : Option Broadcaster :=
  match state.subs[position]? with
  | some (some number) => state.operate number label
  | _ => some state

-- The locked sections of the calls, with the turns of a loop over the slots one by one:
-- readers need only their own subscriber's mutex and run in between.
inductive SlotLabel where
  | subscribe
  | detach (number : Nat)
  | free (number : Nat)
  | emit (eventType payload : String)
  | emitCached (eventType payload : String)
  | replace (call : Nat)
  | shutdown
  | turn
  | read (number max : Nat)
  | readTimeout (number max : Nat)
deriving DecidableEq, Repr

def Broadcaster.locked (state : Broadcaster) (next : Option Broadcaster) : Option Broadcaster :=
  if state.holder = .idle then next else none

def Broadcaster.step : Runs.Step Broadcaster SlotLabel
  | state, .subscribe => state.locked (some (sseBroadcasterSubscribe state).2)
  | state, .detach number => state.locked <|
    match state.members[number]? with
    | some member => if member.life = .live then some (subscriberDetach state number member) else none
    | none => none
  | state, .free number =>
    match state.members[number]? with
    | some member =>
      if member.life = .detached then
        some { state with members := state.members.modify number Member.free }
      else none
    | none => none
  | state, .emit eventType payload =>
    let frame := formatFrame eventType payload
    state.locked (some { state with holder := .broadcasting frame false 0, emitted := state.emitted ++ [frame] })
  | state, .emitCached eventType payload =>
    let frame := formatFrame eventType payload
    state.locked (some { state with holder := .broadcasting frame true 0, emitted := state.emitted ++ [frame] })
  | state, .replace call => state.locked <|
    match state.replacing[call]? with
    | some frame => some { state with cachedFrame := some frame, replacing := state.replacing.eraseIdx call }
    | none => none
  | state, .shutdown => state.locked (some { state with shuttingDown := true, holder := .closing 0 })
  | state, .turn =>
    match state.holder with
    | .idle => none
    | .broadcasting frame cached position =>
      if position < sseMaxSubscribers then
        (state.visit position (.emit frame)).map fun next => { next with holder := .broadcasting frame cached (position + 1) }
      else
        some { state with holder := .idle, replacing := if cached then state.replacing ++ [frame] else state.replacing }
    | .closing position =>
      if position < sseMaxSubscribers then
        (state.visit position .shutdown).map fun next => { next with holder := .closing (position + 1) }
      else some { state with holder := .idle }
  | state, .read number max => state.operate number (.read max)
  | state, .readTimeout number max => state.operate number (.readTimeout max)

-- What holds in every state. No frame is missed either: with the mutex free a live open
-- subscriber was queued every frame emitted since it joined.
structure Accounted (state : Broadcaster) : Prop where
  table : state.subs.length = sseMaxSubscribers
  counted : state.nSubs = state.subs.countP Option.isSome
  limited : state.nSubs ≤ sseMaxSubscribers
  placed : ∀ (number : Nat) (member : Member), state.members[number]? = some member → member.life = .live →
    ∃ slot, member.slot = some slot ∧ ∀ position, state.subs[position]? = some (some number) ↔ position = slot
  occupants : ∀ number, some number ∈ state.subs → ∃ member, state.members[number]? = some member ∧ member.life = .live
  bounded : ∀ member ∈ state.members, member.delivery.frames.length ≤ sseQueueDepth
  suffix : ∀ member ∈ state.members, member.life ≠ .freed → member.delivery.frames.IsSuffix member.delivery.queued
  inOrder : ∀ member ∈ state.members, member.delivery.queued.IsPrefix (member.primed ++ state.emitted.drop member.joined)
  complete : state.holder = .idle → ∀ member ∈ state.members, member.life = .live →
    member.delivery.subscriber.closed = false →
      member.delivery.queued = member.primed ++ state.emitted.drop member.joined

-- What holds of every step: when a subscription fails, and how a frame leaves a queue.
structure Stepwise (past : List SlotLabel) (before : Broadcaster) (label : SlotLabel) (after : Broadcaster) : Prop where
  refused : label = .subscribe →
    ((sseBroadcasterSubscribe before).1 = none ↔ (∀ sub ∈ before.subs, sub.isSome = true) ∨ .shutdown ∈ past)
  kept : ∀ (number : Nat) (was is : Member), before.members[number]? = some was → after.members[number]? = some is →
    is.life ≠ .freed → FramesKept was.delivery is.delivery

def LiveAt (members : List Member) (number position : Nat) : Prop :=
  ∃ member, members[number]? = some member ∧ member.life = .live ∧ member.slot = some position

-- The slots hold the live subscribers, each where its own index says.
structure TableInv (state : Broadcaster) : Prop where
  table : state.subs.length = sseMaxSubscribers
  counted : state.nSubs = state.subs.countP Option.isSome
  occupied : ∀ position number, state.subs[position]? = some (some number) ↔ LiveAt state.members number position
  slotted : ∀ member ∈ state.members, member.life = .live → ∃ position, member.slot = some position

-- The frame of a broadcast that has not reached the subscriber's slot yet.
def Holder.awaited (holder : Holder) (slot : Option Nat) : List Bytes :=
  match holder, slot with
  | .broadcasting frame _ position, some slot => if position ≤ slot then [frame] else []
  | _, _ => []

structure MemberInv (state : Broadcaster) (member : Member) : Prop where
  reached : member.life ≠ .freed → ∃ labels, Runs.run Delivery.step .start labels = some member.delivery
  joined : member.joined ≤ state.emitted.length
  inOrder : member.delivery.queued.IsPrefix (member.primed ++ state.emitted.drop member.joined)
  current : member.life = .live → member.delivery.subscriber.closed = false →
    member.delivery.queued ++ state.holder.awaited member.slot = member.primed ++ state.emitted.drop member.joined

def Grown (member : Member) (delivery : Delivery) (awaited left : List Bytes) : Prop :=
  ∃ added, delivery.queued = member.delivery.queued ++ added ∧
    (added ≠ [] → member.life = .live ∧ member.delivery.subscriber.closed = false) ∧
    (member.life = .live → member.delivery.subscriber.closed = false → added ++ left = awaited)

-- Everything a step can do, in a state whose table is right.
inductive SlotStep (state : Broadcaster) (label : SlotLabel) : Broadcaster → Prop where
  | subscribed (position : Nat) (idle : state.holder = .idle) (free : state.subs[position]? = some none)
    (isLabel : label = .subscribe) :
    SlotStep state label { state with
      subs := state.subs.set position (some state.members.length)
      nSubs := state.nSubs + 1
      members := state.members ++ [{
        delivery := primedDelivery state.cachedFrame
        slot := some position
        life := .live
        primed := (primedDelivery state.cachedFrame).queued
        joined := state.emitted.length }] }
  | detached (number position : Nat) (idle : state.holder = .idle) (live : LiveAt state.members number position)
    (isLabel : label = .detach number) :
    SlotStep state label { state with
      subs := state.subs.set position none
      nSubs := state.nSubs - 1
      members := state.members.modify number fun member => { member with life := .detached } }
  | freed (number : Nat) (member : Member) (found : state.members[number]? = some member)
    (detached : member.life = .detached) (isLabel : label = .free number) :
    SlotStep state label { state with members := state.members.modify number Member.free }
  | began (frame : Bytes) (cached : Bool) (idle : state.holder = .idle) (isLabel : label ≠ .shutdown) :
    SlotStep state label
      { state with holder := .broadcasting frame cached 0, emitted := state.emitted ++ [frame] }
  | quiet (cachedFrame : Option Bytes) (shuttingDown : Bool) (holder : Holder) (replacing : List Bytes)
    (awaited : ∀ number position, LiveAt state.members number position →
      holder.awaited (some position) = state.holder.awaited (some position))
    (shut : shuttingDown = true ↔ state.shuttingDown = true ∨ label = .shutdown) :
    SlotStep state label
      { state with cachedFrame := cachedFrame, shuttingDown := shuttingDown, holder := holder, replacing := replacing }
  | operated (number : Nat) (member : Member) (operation : DeliveryLabel) (delivery : Delivery) (holder : Holder)
    (found : state.members[number]? = some member) (alive : member.life ≠ .freed)
    (taken : member.delivery.step operation = some delivery)
    (others : ∀ other position, LiveAt state.members other position → other ≠ number →
      holder.awaited (some position) = state.holder.awaited (some position))
    (grown : Grown member delivery (state.holder.awaited member.slot) (holder.awaited member.slot))
    (isLabel : label ≠ .shutdown) :
    SlotStep state label { state with
      holder := holder
      members := state.members.modify number fun member => { member with delivery := delivery } }

-- A turn at a slot moves the loop past no subscriber but the one it holds.
theorem turn_awaited (frame : Bytes) (cached : Bool) (position slot : Nat) (other : slot ≠ position) :
    (Holder.broadcasting frame cached (position + 1)).awaited (some slot) =
      (Holder.broadcasting frame cached position).awaited (some slot) := by
  rw [Holder.awaited, Holder.awaited]
  exact if_congr (by omega) rfl rfl

theorem operate_cases (state next : Broadcaster) (number : Nat) (operation : DeliveryLabel)
    (taken : state.operate number operation = some next) :
    ∃ member delivery, state.members[number]? = some member ∧ member.life ≠ .freed ∧
      member.delivery.step operation = some delivery ∧
        next = { state with members := state.members.modify number fun member => { member with delivery := delivery } } := by
  rw [Broadcaster.operate] at taken
  split at taken
  · cases taken
  · split at taken
    · cases taken
    · split at taken
      · cases taken
      · exact ⟨_, _, ‹_›, ‹_›, ‹_›, (Option.some.inj taken).symm⟩

-- The turn of a loop: a slot that is empty is passed, the subscriber in one that is not
-- gets its frame, or is closed.
theorem turn_cases (state next : Broadcaster) (table : TableInv state) (label : SlotLabel) (isLabel : label = .turn)
    (position : Nat) (operation : DeliveryLabel) (holder : Holder)
    (taken : (state.visit position operation).map (fun after => { after with holder := holder }) = some next)
    (others : ∀ slot, slot ≠ position → holder.awaited (some slot) = state.holder.awaited (some slot))
    (grown : ∀ (member : Member) (delivery : Delivery), member.life = .live → member.slot = some position →
      member.delivery.step operation = some delivery →
        Grown member delivery (state.holder.awaited member.slot) (holder.awaited member.slot)) :
    SlotStep state label next := by
  have silent : label ≠ .shutdown := fun wrong => by rw [isLabel] at wrong; cases wrong
  obtain ⟨visited, visit, rfl⟩ := Option.map_eq_some_iff.mp taken
  rw [Broadcaster.visit] at visit
  split at visit
  · rename_i number held
    have live := (table.occupied position number).mp held
    obtain ⟨member, delivery, found, alive, operated, rfl⟩ := operate_cases state visited number operation visit
    have placed : member.life = .live ∧ member.slot = some position := by
      obtain ⟨same, foundSame, isLive, slot⟩ := live
      rw [found, Option.some.injEq] at foundSame
      exact foundSame ▸ ⟨isLive, slot⟩
    refine .operated number member operation delivery holder found alive operated ?_
      (grown member delivery placed.1 placed.2 operated) silent
    intro other slot liveOther different
    refine others slot fun same => different ?_
    have heldOther := (table.occupied slot other).mpr liveOther
    rw [same, held] at heldOther
    exact (Option.some.inj (Option.some.inj heldOther)).symm
  · rename_i empty
    cases visit
    refine .quiet state.cachedFrame state.shuttingDown holder state.replacing ?_ ?_
    · intro number slot live
      refine others slot fun same => empty number ?_
      rw [← same]
      exact (table.occupied slot number).mpr live
    · exact (or_iff_left silent).symm

theorem emit_grown (member : Member) (delivery : Delivery) (frame : Bytes) (cached : Bool) (position : Nat)
    (live : member.life = .live) (slot : member.slot = some position)
    (taken : member.delivery.step (.emit frame) = some delivery) :
    Grown member delivery ((Holder.broadcasting frame cached position).awaited member.slot)
      ((Holder.broadcasting frame cached (position + 1)).awaited member.slot) := by
  have before : (Holder.broadcasting frame cached position).awaited member.slot = [frame] := by
    rw [slot]
    exact if_pos (Nat.le_refl _)
  have after : (Holder.broadcasting frame cached (position + 1)).awaited member.slot = [] := by
    rw [slot]
    exact if_neg (Nat.not_succ_le_self _)
  rw [before, after]
  cases taken
  cases isOpen : member.delivery.subscriber.closed with
  | true => exact ⟨[], (List.append_nil _).symm, (fun wrong => absurd rfl wrong), fun _ wrong => by cases isOpen.symm.trans wrong⟩
  | false => exact ⟨[frame], rfl, fun _ => ⟨live, isOpen⟩, fun _ _ => rfl⟩

theorem silent_grown (member : Member) (delivery : Delivery) (awaited left : List Bytes)
    (queued : delivery.queued = member.delivery.queued) (same : left = awaited) : Grown member delivery awaited left :=
  ⟨[], by rw [queued, List.append_nil], (fun wrong => absurd rfl wrong), fun _ _ => same⟩

theorem read_queued (state next : Delivery) (operation : DeliveryLabel) (silent : ∀ frame, operation ≠ .emit frame)
    (taken : state.step operation = some next) : next.queued = state.queued := by
  have outcome := delivery_step_cases state next operation taken
  cases outcome with
  | unchanged => rfl
  | accepted frame isOpen => exact absurd rfl (silent frame)
  | drained max nonempty => rfl
  | heartbeat max empty => rfl
  | shut => rfl

theorem live_slot_inside (state : Broadcaster) (table : TableInv state) (number position : Nat)
    (live : LiveAt state.members number position) : position < sseMaxSubscribers := by
  have held := (table.occupied position number).mpr live
  rw [← table.table]
  exact (List.getElem?_eq_some_iff.mp held).1

theorem free_slot (subs : List (Option Nat)) (space : subs.countP Option.isSome < subs.length) :
    ∃ position, subs.findIdx? Option.isNone = some position ∧ subs[position]? = some none := by
  have notAll : ¬∀ sub ∈ subs, sub.isSome = true := fun all => by
    rw [List.countP_eq_length.mpr all] at space
    exact Nat.lt_irrefl _ space
  have found : (subs.findIdx? Option.isNone).isSome = true := by
    rw [List.findIdx?_isSome, List.any_eq_true]
    by_contra none
    refine notAll fun sub member => ?_
    by_contra empty
    exact none ⟨sub, member, by rw [Option.isNone_iff_eq_none]; exact Option.not_isSome_iff_eq_none.mp empty⟩
  obtain ⟨position, found⟩ := Option.isSome_iff_exists.mp found
  refine ⟨position, found, ?_⟩
  obtain ⟨inside, isNone, _⟩ := List.findIdx?_eq_some_iff_getElem.mp found
  rw [List.getElem?_eq_getElem inside, Option.isNone_iff_eq_none.mp isNone]

theorem subscribe_cases (state : Broadcaster) (table : TableInv state) (idle : state.holder = .idle) :
    SlotStep state .subscribe (sseBroadcasterSubscribe state).2 := by
  rw [sseBroadcasterSubscribe]
  split
  · exact .quiet state.cachedFrame state.shuttingDown state.holder state.replacing (fun _ _ _ => rfl)
      (or_iff_left fun wrong => by cases wrong).symm
  · rename_i accepted
    have space : state.subs.countP Option.isSome < state.subs.length := by
      rw [← table.counted, table.table]
      simp only [Bool.or_eq_true, decide_eq_true_eq, not_or] at accepted
      omega
    obtain ⟨position, found, free⟩ := free_slot state.subs space
    rw [found]
    exact .subscribed position idle free rfl

theorem detach_cases (state : Broadcaster) (table : TableInv state) (number : Nat) (member : Member)
    (idle : state.holder = .idle) (found : state.members[number]? = some member) (live : member.life = .live) :
    SlotStep state (.detach number) (subscriberDetach state number member) := by
  obtain ⟨position, slot⟩ := table.slotted member (List.mem_of_getElem? found) live
  have placed : LiveAt state.members number position := ⟨member, found, live, slot⟩
  have held := (table.occupied position number).mpr placed
  rw [subscriberDetach, slot]
  simp only [if_pos held]
  exact .detached number position idle placed rfl

-- Either loop: a turn at a slot while there is one, and then the mutex is released.
theorem turn_step_cases (state next : Broadcaster) (table : TableInv state) (taken : state.step .turn = some next) :
    SlotStep state .turn next := by
  simp only [Broadcaster.step] at taken
  split at taken
  · cases taken
  · rename_i frame cached position holds
    split at taken
    · refine turn_cases state next table _ rfl position _ _ taken ?_ ?_
      · intro slot other
        rw [holds]
        exact turn_awaited frame cached position slot other
      · intro member delivery live slot operated
        rw [holds]
        exact emit_grown member delivery frame cached position live slot operated
    · cases taken
      rename_i ended
      refine .quiet state.cachedFrame state.shuttingDown .idle _ ?_
        (or_iff_left fun wrong => by cases wrong).symm
      intro number slot live
      have inside := live_slot_inside state table number slot live
      rw [holds]
      exact (if_neg (by omega)).symm
  · rename_i position holds
    split at taken
    · refine turn_cases state next table _ rfl position _ _ taken ?_ ?_
      · intro slot _
        rw [holds]
        rfl
      · intro member delivery _ _ operated
        refine silent_grown member delivery _ _ (read_queued _ _ _ (fun _ wrong => by cases wrong) operated) ?_
        rw [holds]
        rfl
    · cases taken
      refine .quiet state.cachedFrame state.shuttingDown .idle state.replacing (fun _ _ _ => ?_)
        (or_iff_left fun wrong => by cases wrong).symm
      rw [holds]
      rfl

theorem step_cases (state next : Broadcaster) (table : TableInv state) (label : SlotLabel)
    (taken : state.step label = some next) : SlotStep state label next := by
  cases label with
  | subscribe =>
    simp only [Broadcaster.step, Broadcaster.locked, Option.ite_none_right_eq_some, Option.some.injEq] at taken
    obtain ⟨idle, rfl⟩ := taken
    exact subscribe_cases state table idle
  | detach number =>
    simp only [Broadcaster.step, Broadcaster.locked, Option.ite_none_right_eq_some] at taken
    obtain ⟨idle, taken⟩ := taken
    split at taken
    · rw [Option.ite_none_right_eq_some, Option.some.injEq] at taken
      obtain ⟨live, rfl⟩ := taken
      exact detach_cases state table number _ idle ‹_› live
    · cases taken
  | free number =>
    simp only [Broadcaster.step] at taken
    split at taken
    · rw [Option.ite_none_right_eq_some, Option.some.injEq] at taken
      obtain ⟨detached, rfl⟩ := taken
      exact .freed number _ ‹_› detached rfl
    · cases taken
  | emit eventType payload =>
    simp only [Broadcaster.step, Broadcaster.locked, Option.ite_none_right_eq_some, Option.some.injEq] at taken
    obtain ⟨idle, rfl⟩ := taken
    exact .began _ false idle fun wrong => by cases wrong
  | emitCached eventType payload =>
    simp only [Broadcaster.step, Broadcaster.locked, Option.ite_none_right_eq_some, Option.some.injEq] at taken
    obtain ⟨idle, rfl⟩ := taken
    exact .began _ true idle fun wrong => by cases wrong
  | replace call =>
    simp only [Broadcaster.step, Broadcaster.locked, Option.ite_none_right_eq_some] at taken
    obtain ⟨_, taken⟩ := taken
    split at taken
    · cases taken
      exact .quiet _ state.shuttingDown state.holder _ (fun _ _ _ => rfl)
        (or_iff_left fun wrong => by cases wrong).symm
    · cases taken
  | shutdown =>
    simp only [Broadcaster.step, Broadcaster.locked, Option.ite_none_right_eq_some, Option.some.injEq] at taken
    obtain ⟨idle, rfl⟩ := taken
    refine .quiet state.cachedFrame true (.closing 0) state.replacing (fun _ _ _ => ?_) ⟨fun _ => Or.inr rfl, fun _ => rfl⟩
    rw [idle]
    rfl
  | turn => exact turn_step_cases state next table taken
  | read number max =>
    obtain ⟨member, delivery, found, alive, operated, rfl⟩ := operate_cases state next number _ taken
    exact .operated number member _ delivery state.holder found alive operated (fun _ _ _ _ => rfl)
      (silent_grown member delivery _ _ (read_queued _ _ _ (fun _ wrong => by cases wrong) operated) rfl) fun wrong => by cases wrong
  | readTimeout number max =>
    obtain ⟨member, delivery, found, alive, operated, rfl⟩ := operate_cases state next number _ taken
    exact .operated number member _ delivery state.holder found alive operated (fun _ _ _ _ => rfl)
      (silent_grown member delivery _ _ (read_queued _ _ _ (fun _ wrong => by cases wrong) operated) rfl) fun wrong => by cases wrong

end AiriesUps.Api.Slots
