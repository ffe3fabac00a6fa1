import AiriesUps.Lib.EventStream
import AiriesUps.Api.SlotAccounting

set_option autoImplicit false

namespace AiriesUps.Api

open EventStream (Event Reader)

-- The arguments of format_frame as the event a browser should see.
def sentEvent (eventType payload : String) : Event := { type := eventType.toList, data := payload.toList }

theorem format_frame_encodes (eventType payload : String) :
    formatFrame eventType payload = EventStream.encode (sentEvent eventType payload) := by
  simp [formatFrame, EventStream.encode, EventStream.fieldLines, EventStream.fieldLine, EventStream.eventField,
    EventStream.dataField, sentEvent, String.toList_append]

-- A frame a browser reads as one event.
def Readable (frame : Bytes) : Prop := ∃ event : Event, event.Encodable ∧ EventStream.encode event = frame

theorem feed_heartbeat : Reader.fresh.feed heartbeatFrame = (.fresh, []) :=
  EventStream.feed_comment "heartbeat".toList (by decide)

-- Whole items leave the reader between two events, and heartbeats show nothing.
theorem feed_items (items : List StreamItem)
    (readable : ∀ frame ∈ items.filterMap StreamItem.queuedFrame, Readable frame) :
    ∃ events : List Event, events.map EventStream.encode = items.filterMap StreamItem.queuedFrame ∧
      Reader.fresh.feed (items.flatMap StreamItem.bytes) = (.fresh, events) := by
  induction items with
  | nil => exact ⟨[], rfl, rfl⟩
  | cons item rest ih =>
    cases item with
    | heartbeat =>
      obtain ⟨events, encoded, fed⟩ := ih readable
      refine ⟨events, encoded, ?_⟩
      rw [List.flatMap_cons, StreamItem.bytes, EventStream.feed_append, feed_heartbeat, fed, List.nil_append]
    | frame data =>
      obtain ⟨events, encoded, fed⟩ := ih fun frame member => readable frame (List.mem_cons_of_mem _ member)
      obtain ⟨event, one, isData⟩ := readable data List.mem_cons_self
      refine ⟨event :: events, ?_, ?_⟩
      · rw [List.map_cons, encoded, isData]
        rfl
      · rw [List.flatMap_cons, StreamItem.bytes, EventStream.feed_append, ← isData, EventStream.feed_event event one, fed]
        rfl

-- A frame that has come in part shows nothing either.
theorem delivered_decoded (state : Delivery) (items : List StreamItem) (queue : List Frame)
    (delivered : Delivered state items queue) (readable : ∀ frame ∈ state.queued, Readable frame) :
    (EventStream.decode state.returned).map EventStream.encode = items.filterMap StreamItem.queuedFrame := by
  have order := delivered.order
  have whole := (List.sublist_append_left _ _).trans order
  obtain ⟨events, encoded, fed⟩ := feed_items items fun frame member => readable frame (whole.subset member)
  have dispatched : EventStream.decode state.returned = events := by
    rw [EventStream.decode, delivered.returned, EventStream.feed_events_append, fed]
    cases queue with
    | nil => rw [partRead, EventStream.feed_nil, List.append_nil]
    | cons head rest =>
      have queuedHead : head.data ∈ state.queued := order.subset (by simp)
      obtain ⟨event, one, isData⟩ := readable head.data queuedHead
      have silent : (Reader.fresh.feed (head.data.take head.pos)).2 = [] := by
        rcases delivered.inside head rfl with start | inside
        · rw [start, List.take_zero, EventStream.feed_nil]
        · rw [← isData] at inside ⊢
          exact EventStream.feed_unfinished event one head.pos inside
      rw [partRead, silent, List.append_nil]
  rw [dispatched, encoded]

-- The frames of the events the browser has dispatched were queued, in that order,
-- however the bytes are cut on their way.
def BrowserReads (returned : Bytes) (queued : List Bytes) : Prop :=
  ∀ pieces : List Bytes, pieces.flatten = returned →
    ((EventStream.decodePieces pieces).map EventStream.encode).Sublist queued

theorem delivery_browser_reads (state : Delivery) (inv : DeliveryInv state)
    (readable : ∀ frame ∈ state.queued, Readable frame) : BrowserReads state.returned state.queued := by
  obtain ⟨items, queue, delivered⟩ := inv
  intro pieces cut
  rw [EventStream.decode_pieces, cut, delivered_decoded state items queue delivered readable]
  exact (List.sublist_append_left _ _).trans delivered.order

-- No frame is lost: what has been read and what is queued is all that was queued.
def Lossless (state : Delivery) : Prop :=
  ∃ items queue, Delivered state items queue ∧
    items.filterMap StreamItem.queuedFrame ++ queue.map Frame.data = state.queued

def QueueRoom (state : Delivery) : DeliveryLabel → Prop
  | .emit _ => state.subscriber.closed = false → state.subscriber.ring.count ≠ sseQueueDepth
  | _ => True

instance (state : Delivery) (label : DeliveryLabel) : Decidable (QueueRoom state label) :=
  match label with
  | .emit _ => inferInstanceAs (Decidable (_ → _ ≠ _))
  | .read _ | .readTimeout _ | .shutdown => inferInstanceAs (Decidable True)

-- A read moves a frame from the queue to the items, or moves inside the head frame.
theorem delivered_read_frames (state : Delivery) (max : Nat) (items : List StreamItem) (head : Frame) (rest : List Frame)
    (delivered : Delivered state items (head :: rest)) (nonempty : 0 < state.subscriber.ring.count) :
    ∃ itemsAfter queue,
      Delivered
        { state with
          subscriber := (drainHead state.subscriber max).2
          returned := state.returned ++ (drainHead state.subscriber max).1 } itemsAfter queue ∧
      itemsAfter.filterMap StreamItem.queuedFrame ++ queue.map Frame.data =
        items.filterMap StreamItem.queuedFrame ++ (head :: rest).map Frame.data := by
  have listed := RingQueue.contents_first state.subscriber.ring nonempty
  rw [delivered.contents] at listed
  obtain ⟨isHead, _⟩ := List.cons.inj listed
  have chunked := take_chunk head.data head.pos max
  rw [drainHead, ← isHead]
  by_cases ended : head.pos + ((head.data.drop head.pos).take max).length = head.data.length
  · simp only [if_pos ended]
    rw [ended, List.take_length] at chunked
    refine ⟨_, _, delivered_whole_frame state items head rest delivered _ _ ?_ chunked, ?_⟩
    · rw [RingQueue.contents_dropFirst, delivered.contents, List.tail_cons]
    · simp [StreamItem.queuedFrame]
  · simp only [if_neg ended]
    have bound : ((head.data.drop head.pos).take max).length ≤ head.data.length - head.pos := by
      rw [List.length_take, List.length_drop]
      exact Nat.min_le_right _ _
    have inside : head.pos + ((head.data.drop head.pos).take max).length < head.data.length := by
      rcases delivered.inside head rfl with start | inside <;> omega
    refine ⟨_, _, delivered_part_frame state items head rest delivered _ _ _ ?_ chunked inside, rfl⟩
    rw [RingQueue.contents_setFirst state.subscriber.ring _ nonempty, delivered.contents, List.tail_cons]

theorem lossless_step (state next : Delivery) (label : DeliveryLabel) (lossless : Lossless state)
    (room : QueueRoom state label) (taken : state.step label = some next) : Lossless next := by
  obtain ⟨items, queue, delivered, whole⟩ := lossless
  have outcome := delivery_step_cases state next label taken
  cases outcome with
  | unchanged => exact ⟨items, queue, delivered, whole⟩
  | accepted frame isOpen =>
    have contents := enqueue_contents state.subscriber frame isOpen
    rw [if_neg (room isOpen), delivered.contents] at contents
    refine ⟨items, _, delivered_enqueue state frame items queue delivered _ contents rfl rfl, ?_⟩
    rw [List.map_append, ← List.append_assoc, whole]
    rfl
  | drained max nonempty =>
    cases queue with
    | nil =>
      have empty := RingQueue.contents_length state.subscriber.ring
      rw [delivered.contents, List.length_nil] at empty
      omega
    | cons head rest =>
      obtain ⟨itemsAfter, left, deliveredAfter, same⟩ := delivered_read_frames state max items head rest delivered nonempty
      exact ⟨itemsAfter, left, deliveredAfter, same.trans whole⟩
  | heartbeat max empty =>
    obtain rfl : queue = [] := delivered.contents.symm.trans empty
    refine ⟨_, _, delivered_heartbeat state items delivered, ?_⟩
    rw [List.filterMap_append]
    exact (congrArg (· ++ []) (List.append_nil _)).trans whole
  | shut =>
    exact ⟨items, queue, ⟨delivered.contents, delivered.returned, delivered.order, delivered.unread, delivered.inside⟩, whole⟩

theorem lossless_browser_reads (state : Delivery) (lossless : Lossless state)
    (readable : ∀ frame ∈ state.queued, Readable frame) :
    (EventStream.decode state.returned).map EventStream.encode ++ state.frames = state.queued := by
  obtain ⟨items, queue, delivered, whole⟩ := lossless
  rw [delivered_decoded state items queue delivered readable, Delivery.frames, delivered.contents, whole]

namespace Slots

-- The subscriber the next turn of a broadcast hands its frame to.
def Broadcaster.visited (state : Broadcaster) : Option (Member × Bytes) :=
  match state.holder with
  | .broadcasting frame _ position =>
    match state.subs[position]? with
    | some (some number) => (state.members[number]?).map fun member => (member, frame)
    | _ => none
  | _ => none

-- Where a subscriber in use after a step comes from.
inductive Origin (state : Broadcaster) (label : SlotLabel) (member : Member) : Prop where
  | kept (before : Member) (present : before ∈ state.members) (alive : before.life ≠ .freed)
    (primed : member.primed = before.primed) (delivery : member.delivery = before.delivery)
  | operated (before : Member) (present : before ∈ state.members) (alive : before.life ≠ .freed)
    (primed : member.primed = before.primed) (operation : DeliveryLabel)
    (taken : before.delivery.step operation = some member.delivery)
    (emits : ∀ frame, operation = .emit frame → label = .turn ∧ (before, frame) ∈ state.visited)
  | joined (delivery : member.delivery = primedDelivery state.cachedFrame)
    (primed : member.primed = (primedDelivery state.cachedFrame).queued)

theorem operate_origin (state next : Broadcaster) (label : SlotLabel) (number : Nat) (operation : DeliveryLabel)
    (taken : state.operate number operation = some next)
    (emits : ∀ before frame, state.members[number]? = some before → operation = .emit frame →
      label = .turn ∧ (before, frame) ∈ state.visited)
    (member : Member) (present : member ∈ next.members) (alive : member.life ≠ .freed) : Origin state label member := by
  obtain ⟨operated, delivery, found, used, stepped, rfl⟩ := operate_cases state next number operation taken
  rcases Tables.modify_member state.members number _ member present with ⟨before, foundBefore, rfl⟩ | old
  · rw [found, Option.some.injEq] at foundBefore
    subst foundBefore
    exact .operated operated (List.mem_of_getElem? found) used rfl operation stepped fun frame same =>
      emits operated frame found same
  · exact .kept member old alive rfl rfl

theorem visit_origin (state next : Broadcaster) (label : SlotLabel) (position : Nat) (operation : DeliveryLabel)
    (taken : state.visit position operation = some next)
    (emits : ∀ before number frame, state.subs[position]? = some (some number) → state.members[number]? = some before →
      operation = .emit frame → label = .turn ∧ (before, frame) ∈ state.visited)
    (member : Member) (present : member ∈ next.members) (alive : member.life ≠ .freed) : Origin state label member := by
  rw [Broadcaster.visit] at taken
  split at taken
  · exact operate_origin state next label _ operation taken (fun before frame => emits before _ frame ‹_›) member present alive
  · cases taken
    exact .kept member present alive rfl rfl

theorem turn_origin (state next : Broadcaster) (taken : state.step .turn = some next) (member : Member)
    (present : member ∈ next.members) (alive : member.life ≠ .freed) : Origin state .turn member := by
  simp only [Broadcaster.step] at taken
  split at taken
  · cases taken
  · rename_i frame cached position holding
    split at taken
    · obtain ⟨visited, visit, rfl⟩ := Option.map_eq_some_iff.mp taken
      refine visit_origin state visited .turn position (.emit frame) visit ?_ member present alive
      intro before number other slot found same
      cases same
      refine ⟨rfl, ?_⟩
      rw [Broadcaster.visited, holding]
      dsimp only
      rw [slot]
      dsimp only
      rw [found]
      rfl
    · cases taken
      exact .kept member present alive rfl rfl
  · split at taken
    · obtain ⟨visited, visit, rfl⟩ := Option.map_eq_some_iff.mp taken
      exact visit_origin state visited .turn _ .shutdown visit (fun _ _ _ _ _ same => by cases same) member present alive
    · cases taken
      exact .kept member present alive rfl rfl

theorem member_origin (state next : Broadcaster) (label : SlotLabel) (taken : state.step label = some next) (member : Member)
    (present : member ∈ next.members) (alive : member.life ≠ .freed) : Origin state label member := by
  cases label with
  | subscribe =>
    simp only [Broadcaster.step, Broadcaster.locked, Option.ite_none_right_eq_some, Option.some.injEq] at taken
    obtain ⟨_, rfl⟩ := taken
    rw [sseBroadcasterSubscribe] at present
    split at present
    · exact .kept member present alive rfl rfl
    · rcases List.mem_append.mp present with old | new
      · exact .kept member old alive rfl rfl
      · rw [List.mem_singleton.mp new]
        exact .joined rfl rfl
  | detach number =>
    simp only [Broadcaster.step, Broadcaster.locked, Option.ite_none_right_eq_some] at taken
    obtain ⟨_, taken⟩ := taken
    split at taken
    · rename_i detached found
      rw [Option.ite_none_right_eq_some, Option.some.injEq] at taken
      obtain ⟨live, rfl⟩ := taken
      have changed : (subscriberDetach state number detached).members =
          state.members.modify number fun member => { member with life := .detached } := by
        rw [subscriberDetach]
        split
        · rfl
        · split <;> rfl
      rw [changed] at present
      rcases Tables.modify_member state.members number _ member present with ⟨before, foundBefore, rfl⟩ | old
      · rw [found, Option.some.injEq] at foundBefore
        subst foundBefore
        exact .kept detached (List.mem_of_getElem? found) (by rw [live]; decide) rfl rfl
      · exact .kept member old alive rfl rfl
    · cases taken
  | free number =>
    simp only [Broadcaster.step] at taken
    split at taken
    · rw [Option.ite_none_right_eq_some, Option.some.injEq] at taken
      obtain ⟨_, rfl⟩ := taken
      rcases Tables.modify_member state.members number _ member present with ⟨before, _, rfl⟩ | old
      · exact absurd rfl alive
      · exact .kept member old alive rfl rfl
    · cases taken
  | emit eventType payload =>
    simp only [Broadcaster.step, Broadcaster.locked, Option.ite_none_right_eq_some, Option.some.injEq] at taken
    obtain ⟨_, rfl⟩ := taken
    exact .kept member present alive rfl rfl
  | emitCached eventType payload =>
    simp only [Broadcaster.step, Broadcaster.locked, Option.ite_none_right_eq_some, Option.some.injEq] at taken
    obtain ⟨_, rfl⟩ := taken
    exact .kept member present alive rfl rfl
  | replace call =>
    simp only [Broadcaster.step, Broadcaster.locked, Option.ite_none_right_eq_some] at taken
    obtain ⟨_, taken⟩ := taken
    split at taken
    · cases taken
      exact .kept member present alive rfl rfl
    · cases taken
  | shutdown =>
    simp only [Broadcaster.step, Broadcaster.locked, Option.ite_none_right_eq_some, Option.some.injEq] at taken
    obtain ⟨_, rfl⟩ := taken
    exact .kept member present alive rfl rfl
  | turn => exact turn_origin state next taken member present alive
  | read number max =>
    exact operate_origin state next _ number _ taken (fun _ _ _ same => by cases same) member present alive
  | readTimeout number max =>
    exact operate_origin state next _ number _ taken (fun _ _ _ same => by cases same) member present alive

-- The broadcast hands its frame on only where it is allowed to.
def EmitsAllowed (allowed : Delivery → DeliveryLabel → Prop) (state : Broadcaster) (label : SlotLabel) : Prop :=
  label = .turn → ∀ visit ∈ state.visited, allowed visit.1.delivery (.emit visit.2)

instance (allowed : Delivery → DeliveryLabel → Prop) [∀ state label, Decidable (allowed state label)] (state : Broadcaster)
    (label : SlotLabel) : Decidable (EmitsAllowed allowed state label) :=
  inferInstanceAs (Decidable (_ → _))

-- An invariant of one subscriber's queue is one of every subscriber in use.
theorem members_keep (allowed : Delivery → DeliveryLabel → Prop) (Inv : Delivery → Prop)
    (free : ∀ delivery operation, (∀ frame, operation ≠ .emit frame) → allowed delivery operation)
    (primed : ∀ cachedFrame, Inv (primedDelivery cachedFrame))
    (keeps : ∀ delivery next operation, Inv delivery → allowed delivery operation →
      delivery.step operation = some next → Inv next)
    (labels : List SlotLabel) (state : Broadcaster) (reached : Runs.run Broadcaster.step .create labels = some state)
    (admitted : Runs.Admitted Broadcaster.step (EmitsAllowed allowed) .create labels) :
    ∀ member ∈ state.members, member.life ≠ .freed → Inv member.delivery := by
  refine Runs.guarded_invariant Broadcaster.step (EmitsAllowed allowed) .create
    (fun state => ∀ member ∈ state.members, member.life ≠ .freed → Inv member.delivery) nofun ?_ labels state reached admitted
  intro state label next inv guarded taken member present alive
  cases member_origin state next label taken member present alive with
  | kept before old used _ same => exact same ▸ inv before old used
  | operated before old used _ operation stepped emits =>
    refine keeps before.delivery member.delivery operation (inv before old used) ?_ stepped
    by_cases emitting : ∃ frame, operation = .emit frame
    · obtain ⟨frame, rfl⟩ := emitting
      obtain ⟨isTurn, visited⟩ := emits frame rfl
      exact guarded isTurn (before, frame) visited
    · exact free before.delivery operation (not_exists.mp emitting)
  | joined same _ => exact same ▸ primed state.cachedFrame

-- The payload is compact JSON, which has no line end.
def Sendable (_ : Broadcaster) : SlotLabel → Prop
  | .emit eventType payload | .emitCached eventType payload => (sentEvent eventType payload).Encodable
  | _ => True

instance (state : Broadcaster) : (label : SlotLabel) → Decidable (Sendable state label)
  | .emit eventType payload | .emitCached eventType payload =>
    inferInstanceAs (Decidable (sentEvent eventType payload).Encodable)
  | .subscribe | .detach _ | .free _ | .replace _ | .shutdown | .turn | .read _ _ | .readTimeout _ _ =>
    inferInstanceAs (Decidable True)

def Holder.frames : Holder → List Bytes
  | .broadcasting frame _ _ => [frame]
  | _ => []

structure FramesReadable (state : Broadcaster) : Prop where
  emitted : ∀ frame ∈ state.emitted, Readable frame
  held : ∀ frame ∈ state.holder.frames, Readable frame
  replacing : ∀ frame ∈ state.replacing, Readable frame
  cached : ∀ frame ∈ state.cachedFrame, Readable frame
  primed : ∀ member ∈ state.members, member.life ≠ .freed → ∀ frame ∈ member.primed, Readable frame

theorem primed_readable (cachedFrame : Option Bytes) (cached : ∀ frame ∈ cachedFrame, Readable frame) :
    ∀ frame ∈ (primedDelivery cachedFrame).queued, Readable frame := by
  cases cachedFrame with
  | none => exact List.forall_mem_nil _
  | some frame =>
    rw [primedDelivery]
    split
    · intro other member
      rw [List.mem_singleton.mp member]
      exact cached frame rfl
    · exact List.forall_mem_nil _

theorem began_readable (state : Broadcaster) (readable : FramesReadable state) (eventType payload : String) (cached : Bool)
    (sendable : (sentEvent eventType payload).Encodable) :
    FramesReadable { state with
      holder := .broadcasting (formatFrame eventType payload) cached 0
      emitted := state.emitted ++ [formatFrame eventType payload] } := by
  have one : Readable (formatFrame eventType payload) := ⟨_, sendable, (format_frame_encodes eventType payload).symm⟩
  refine ⟨fun frame member => ?_, fun frame member => ?_, readable.replacing, readable.cached, readable.primed⟩
  · rcases List.mem_append.mp member with old | new
    · exact readable.emitted frame old
    · rw [List.mem_singleton.mp new]
      exact one
  · rw [List.mem_singleton.mp member]
    exact one

theorem primed_readable_step (state next : Broadcaster) (label : SlotLabel) (readable : FramesReadable state)
    (taken : state.step label = some next) :
    ∀ member ∈ next.members, member.life ≠ .freed → ∀ frame ∈ member.primed, Readable frame := by
  intro member present alive
  cases member_origin state next label taken member present alive with
  | kept before old used same => exact same ▸ readable.primed before old used
  | operated before old used same => exact same ▸ readable.primed before old used
  | joined _ same => exact same ▸ primed_readable state.cachedFrame readable.cached

theorem operated_frames (state next : Broadcaster) (number : Nat) (operation : DeliveryLabel)
    (taken : state.operate number operation = some next) : ∃ members, next = { state with members := members } := by
  obtain ⟨member, delivery, _, _, _, rfl⟩ := operate_cases state next number operation taken
  exact ⟨_, rfl⟩

theorem visited_frames (state next : Broadcaster) (position : Nat) (operation : DeliveryLabel)
    (taken : state.visit position operation = some next) : ∃ members, next = { state with members := members } := by
  rw [Broadcaster.visit] at taken
  split at taken
  · exact operated_frames state next _ operation taken
  · exact ⟨state.members, (Option.some.inj taken).symm⟩

-- The frames a broadcaster holds outside its subscribers.
def Broadcaster.shared (state : Broadcaster) : List Bytes × Holder × List Bytes × Option Bytes :=
  (state.emitted, state.holder, state.replacing, state.cachedFrame)

theorem readable_same (state next : Broadcaster) (readable : FramesReadable state)
    (primed : ∀ member ∈ next.members, member.life ≠ .freed → ∀ frame ∈ member.primed, Readable frame)
    (same : next.shared = state.shared) : FramesReadable next := by
  simp only [Broadcaster.shared, Prod.mk.injEq] at same
  obtain ⟨emitted, held, replacing, cached⟩ := same
  exact ⟨emitted ▸ readable.emitted, held ▸ readable.held, replacing ▸ readable.replacing, cached ▸ readable.cached, primed⟩

theorem subscribe_shared (state : Broadcaster) : (sseBroadcasterSubscribe state).2.shared = state.shared := by
  rw [sseBroadcasterSubscribe]
  split <;> rfl

theorem detach_shared (state : Broadcaster) (number : Nat) (member : Member) :
    (subscriberDetach state number member).shared = state.shared := by
  rw [subscriberDetach]
  split
  · rfl
  · split <;> rfl

theorem frames_readable_step (state next : Broadcaster) (label : SlotLabel) (readable : FramesReadable state)
    (sendable : Sendable state label) (taken : state.step label = some next) : FramesReadable next := by
  have primed := primed_readable_step state next label readable taken
  cases label with
  | subscribe =>
    simp only [Broadcaster.step, Broadcaster.locked, Option.ite_none_right_eq_some, Option.some.injEq] at taken
    obtain ⟨_, rfl⟩ := taken
    exact readable_same state _ readable primed (subscribe_shared state)
  | detach number =>
    simp only [Broadcaster.step, Broadcaster.locked, Option.ite_none_right_eq_some] at taken
    obtain ⟨_, taken⟩ := taken
    split at taken
    · rw [Option.ite_none_right_eq_some, Option.some.injEq] at taken
      obtain ⟨_, rfl⟩ := taken
      exact readable_same state _ readable primed (detach_shared state number _)
    · cases taken
  | free number =>
    simp only [Broadcaster.step] at taken
    split at taken
    · rw [Option.ite_none_right_eq_some, Option.some.injEq] at taken
      obtain ⟨_, rfl⟩ := taken
      exact readable_same state _ readable primed rfl
    · cases taken
  | emit eventType payload =>
    simp only [Broadcaster.step, Broadcaster.locked, Option.ite_none_right_eq_some, Option.some.injEq] at taken
    obtain ⟨_, rfl⟩ := taken
    exact began_readable state readable eventType payload false sendable
  | emitCached eventType payload =>
    simp only [Broadcaster.step, Broadcaster.locked, Option.ite_none_right_eq_some, Option.some.injEq] at taken
    obtain ⟨_, rfl⟩ := taken
    exact began_readable state readable eventType payload true sendable
  | replace call =>
    simp only [Broadcaster.step, Broadcaster.locked, Option.ite_none_right_eq_some] at taken
    obtain ⟨_, taken⟩ := taken
    split at taken
    · rename_i frame found
      cases taken
      refine ⟨readable.emitted, readable.held, fun other member => ?_, fun other same => ?_, primed⟩
      · exact readable.replacing other (List.mem_of_mem_eraseIdx member)
      · rw [← Option.some.inj same]
        exact readable.replacing frame (List.mem_of_getElem? found)
    · cases taken
  | shutdown =>
    simp only [Broadcaster.step, Broadcaster.locked, Option.ite_none_right_eq_some, Option.some.injEq] at taken
    obtain ⟨_, rfl⟩ := taken
    exact ⟨readable.emitted, List.forall_mem_nil _, readable.replacing, readable.cached, primed⟩
  | turn =>
    simp only [Broadcaster.step] at taken
    split at taken
    · cases taken
    · rename_i frame cached position holding
      have held : Readable frame := readable.held frame (by rw [holding]; exact List.mem_singleton_self frame)
      have stillHeld : ∀ other ∈ [frame], Readable other := fun other member => List.mem_singleton.mp member ▸ held
      split at taken
      · obtain ⟨visited, visit, rfl⟩ := Option.map_eq_some_iff.mp taken
        obtain ⟨members, rfl⟩ := visited_frames state visited position _ visit
        exact ⟨readable.emitted, stillHeld, readable.replacing, readable.cached, primed⟩
      · cases taken
        refine ⟨readable.emitted, List.forall_mem_nil _, fun other member => ?_, readable.cached, primed⟩
        dsimp only at member
        split at member
        · rcases List.mem_append.mp member with old | new
          · exact readable.replacing other old
          · exact stillHeld other new
        · exact readable.replacing other member
    · split at taken
      · obtain ⟨visited, visit, rfl⟩ := Option.map_eq_some_iff.mp taken
        obtain ⟨members, rfl⟩ := visited_frames state visited _ _ visit
        exact ⟨readable.emitted, List.forall_mem_nil _, readable.replacing, readable.cached, primed⟩
      · cases taken
        exact ⟨readable.emitted, List.forall_mem_nil _, readable.replacing, readable.cached, primed⟩
  | read number max =>
    obtain ⟨members, rfl⟩ := operated_frames state next number _ taken
    exact readable_same state _ readable primed rfl
  | readTimeout number max =>
    obtain ⟨members, rfl⟩ := operated_frames state next number _ taken
    exact readable_same state _ readable primed rfl

theorem slot_inv_reached (labels : List SlotLabel) (state : Broadcaster)
    (reached : Runs.run Broadcaster.step .create labels = some state) : SlotInv labels state :=
  Runs.run_invariant Broadcaster.step .create SlotInv slot_inv_create
    (fun past state label next inv taken => slot_inv_step past state label next inv taken) labels state reached

-- Every frame queued to a subscriber in use is one a browser can read.
theorem queued_readable (labels : List SlotLabel) (state : Broadcaster)
    (reached : Runs.run Broadcaster.step .create labels = some state)
    (admitted : Runs.Admitted Broadcaster.step Sendable .create labels) :
    ∀ member ∈ state.members, member.life ≠ .freed → ∀ frame ∈ member.delivery.queued, Readable frame := by
  have inv := slot_inv_reached labels state reached
  have readable : FramesReadable state :=
    Runs.guarded_invariant Broadcaster.step Sendable .create FramesReadable ⟨nofun, nofun, nofun, nofun, nofun⟩
      (fun state label next inv sendable taken => frames_readable_step state next label inv sendable taken)
      labels state reached admitted
  intro member present alive frame queued
  have listed := (inv.members member present).inOrder.subset queued
  rcases List.mem_append.mp listed with first | later
  · exact readable.primed member present alive frame first
  · exact readable.emitted frame (List.mem_of_mem_drop later)

theorem primed_lossless (cachedFrame : Option Bytes) : Lossless (primedDelivery cachedFrame) := by
  have start : Lossless Delivery.start := ⟨[], [], ⟨rfl, rfl, List.Sublist.refl _, nofun, nofun⟩, rfl⟩
  cases cachedFrame with
  | none => exact start
  | some frame =>
    rw [primedDelivery]
    split
    · exact lossless_step .start _ (.emit frame) start (fun _ => by decide) rfl
    · exact start

-- Each browser shows, in order, events of the frame it was primed with and of those
-- broadcast since it joined. Full queues leave some out.
theorem browsers_read_emitted (labels : List SlotLabel) (state : Broadcaster)
    (reached : Runs.run Broadcaster.step .create labels = some state)
    (sendable : Runs.Admitted Broadcaster.step Sendable .create labels)
    (whole : Runs.Admitted Broadcaster.step (EmitsAllowed NoDropInsideFrame) .create labels) :
    ∀ member ∈ state.members, member.life ≠ .freed →
      BrowserReads member.delivery.returned (member.primed ++ state.emitted.drop member.joined) := by
  intro member present alive
  have inv := slot_inv_reached labels state reached
  have queue : DeliveryInv member.delivery := by
    refine members_keep NoDropInsideFrame DeliveryInv ?_ ?_ ?_ labels state reached whole member present alive
    · intro delivery operation silent
      cases operation with
      | emit frame => exact absurd rfl (silent frame)
      | read max => trivial
      | readTimeout max => trivial
      | shutdown => trivial
    · intro cachedFrame
      obtain ⟨items, queue, delivered, _⟩ := primed_lossless cachedFrame
      exact ⟨items, queue, delivered⟩
    · exact fun delivery next operation inv allowed taken => delivery_inv_step delivery next operation inv allowed taken
  have readable := queued_readable labels state reached sendable member present alive
  intro pieces cut
  exact (delivery_browser_reads member.delivery queue readable pieces cut).trans (inv.members member present).inOrder.sublist

-- While no queue is full at a broadcast nothing is lost: what a browser has shown and
-- what its queue holds are all frames since it joined.
theorem browsers_miss_nothing (labels : List SlotLabel) (state : Broadcaster)
    (reached : Runs.run Broadcaster.step .create labels = some state)
    (sendable : Runs.Admitted Broadcaster.step Sendable .create labels)
    (room : Runs.Admitted Broadcaster.step (EmitsAllowed QueueRoom) .create labels) (idle : state.holder = .idle) :
    ∀ member ∈ state.members, member.life = .live → member.delivery.subscriber.closed = false →
      (EventStream.decode member.delivery.returned).map EventStream.encode ++ member.delivery.frames =
        member.primed ++ state.emitted.drop member.joined := by
  intro member present live isOpen
  have inv := slot_inv_reached labels state reached
  have alive : member.life ≠ .freed := by rw [live]; decide
  have queue : Lossless member.delivery := by
    refine members_keep QueueRoom Lossless ?_ primed_lossless ?_ labels state reached room member present alive
    · intro delivery operation silent
      cases operation with
      | emit frame => exact absurd rfl (silent frame)
      | read max => trivial
      | readTimeout max => trivial
      | shutdown => trivial
    · exact fun delivery next operation inv allowed taken => lossless_step delivery next operation inv allowed taken
  have readable := queued_readable labels state reached sendable member present alive
  have current := (inv.members member present).current live isOpen
  have awaited : state.holder.awaited member.slot = [] := by
    rw [idle]
    rfl
  rw [awaited, List.append_nil] at current
  rw [lossless_browser_reads member.delivery queue readable, current]

-- Two browsers, the second of which joins after a state frame was cached.
def twoBrowsers : List SlotLabel :=
  [.subscribe, .emitCached "state" "1"] ++ List.replicate 9 .turn ++ [.replace 0, .subscribe, .emit "monitor" "2"] ++
    List.replicate 9 .turn ++ [.read 0 10, .read 0 64, .read 1 64, .read 1 7, .read 0 64, .readTimeout 0 64]

theorem two_browsers_read :
    ∃ state, Runs.run Broadcaster.step .create twoBrowsers = some state ∧
      ∀ member ∈ state.members, member.life ≠ .freed →
        BrowserReads member.delivery.returned (member.primed ++ state.emitted.drop member.joined) := by
  have reached := Runs.run_final Broadcaster.step .create twoBrowsers (by decide +kernel)
  exact ⟨_, reached, browsers_read_emitted twoBrowsers _ reached (by decide +kernel) (by decide +kernel)⟩

theorem two_browsers_miss_nothing :
    ∃ state, Runs.run Broadcaster.step .create twoBrowsers = some state ∧
      ∀ member ∈ state.members, member.life = .live → member.delivery.subscriber.closed = false →
        (EventStream.decode member.delivery.returned).map EventStream.encode ++ member.delivery.frames =
          member.primed ++ state.emitted.drop member.joined := by
  have reached := Runs.run_final Broadcaster.step .create twoBrowsers (by decide +kernel)
  exact ⟨_, reached,
    browsers_miss_nothing twoBrowsers _ reached (by decide +kernel) (by decide +kernel) (by decide +kernel)⟩

end Slots

end AiriesUps.Api
