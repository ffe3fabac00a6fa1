import AiriesUps.Api.Sse

set_option autoImplicit false

namespace AiriesUps.Api

-- The frames in a subscriber's queue, the oldest first.
def Delivery.frames (state : Delivery) : List Bytes := state.subscriber.ring.contents.map Frame.data

-- What one operation may do to the queue: a frame leaves it only as the oldest
-- of a full one, or with its last byte returned.
inductive FramesKept (before after : Delivery) : Prop where
  | kept (queued : after.queued = before.queued) (frames : after.frames = before.frames)
  | added (frame : Bytes) (queued : after.queued = before.queued ++ [frame])
    (frames : after.frames = before.frames ++ [frame])
  | oldestDropped (frame : Bytes) (full : before.subscriber.ring.count = sseQueueDepth)
    (queued : after.queued = before.queued ++ [frame]) (frames : after.frames = before.frames.tail ++ [frame])
  | fullyRead (frame : Bytes) (queued : after.queued = before.queued) (frames : before.frames = frame :: after.frames)
    (returned : frame.IsSuffix after.returned)

-- Only the head frame has been read into, and what was read of it is the end of
-- what was returned.
structure QueueInv (state : Delivery) : Prop where
  suffix : state.frames.IsSuffix state.queued
  unread : ∀ frame ∈ state.subscriber.ring.contents.tail, frame.pos = 0
  partly : (partRead state.subscriber.ring.contents).IsSuffix state.returned

theorem queue_inv_start : QueueInv .start :=
  ⟨List.suffix_refl _, nofun, List.suffix_refl _⟩

theorem tail_suffix {Item : Type} (items whole : List Item) (suffix : items.IsSuffix whole) : items.tail.IsSuffix whole :=
  (List.tail_suffix items).trans suffix

theorem suffix_concat {Item : Type} (items whole : List Item) (item : Item) (suffix : items.IsSuffix whole) :
    (items ++ [item]).IsSuffix (whole ++ [item]) := by
  obtain ⟨front, rfl⟩ := suffix
  exact ⟨front, (List.append_assoc ..).symm⟩

theorem enqueue_kept (state : Delivery) (frame : Bytes) (inv : QueueInv state) (isOpen : state.subscriber.closed = false)
    (next : Delivery) (subscriber : next.subscriber = subscriberEnqueueLocked state.subscriber frame)
    (queued : next.queued = state.queued ++ [frame]) (returned : next.returned = state.returned) :
    QueueInv next ∧ FramesKept state next := by
  have contents := enqueue_contents state.subscriber frame isOpen
  rw [← subscriber] at contents
  have listed : next.frames = next.subscriber.ring.contents.map Frame.data := rfl
  by_cases full : state.subscriber.ring.count = sseQueueDepth
  · rw [if_pos full] at contents
    have frames : next.frames = state.frames.tail ++ [frame] := by
      rw [listed, contents, List.map_append, List.map_tail, List.map_singleton, Delivery.frames]
    -- with the head gone nothing queued has been read into
    have fresh : ∀ other ∈ next.subscriber.ring.contents, other.pos = 0 := by
      intro other member
      rw [contents] at member
      rcases List.mem_append.mp member with old | new
      · exact inv.unread other old
      · rw [List.mem_singleton.mp new]
    refine ⟨⟨?_, fun other member => fresh other (List.mem_of_mem_tail member), ?_⟩, .oldestDropped frame full queued frames⟩
    · rw [frames, queued]
      exact suffix_concat _ _ frame (tail_suffix _ _ inv.suffix)
    · rw [part_read_fresh _ fresh]
      exact List.nil_suffix
  · rw [if_neg full] at contents
    have frames : next.frames = state.frames ++ [frame] := by
      rw [listed, contents, List.map_append, List.map_singleton, Delivery.frames]
    refine ⟨⟨?_, ?_, ?_⟩, .added frame queued frames⟩
    · rw [frames, queued]
      exact suffix_concat _ _ frame inv.suffix
    · intro other member
      have unread := inv.unread
      rw [contents] at member
      cases queue : state.subscriber.ring.contents with
      | nil =>
        rw [queue] at member
        cases member
      | cons head rest =>
        rw [queue] at member unread
        rcases List.mem_append.mp member with old | new
        · exact unread other old
        · rw [List.mem_singleton.mp new]
    · have partly := inv.partly
      rw [contents, returned]
      cases queue : state.subscriber.ring.contents with
      | nil => exact List.nil_suffix
      | cons head rest =>
        rw [queue] at partly
        exact partly

-- Reading moves the position on, and the frame leaves when it is at its end.
theorem drain_head_kept (state : Delivery) (max : Nat) (inv : QueueInv state) (nonempty : 0 < state.subscriber.ring.count)
    (next : Delivery) (subscriber : next.subscriber = (drainHead state.subscriber max).2)
    (queued : next.queued = state.queued) (returned : next.returned = state.returned ++ (drainHead state.subscriber max).1) :
    QueueInv next ∧ FramesKept state next := by
  have listed := RingQueue.contents_first state.subscriber.ring nonempty
  have moved := RingQueue.contents_setFirst state.subscriber.ring
  obtain ⟨head, isHead⟩ : ∃ head, state.subscriber.ring.first = head := ⟨_, rfl⟩
  have chunked := take_chunk head.data head.pos max
  rw [drainHead, isHead] at subscriber returned
  obtain ⟨chunk, isChunk⟩ : ∃ chunk, (head.data.drop head.pos).take max = chunk := ⟨_, rfl⟩
  rw [isChunk] at chunked
  simp only [isChunk] at subscriber returned
  rw [isHead] at listed
  have frames : state.frames = head.data :: state.subscriber.ring.contents.tail.map Frame.data := by
    rw [Delivery.frames, listed, List.map_cons, List.tail_cons]
  have unread := inv.unread
  have suffix := inv.suffix
  obtain ⟨front, partly⟩ := inv.partly
  rw [listed, partRead] at partly
  by_cases ended : head.pos + chunk.length = head.data.length
  · simp only [if_pos ended] at subscriber returned
    rw [ended, List.take_length] at chunked
    have contents : next.subscriber.ring.contents = state.subscriber.ring.contents.tail := by
      rw [subscriber]
      exact RingQueue.contents_dropFirst state.subscriber.ring .blank
    have left : state.frames = head.data :: next.frames := by rw [frames, Delivery.frames, contents]
    have whole : head.data.IsSuffix next.returned := by
      rw [returned, ← partly, List.append_assoc, chunked]
      exact List.suffix_append _ _
    refine ⟨⟨?_, ?_, ?_⟩, .fullyRead _ queued left whole⟩
    · rw [queued]
      rw [left] at suffix
      exact tail_suffix _ _ suffix
    · rw [contents]
      exact fun frame member => unread frame (List.mem_of_mem_tail member)
    · rw [contents, part_read_fresh _ unread]
      exact List.nil_suffix
  · simp only [if_neg ended] at subscriber returned
    have contents : next.subscriber.ring.contents =
        { head with pos := head.pos + chunk.length } :: state.subscriber.ring.contents.tail := by
      rw [subscriber]
      exact moved _ nonempty
    have same : next.frames = state.frames := by rw [frames, Delivery.frames, contents, List.map_cons]
    refine ⟨⟨?_, ?_, ?_⟩, .kept queued same⟩
    · rw [same, queued]
      exact suffix
    · rw [contents]
      exact unread
    · rw [contents, partRead, ← chunked, returned, ← partly, List.append_assoc]
      exact List.suffix_append _ _

theorem delivery_step_kept (state next : Delivery) (label : DeliveryLabel) (inv : QueueInv state)
    (taken : state.step label = some next) : QueueInv next ∧ FramesKept state next := by
  have outcome := delivery_step_cases state next label taken
  cases outcome with
  | unchanged => exact ⟨inv, .kept rfl rfl⟩
  | accepted frame isOpen => exact enqueue_kept state frame inv isOpen _ rfl rfl rfl
  | drained max nonempty => exact drain_head_kept state max inv nonempty _ rfl rfl rfl
  | heartbeat max empty =>
    refine ⟨⟨inv.suffix, inv.unread, ?_⟩, .kept rfl rfl⟩
    rw [empty]
    exact List.nil_suffix
  | shut => exact ⟨⟨inv.suffix, inv.unread, inv.partly⟩, .kept rfl rfl⟩

theorem delivery_queue_inv (labels : List DeliveryLabel) (state : Delivery)
    (reached : Runs.run Delivery.step .start labels = some state) : QueueInv state :=
  Runs.run_invariant Delivery.step .start (fun _ state => QueueInv state) queue_inv_start
    (fun _ state label next inv taken => (delivery_step_kept state next label inv taken).1) labels state reached

end AiriesUps.Api
