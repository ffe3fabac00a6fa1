import AiriesUps.Lib.Runs
import AiriesUps.Lib.RingQueue

set_option autoImplicit false

namespace AiriesUps.Api

abbrev Bytes := List Char

def sseQueueDepth : Nat := 256

def heartbeatFrame : Bytes := ":heartbeat\n\n".toList

def formatFrame (eventType payload : String) : Bytes :=
  ("event: " ++ eventType ++ "\ndata: " ++ payload ++ "\n\n").toList

-- struct sse_frame; len is the length of data, pos the bytes already returned.
structure Frame where
  data : Bytes
  pos : Nat
deriving DecidableEq, Repr

def Frame.blank : Frame := { data := [], pos := 0 }

-- struct sse_subscriber: its queue and its closed flag
structure Subscriber where
  ring : RingQueue Frame sseQueueDepth
  closed : Bool

def Subscriber.subscribed : Subscriber :=
  { ring := RingQueue.empty sseQueueDepth (by decide) .blank, closed := false }

def subscriberDropOldest (subscriber : Subscriber) : Subscriber :=
  if subscriber.ring.count = 0 then subscriber
  else { subscriber with ring := subscriber.ring.dropFirst .blank }

theorem drop_makes_room (subscriber : Subscriber) (full : subscriber.ring.count = sseQueueDepth) :
    (subscriberDropOldest subscriber).ring.count < sseQueueDepth := by
  have nonempty : ¬ subscriber.ring.count = 0 := by rw [full]; decide
  rw [subscriberDropOldest, if_neg nonempty]
  change subscriber.ring.count - 1 < sseQueueDepth
  rw [full]
  decide

def subscriberEnqueueLocked (subscriber : Subscriber) (frame : Bytes) : Subscriber :=
  if subscriber.closed then subscriber
  else if full : subscriber.ring.count = sseQueueDepth then
    let dropped := subscriberDropOldest subscriber
    { dropped with ring := dropped.ring.push { data := frame, pos := 0 } (drop_makes_room subscriber full) }
  else
    { subscriber with
      ring := subscriber.ring.push { data := frame, pos := 0 } (Nat.lt_of_le_of_ne subscriber.ring.countInside full) }

-- The locked section of sse_subscriber_read when a frame is queued: the bytes
-- copied out and the subscriber after it.
def drainHead (subscriber : Subscriber) (max : Nat) : Bytes × Subscriber :=
  let head := subscriber.ring.first
  let chunk := (head.data.drop head.pos).take max
  let pos := head.pos + chunk.length
  if pos = head.data.length then
    (chunk, { subscriber with ring := subscriber.ring.dropFirst .blank })
  else
    (chunk, { subscriber with ring := subscriber.ring.setFirst { head with pos := pos } })

-- One subscriber over a run: what has been returned to its reader, and the
-- frames queued to it in emit order.
structure Delivery where
  subscriber : Subscriber
  returned : Bytes
  queued : List Bytes

def Delivery.start : Delivery := { subscriber := .subscribed, returned := [], queued := [] }

-- A read is one step, taken when it returns. It blocks on an empty open queue,
-- and then ends either with a frame or, at its deadline, with a heartbeat.
inductive DeliveryLabel where
  | emit (frame : Bytes)
  | read (max : Nat)
  | readTimeout (max : Nat)
  | shutdown
deriving DecidableEq, Repr

def Delivery.step : Runs.Step Delivery DeliveryLabel
  | state, .emit frame =>
    some { state with
      subscriber := subscriberEnqueueLocked state.subscriber frame
      queued := if state.subscriber.closed then state.queued else state.queued ++ [frame] }
  | state, .read max =>
    if max = 0 then some state
    else if state.subscriber.ring.count = 0 then
      -- returns -1 once closed, and otherwise goes on waiting
      if state.subscriber.closed then some state else none
    else
      let drained := drainHead state.subscriber max
      some { state with subscriber := drained.2, returned := state.returned ++ drained.1 }
  | state, .readTimeout max =>
    if max = 0 ∨ state.subscriber.ring.count ≠ 0 ∨ state.subscriber.closed then none
    else if max < heartbeatFrame.length then some state
    else some { state with returned := state.returned ++ heartbeatFrame }
  | state, .shutdown => some { state with subscriber := { state.subscriber with closed := true } }

inductive StreamItem where
  | frame (data : Bytes)
  | heartbeat

def StreamItem.bytes : StreamItem → Bytes
  | .frame data => data
  | .heartbeat => heartbeatFrame

def StreamItem.queuedFrame : StreamItem → Option Bytes
  | .frame data => some data
  | .heartbeat => none

-- The returned bytes are whole items, then at most a proper prefix of the frame
-- at the head of the queue, and the frames among them were queued in that order.
def WholeItems (state : Delivery) : Prop :=
  ∃ items : List StreamItem,
    (state.returned = items.flatMap StreamItem.bytes ∧
      (items.filterMap StreamItem.queuedFrame).Sublist state.queued) ∨
    ∃ head, state.subscriber.ring.contents.head? = some head ∧ head.pos < head.data.length ∧
      state.returned = items.flatMap StreamItem.bytes ++ head.data.take head.pos ∧
      (items.filterMap StreamItem.queuedFrame ++ [head.data]).Sublist state.queued

def NoDropInsideFrame (state : Delivery) : DeliveryLabel → Prop
  | .emit _ =>
    state.subscriber.closed = false → state.subscriber.ring.count = sseQueueDepth → state.subscriber.ring.first.pos = 0
  | _ => True

instance (state : Delivery) : (label : DeliveryLabel) → Decidable (NoDropInsideFrame state label)
  | .emit _ => inferInstanceAs (Decidable (_ = _ → _ = _ → _ = _))
  | .read _ | .readTimeout _ | .shutdown => inferInstanceAs (Decidable True)

def partRead : List Frame → Bytes
  | [] => []
  | head :: _ => head.data.take head.pos

theorem part_read_fresh (queue : List Frame) (fresh : ∀ frame ∈ queue, frame.pos = 0) : partRead queue = [] := by
  cases queue with
  | nil => rfl
  | cons head rest => rw [partRead, fresh head (List.mem_cons_self ..), List.take_zero]

-- What is queued is what was queued to the subscriber after the delivered
-- frames, and only the head frame has been read into.
structure Delivered (state : Delivery) (items : List StreamItem) (queue : List Frame) : Prop where
  contents : state.subscriber.ring.contents = queue
  returned : state.returned = items.flatMap StreamItem.bytes ++ partRead queue
  order : (items.filterMap StreamItem.queuedFrame ++ queue.map Frame.data).Sublist state.queued
  unread : ∀ frame ∈ queue.tail, frame.pos = 0
  inside : ∀ head ∈ queue.head?, head.pos = 0 ∨ head.pos < head.data.length

theorem enqueue_contents (subscriber : Subscriber) (frame : Bytes) (isOpen : subscriber.closed = false) :
    (subscriberEnqueueLocked subscriber frame).ring.contents =
      (if subscriber.ring.count = sseQueueDepth then subscriber.ring.contents.tail else subscriber.ring.contents) ++
        [{ data := frame, pos := 0 }] := by
  rw [subscriberEnqueueLocked, if_neg (by rw [isOpen]; exact Bool.false_ne_true)]
  by_cases full : subscriber.ring.count = sseQueueDepth
  · have nonempty : ¬ subscriber.ring.count = 0 := by rw [full]; decide
    have dropped : (subscriberDropOldest subscriber).ring.contents = subscriber.ring.contents.tail := by
      rw [subscriberDropOldest, if_neg nonempty]
      exact RingQueue.contents_dropFirst subscriber.ring .blank
    rw [dif_pos full, if_pos full, RingQueue.contents_push, dropped]
  · rw [dif_neg full, if_neg full, RingQueue.contents_push]

theorem delivered_enqueue (state : Delivery) (frame : Bytes) (items : List StreamItem) (queue : List Frame)
    (delivered : Delivered state items queue) (next : Delivery)
    (contents : next.subscriber.ring.contents = queue ++ [{ data := frame, pos := 0 }])
    (returned : next.returned = state.returned) (queued : next.queued = state.queued ++ [frame]) :
    Delivered next items (queue ++ [{ data := frame, pos := 0 }]) := by
  refine ⟨contents, ?_, ?_, ?_, ?_⟩
  · rw [returned, delivered.returned]
    cases queue with
    | nil => rfl
    | cons head rest => rfl
  · rw [queued, List.map_append, ← List.append_assoc]
    exact List.Sublist.append delivered.order (List.Sublist.refl _)
  · intro other member
    cases queue with
    | nil => cases member
    | cons head rest =>
      rcases List.mem_append.mp member with old | new
      · exact delivered.unread other old
      · rw [List.mem_singleton.mp new]
  · intro head first
    cases queue with
    | nil =>
      rw [← Option.some.inj first]
      exact Or.inl rfl
    | cons old rest => exact delivered.inside head first

-- Dropping a head frame that nothing was read of leaves no trace of it.
theorem delivered_drop (state : Delivery) (items : List StreamItem) (head : Frame) (rest : List Frame)
    (delivered : Delivered state items (head :: rest)) (untouched : head.pos = 0) (subscriber : Subscriber)
    (contents : subscriber.ring.contents = rest) : Delivered { state with subscriber := subscriber } items rest := by
  refine ⟨contents, ?_, ?_, ?_, ?_⟩
  · have whole := delivered.returned
    rw [partRead, untouched, List.take_zero] at whole
    rw [part_read_fresh rest delivered.unread]
    exact whole
  · refine List.Sublist.trans ?_ delivered.order
    exact List.Sublist.append (List.Sublist.refl _) (List.sublist_cons_self ..)
  · intro frame member
    exact delivered.unread frame (List.mem_of_mem_tail member)
  · intro next first
    exact Or.inl (delivered.unread next (List.mem_of_mem_head? first))

theorem take_chunk (data : Bytes) (pos max : Nat) :
    data.take pos ++ (data.drop pos).take max = data.take (pos + ((data.drop pos).take max).length) := by
  rw [List.take_add, List.length_take]
  congr 1
  exact List.take_eq_take_min

-- The frame is complete: it becomes an item and leaves the queue.
theorem delivered_whole_frame (state : Delivery) (items : List StreamItem) (head : Frame) (rest : List Frame)
    (delivered : Delivered state items (head :: rest)) (subscriber : Subscriber) (chunk : Bytes)
    (contents : subscriber.ring.contents = rest) (ended : head.data.take head.pos ++ chunk = head.data) :
    Delivered { state with subscriber := subscriber, returned := state.returned ++ chunk }
      (items ++ [.frame head.data]) rest := by
  have whole := delivered.returned
  refine ⟨contents, ?_, ?_, ?_, ?_⟩
  · rw [part_read_fresh rest delivered.unread]
    simp only [whole, partRead, List.append_assoc, ended, List.flatMap_append, List.flatMap_singleton,
      StreamItem.bytes, List.append_nil]
  · simpa only [List.filterMap_append, List.append_assoc, List.filterMap_cons, StreamItem.queuedFrame,
      List.filterMap_nil, List.singleton_append, List.map_cons] using delivered.order
  · intro frame member
    exact delivered.unread frame (List.mem_of_mem_tail member)
  · intro next first
    exact Or.inl (delivered.unread next (List.mem_of_mem_head? first))

theorem delivered_part_frame (state : Delivery) (items : List StreamItem) (head : Frame) (rest : List Frame)
    (delivered : Delivered state items (head :: rest)) (subscriber : Subscriber) (chunk : Bytes) (pos : Nat)
    (contents : subscriber.ring.contents = { head with pos := pos } :: rest)
    (read : head.data.take head.pos ++ chunk = head.data.take pos) (inside : pos < head.data.length) :
    Delivered { state with subscriber := subscriber, returned := state.returned ++ chunk } items
      ({ head with pos := pos } :: rest) := by
  have whole := delivered.returned
  refine ⟨contents, ?_, delivered.order, delivered.unread, ?_⟩
  · simp only [whole, partRead, List.append_assoc, read]
  · intro next first
    rw [← Option.some.inj first]
    exact Or.inr inside

theorem delivered_read (state : Delivery) (max : Nat) (items : List StreamItem) (head : Frame) (rest : List Frame)
    (delivered : Delivered state items (head :: rest)) :
    ∃ items queue, Delivered
      { state with
        subscriber := (drainHead state.subscriber max).2
        returned := state.returned ++ (drainHead state.subscriber max).1 } items queue := by
  have nonempty : 0 < state.subscriber.ring.count := by
    rw [← RingQueue.contents_length, delivered.contents]
    exact Nat.succ_pos _
  have listed := RingQueue.contents_first state.subscriber.ring nonempty
  rw [delivered.contents] at listed
  obtain ⟨isHead, _⟩ := List.cons.inj listed
  have chunked := take_chunk head.data head.pos max
  rw [drainHead, ← isHead]
  by_cases ended : head.pos + ((head.data.drop head.pos).take max).length = head.data.length
  · simp only [if_pos ended]
    rw [ended, List.take_length] at chunked
    refine ⟨_, _, delivered_whole_frame state items head rest delivered _ _ ?_ chunked⟩
    rw [RingQueue.contents_dropFirst, delivered.contents, List.tail_cons]
  · simp only [if_neg ended]
    have bound : ((head.data.drop head.pos).take max).length ≤ head.data.length - head.pos := by
      rw [List.length_take, List.length_drop]
      exact Nat.min_le_right _ _
    have inside : head.pos + ((head.data.drop head.pos).take max).length < head.data.length := by
      rcases delivered.inside head rfl with start | inside <;> omega
    refine ⟨_, _, delivered_part_frame state items head rest delivered _ _ _ ?_ chunked inside⟩
    rw [RingQueue.contents_setFirst state.subscriber.ring _ nonempty, delivered.contents, List.tail_cons]

theorem delivered_heartbeat (state : Delivery) (items : List StreamItem) (delivered : Delivered state items []) :
    Delivered { state with returned := state.returned ++ heartbeatFrame } (items ++ [.heartbeat]) [] := by
  refine ⟨delivered.contents, ?_, ?_, delivered.unread, delivered.inside⟩
  · have whole := delivered.returned
    simp only [whole, partRead, List.flatMap_append, List.flatMap_singleton, StreamItem.bytes, List.append_nil]
  · have order := delivered.order
    simpa only [List.filterMap_append, List.filterMap_cons, StreamItem.queuedFrame, List.filterMap_nil,
      List.append_nil] using order

def DeliveryInv (state : Delivery) : Prop := ∃ items queue, Delivered state items queue

theorem delivery_inv_emit (state : Delivery) (frame : Bytes) (inv : DeliveryInv state)
    (allowed : NoDropInsideFrame state (.emit frame)) (isOpen : state.subscriber.closed = false) :
    DeliveryInv { state with
      subscriber := subscriberEnqueueLocked state.subscriber frame
      queued := state.queued ++ [frame] } := by
  obtain ⟨items, queue, delivered⟩ := inv
  have contents := enqueue_contents state.subscriber frame isOpen
  rw [delivered.contents] at contents
  by_cases full : state.subscriber.ring.count = sseQueueDepth
  · rw [if_pos full] at contents
    cases queue with
    | nil =>
      have empty := RingQueue.contents_length state.subscriber.ring
      rw [delivered.contents, full] at empty
      exact absurd empty (by decide)
    | cons head rest =>
      have nonempty : 0 < state.subscriber.ring.count := by rw [full]; decide
      have listed := RingQueue.contents_first state.subscriber.ring nonempty
      rw [delivered.contents] at listed
      obtain ⟨isHead, _⟩ := List.cons.inj listed
      have untouched : head.pos = 0 := isHead ▸ allowed isOpen full
      have dropped := delivered_drop state items head rest delivered untouched
        { state.subscriber with ring := state.subscriber.ring.dropFirst .blank }
        (by rw [RingQueue.contents_dropFirst, delivered.contents]; rfl)
      exact ⟨items, _, delivered_enqueue _ frame items rest dropped _ contents rfl rfl⟩
  · rw [if_neg full] at contents
    exact ⟨items, _, delivered_enqueue state frame items queue delivered _ contents rfl rfl⟩

-- Everything an operation can do to a subscriber and its reader.
inductive DeliveryStep (state : Delivery) : DeliveryLabel → Delivery → Prop where
  | unchanged (label : DeliveryLabel) : DeliveryStep state label state
  | accepted (frame : Bytes) (isOpen : state.subscriber.closed = false) :
    DeliveryStep state (.emit frame)
      { state with subscriber := subscriberEnqueueLocked state.subscriber frame, queued := state.queued ++ [frame] }
  | drained (max : Nat) (nonempty : 0 < state.subscriber.ring.count) :
    DeliveryStep state (.read max)
      { state with
        subscriber := (drainHead state.subscriber max).2
        returned := state.returned ++ (drainHead state.subscriber max).1 }
  | heartbeat (max : Nat) (empty : state.subscriber.ring.contents = []) :
    DeliveryStep state (.readTimeout max) { state with returned := state.returned ++ heartbeatFrame }
  | shut : DeliveryStep state .shutdown { state with subscriber := { state.subscriber with closed := true } }

theorem delivery_step_cases (state next : Delivery) (label : DeliveryLabel) (taken : state.step label = some next) :
    DeliveryStep state label next := by
  cases label with
  | emit frame =>
    simp only [Delivery.step, Option.some.injEq] at taken
    subst next
    cases isOpen : state.subscriber.closed with
    | true =>
      rw [subscriberEnqueueLocked, if_pos isOpen]
      exact .unchanged _
    | false => exact .accepted frame isOpen
  | read max =>
    simp only [Delivery.step] at taken
    split at taken
    · cases taken
      exact .unchanged _
    · split at taken
      · simp only [Option.ite_none_right_eq_some, Option.some.injEq] at taken
        exact taken.2 ▸ .unchanged _
      · cases taken
        exact .drained max (Nat.pos_of_ne_zero ‹_›)
  | readTimeout max =>
    simp only [Delivery.step, Option.ite_none_left_eq_some] at taken
    obtain ⟨waited, taken⟩ := taken
    split at taken
    · cases taken
      exact .unchanged _
    · cases taken
      refine .heartbeat max ?_
      rw [← List.length_eq_zero_iff, RingQueue.contents_length]
      omega
  | shutdown =>
    cases taken
    exact .shut

theorem delivery_inv_step (state next : Delivery) (label : DeliveryLabel) (inv : DeliveryInv state)
    (allowed : NoDropInsideFrame state label) (taken : state.step label = some next) : DeliveryInv next := by
  have outcome := delivery_step_cases state next label taken
  cases outcome with
  | unchanged => exact inv
  | accepted frame isOpen => exact delivery_inv_emit state frame inv allowed isOpen
  | drained max nonempty =>
    obtain ⟨items, queue, delivered⟩ := inv
    cases queue with
    | nil =>
      have empty := RingQueue.contents_length state.subscriber.ring
      rw [delivered.contents, List.length_nil] at empty
      omega
    | cons head rest => exact delivered_read state max items head rest delivered
  | heartbeat max empty =>
    obtain ⟨items, queue, delivered⟩ := inv
    obtain rfl : queue = [] := delivered.contents.symm.trans empty
    exact ⟨_, _, delivered_heartbeat state items delivered⟩
  | shut =>
    obtain ⟨items, queue, delivered⟩ := inv
    exact ⟨items, queue, delivered.contents, delivered.returned, delivered.order, delivered.unread, delivered.inside⟩

theorem delivery_inv_whole (state : Delivery) (inv : DeliveryInv state) : WholeItems state := by
  obtain ⟨items, queue, delivered⟩ := inv
  have whole := delivered.returned
  refine ⟨items, ?_⟩
  cases queue with
  | nil =>
    left
    rw [partRead, List.append_nil] at whole
    refine ⟨whole, ?_⟩
    simpa only [List.map_nil, List.append_nil] using delivered.order
  | cons head rest =>
    rcases delivered.inside head rfl with start | inside
    · left
      rw [partRead, start, List.take_zero, List.append_nil] at whole
      exact ⟨whole, (List.sublist_append_left _ _).trans delivered.order⟩
    · right
      refine ⟨head, by rw [delivered.contents]; rfl, inside, whole, ?_⟩
      refine List.Sublist.trans ?_ delivered.order
      exact List.Sublist.append (List.Sublist.refl _) (List.Sublist.cons_cons _ (List.nil_sublist _))

theorem whole_items_delivered (labels : List DeliveryLabel) (state : Delivery)
    (reached : Runs.run Delivery.step Delivery.start labels = some state)
    (admitted : Runs.Admitted Delivery.step NoDropInsideFrame Delivery.start labels) : WholeItems state := by
  have inv : DeliveryInv state :=
    Runs.guarded_invariant Delivery.step NoDropInsideFrame Delivery.start DeliveryInv
      ⟨[], [], rfl, rfl, List.Sublist.refl _, nofun, nofun⟩
      (fun state label next inv allowed taken => delivery_inv_step state next label inv allowed taken)
      labels state reached admitted
  exact delivery_inv_whole state inv

def patientReader : List DeliveryLabel :=
  [.emit (formatFrame "monitor" "1"), .read 8, .emit (formatFrame "monitor" "2"), .read 64, .read 64, .readTimeout 64]

theorem patient_reader_whole :
    ∃ state, Runs.run Delivery.step Delivery.start patientReader = some state ∧ WholeItems state := by
  have reached := Runs.run_final Delivery.step Delivery.start patientReader (by decide +kernel)
  exact ⟨_, reached, whole_items_delivered patientReader _ reached (by decide +kernel)⟩

theorem first_item_bytes (items : List StreamItem) (queued : List Bytes)
    (order : (items.filterMap StreamItem.queuedFrame).Sublist queued)
    (framed : ∀ frame ∈ queued, frame.take 2 = ['e', 'v']) :
    (items.flatMap StreamItem.bytes).take 2 = [] ∨ (items.flatMap StreamItem.bytes).take 2 = ['e', 'v'] ∨
      (items.flatMap StreamItem.bytes).take 2 = [':', 'h'] := by
  cases items with
  | nil => exact Or.inl rfl
  | cons item rest =>
    right
    rw [List.flatMap_cons, List.take_append]
    cases item with
    | heartbeat => exact Or.inr rfl
    | frame data =>
      left
      have start := framed data (order.subset (List.mem_cons_self ..))
      have long : 2 ≤ data.length := by
        have taken := congrArg List.length start
        rw [List.length_take] at taken
        exact min_eq_left_iff.mp taken
      rw [StreamItem.bytes, start, Nat.sub_eq_zero_of_le long, List.take_zero, List.append_nil]

-- One byte of the first frame has been read when the queue overflows.
def overflowInsideFrame : List DeliveryLabel :=
  [.emit (formatFrame "monitor" "1"), .read 1] ++
    List.replicate sseQueueDepth (.emit (formatFrame "monitor" "2")) ++ [.read 64]

theorem overflow_cuts_frame :
    ¬ ∀ labels state, Runs.run Delivery.step Delivery.start labels = some state → WholeItems state := by
  intro claimed
  have framed : ∀ frame ∈ (Runs.final Delivery.step Delivery.start overflowInsideFrame).queued,
      frame.take 2 = ['e', 'v'] := by decide +kernel
  have cut : (Runs.final Delivery.step Delivery.start overflowInsideFrame).returned.take 2 = ['e', 'e'] := by
    decide +kernel
  obtain ⟨items, whole⟩ := claimed overflowInsideFrame _
    (Runs.run_final Delivery.step Delivery.start overflowInsideFrame (by decide +kernel))
  rcases whole with ⟨returned, order⟩ | ⟨head, isHead, _, returned, order⟩
  · rw [returned] at cut
    rcases first_item_bytes items _ order framed with same | same | same <;>
      exact absurd (same.symm.trans cut) (by decide)
  · -- Nothing has been read of the frame now at the head.
    have fresh : (Runs.final Delivery.step Delivery.start overflowInsideFrame).subscriber.ring.contents.head? =
        some { data := formatFrame "monitor" "2", pos := 0 } := by decide +kernel
    rw [fresh, Option.some.injEq] at isHead
    rw [returned, ← isHead, List.take_zero, List.append_nil] at cut
    rcases first_item_bytes items _ ((List.sublist_append_left _ _).trans order) framed with same | same | same <;>
      exact absurd (same.symm.trans cut) (by decide)

end AiriesUps.Api
