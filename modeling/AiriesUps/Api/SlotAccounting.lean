import AiriesUps.Api.Slots

set_option autoImplicit false

namespace AiriesUps.Api.Slots

theorem live_at_modify (members : List Member) (number : Nat) (change : Member → Member) (other position : Nat)
    (same : ∀ member, members[number]? = some member →
      ((change member).life = .live ↔ member.life = .live) ∧ (change member).slot = member.slot) :
    LiveAt (members.modify number change) other position ↔ LiveAt members other position := by
  constructor
  · rintro ⟨member, found, live, slot⟩
    rcases Tables.modify_found members number other change member found with ⟨rfl, before, present, rfl⟩ | ⟨_, old⟩
    · obtain ⟨sameLife, sameSlot⟩ := same before present
      exact ⟨before, present, sameLife.mp live, sameSlot ▸ slot⟩
    · exact ⟨member, old, live, slot⟩
  · rintro ⟨member, found, live, slot⟩
    by_cases this : other = number
    · subst this
      obtain ⟨sameLife, sameSlot⟩ := same member found
      exact ⟨change member, Tables.modify_same members other change member found, sameLife.mpr live, sameSlot.trans slot⟩
    · refine ⟨member, ?_, live, slot⟩
      rw [List.getElem?_modify_ne change members fun wrong => this wrong.symm]
      exact found

theorem table_inv_modify (state next : Broadcaster) (table : TableInv state) (number : Nat) (change : Member → Member)
    (subs : next.subs = state.subs) (nSubs : next.nSubs = state.nSubs)
    (members : next.members = state.members.modify number change)
    (same : ∀ member, state.members[number]? = some member →
      ((change member).life = .live ↔ member.life = .live) ∧ (change member).slot = member.slot) : TableInv next := by
  refine ⟨subs ▸ table.table, by rw [nSubs, subs]; exact table.counted, ?_, ?_⟩
  · intro position other
    rw [subs, members, live_at_modify state.members number change other position same]
    exact table.occupied position other
  · intro member present live
    rw [members] at present
    rcases Tables.modify_member state.members number change member present with ⟨before, found, rfl⟩ | old
    · obtain ⟨sameLife, sameSlot⟩ := same before found
      rw [sameSlot]
      exact table.slotted before (List.mem_of_getElem? found) (sameLife.mp live)
    · exact table.slotted member old live

theorem live_at_append (members : List Member) (added : Member) (number position : Nat) :
    LiveAt (members ++ [added]) number position ↔
      LiveAt members number position ∨ (number = members.length ∧ added.life = .live ∧ added.slot = some position) := by
  constructor
  · rintro ⟨member, found, live, slot⟩
    rcases Tables.append_found members added member number found with old | ⟨last, rfl⟩
    · exact Or.inl ⟨member, old, live, slot⟩
    · exact Or.inr ⟨last, live, slot⟩
  · rintro (⟨member, found, live, slot⟩ | ⟨rfl, live, slot⟩)
    · have inside := (List.getElem?_eq_some_iff.mp found).1
      exact ⟨member, by rw [List.getElem?_append_left inside]; exact found, live, slot⟩
    · exact ⟨added, List.getElem?_concat_length, live, slot⟩

-- A slot changed from one value to another moves the count by what each is.
theorem count_set (subs : List (Option Nat)) (position : Nat) (before after : Option Nat)
    (found : subs[position]? = some before) :
    (subs.set position after).countP Option.isSome + before.isSome.toNat = subs.countP Option.isSome + after.isSome.toNat := by
  have counted := Tables.count_modify Option.isSome (fun _ => after) subs position before found
  rwa [← List.set_eq_modify] at counted

theorem set_slot (subs : List (Option Nat)) (position other : Nat) (before after : Option Nat)
    (found : subs[position]? = some before) :
    (subs.set position after)[other]? = if other = position then some after else subs[other]? := by
  by_cases same : other = position
  · subst same
    rw [if_pos rfl, List.getElem?_set_self (List.getElem?_eq_some_iff.mp found).1]
  · rw [if_neg same, List.getElem?_set_ne fun wrong => same wrong.symm]

theorem table_inv_subscribed (state next : Broadcaster) (table : TableInv state) (position : Nat) (added : Member)
    (free : state.subs[position]? = some none) (subs : next.subs = state.subs.set position (some state.members.length))
    (nSubs : next.nSubs = state.nSubs + 1) (members : next.members = state.members ++ [added])
    (live : added.life = .live) (slot : added.slot = some position) : TableInv next := by
  refine ⟨?_, ?_, ?_, ?_⟩
  · rw [subs, List.length_set]
    exact table.table
  · have count := count_set state.subs position none (some state.members.length) free
    rw [nSubs, subs, table.counted]
    simpa using count.symm
  · intro other number
    rw [subs, set_slot state.subs position other none _ free, members, live_at_append, ← table.occupied other number]
    by_cases here : other = position
    · rw [if_pos here, here, free, slot]
      simp [live, eq_comm]
    · rw [if_neg here, slot]
      simp [Ne.symm here]
  · intro member present isLive
    rw [members] at present
    rcases List.mem_append.mp present with old | new
    · exact table.slotted member old isLive
    · exact ⟨position, List.mem_singleton.mp new ▸ slot⟩

theorem live_at_detached (members : List Member) (number other position : Nat) :
    LiveAt (members.modify number fun member => { member with life := .detached }) other position ↔
      other ≠ number ∧ LiveAt members other position := by
  constructor
  · rintro ⟨after, foundAfter, liveAfter, slotAfter⟩
    rcases Tables.modify_found members number other _ after foundAfter with ⟨rfl, before, _, rfl⟩ | ⟨different, old⟩
    · cases liveAfter
    · exact ⟨different, after, old, liveAfter, slotAfter⟩
  · rintro ⟨different, before, foundBefore, liveBefore, slotBefore⟩
    refine ⟨before, ?_, liveBefore, slotBefore⟩
    rw [List.getElem?_modify_ne _ _ fun wrong => different wrong.symm]
    exact foundBefore

theorem table_inv_detached (state next : Broadcaster) (table : TableInv state) (number position : Nat)
    (live : LiveAt state.members number position) (subs : next.subs = state.subs.set position none)
    (nSubs : next.nSubs = state.nSubs - 1)
    (members : next.members = state.members.modify number fun member => { member with life := .detached }) :
    TableInv next := by
  have held := (table.occupied position number).mpr live
  obtain ⟨member, found, isLive, slot⟩ := live
  refine ⟨?_, ?_, ?_, ?_⟩
  · rw [subs, List.length_set]
    exact table.table
  · have count := count_set state.subs position (some number) none held
    rw [nSubs, subs, table.counted]
    simp only [Option.isSome_some, Bool.toNat_true, Option.isSome_none, Bool.toNat_false, Nat.add_zero] at count
    omega
  · intro otherPosition other
    rw [subs, set_slot state.subs position otherPosition _ none held, members, live_at_detached,
      ← table.occupied otherPosition other]
    by_cases here : otherPosition = position
    · rw [if_pos here, here, held]
      simp [eq_comm]
    · rw [if_neg here]
      refine ⟨fun heldOther => ⟨?_, heldOther⟩, And.right⟩
      -- a second slot would hold it too, against its index
      rintro rfl
      obtain ⟨same, foundSame, _, slotSame⟩ := (table.occupied otherPosition other).mp heldOther
      rw [found, Option.some.injEq] at foundSame
      subst foundSame
      exact here (Option.some.inj (slotSame.symm.trans slot))
  · intro after present liveAfter
    rw [members] at present
    rcases Tables.modify_member state.members number _ after present with ⟨before, _, rfl⟩ | old
    · cases liveAfter
    · exact table.slotted after old liveAfter

theorem table_inv_step (state next : Broadcaster) (label : SlotLabel) (table : TableInv state)
    (taken : state.step label = some next) : TableInv next := by
  have outcome := step_cases state next table label taken
  cases outcome with
  | subscribed position idle free isLabel => exact table_inv_subscribed state _ table position _ free rfl rfl rfl rfl rfl
  | detached number position idle live isLabel => exact table_inv_detached state _ table number position live rfl rfl rfl
  | freed number member found detached isLabel =>
    refine table_inv_modify state _ table number Member.free rfl rfl rfl fun other present => ⟨⟨?_, ?_⟩, rfl⟩
    · exact fun wrong => by cases wrong
    · intro wrong
      rw [found, Option.some.injEq] at present
      subst present
      cases detached.symm.trans wrong
  | began frame cached idle isLabel => exact ⟨table.table, table.counted, table.occupied, table.slotted⟩
  | quiet cachedFrame shuttingDown holder replacing awaited shut =>
    exact ⟨table.table, table.counted, table.occupied, table.slotted⟩
  | operated number member operation delivery holder found alive operated others grown isLabel =>
    exact table_inv_modify state _ table number _ rfl rfl rfl fun _ _ => ⟨Iff.rfl, rfl⟩

theorem closed_stays (state next : Delivery) (operation : DeliveryLabel) (taken : state.step operation = some next)
    (isOpen : next.subscriber.closed = false) : state.subscriber.closed = false := by
  have outcome := delivery_step_cases state next operation taken
  cases outcome with
  | unchanged => exact isOpen
  | accepted frame wasOpen => exact wasOpen
  | drained max nonempty => rwa [drain_head_closed] at isOpen
  | heartbeat max empty => exact isOpen
  | shut => cases isOpen

theorem primed_reached (cachedFrame : Option Bytes) :
    ∃ labels, Runs.run Delivery.step .start labels = some (primedDelivery cachedFrame) := by
  cases cachedFrame with
  | none => exact ⟨[], rfl⟩
  | some frame =>
    rw [primedDelivery]
    split
    · exact ⟨[.emit frame], rfl⟩
    · exact ⟨[], rfl⟩

theorem delivery_continues (state next : Delivery) (operation : DeliveryLabel)
    (reached : ∃ labels, Runs.run Delivery.step .start labels = some state) (taken : state.step operation = some next) :
    ∃ labels, Runs.run Delivery.step .start labels = some next := by
  obtain ⟨labels, run⟩ := reached
  exact ⟨labels ++ [operation], (Runs.run_concat Delivery.step .start next labels operation).mpr ⟨state, run, taken⟩⟩

theorem member_inv_same (state next : Broadcaster) (member : Member) (inv : MemberInv state member)
    (emitted : next.emitted = state.emitted)
    (awaited : member.life = .live → next.holder.awaited member.slot = state.holder.awaited member.slot) :
    MemberInv next member := by
  refine ⟨inv.reached, emitted ▸ inv.joined, emitted ▸ inv.inOrder, fun live isOpen => ?_⟩
  rw [awaited live, emitted]
  exact inv.current live isOpen

theorem member_inv_began (state : Broadcaster) (table : TableInv state) (member : Member) (present : member ∈ state.members)
    (inv : MemberInv state member) (frame : Bytes) (cached : Bool) (idle : state.holder = .idle) :
    MemberInv { state with holder := .broadcasting frame cached 0, emitted := state.emitted ++ [frame] } member := by
  have later : (state.emitted ++ [frame]).drop member.joined = state.emitted.drop member.joined ++ [frame] :=
    List.drop_append_of_le_length inv.joined
  refine ⟨inv.reached, ?_, ?_, fun live isOpen => ?_⟩
  · rw [List.length_append]
    exact Nat.le_trans inv.joined (Nat.le_add_right _ _)
  · dsimp only
    rw [later, ← List.append_assoc]
    exact inv.inOrder.trans (List.prefix_append _ _)
  · obtain ⟨position, slot⟩ := table.slotted member present live
    have before := inv.current live isOpen
    have none : state.holder.awaited member.slot = [] := by
      rw [idle]
      rfl
    rw [none, List.append_nil] at before
    have awaited : (Holder.broadcasting frame cached 0).awaited member.slot = [frame] := by
      rw [slot]
      rfl
    dsimp only
    rw [awaited, later, before, List.append_assoc]

theorem member_inv_operated (state next : Broadcaster) (member : Member) (inv : MemberInv state member)
    (operation : DeliveryLabel) (delivery : Delivery) (alive : member.life ≠ .freed)
    (taken : member.delivery.step operation = some delivery) (emitted : next.emitted = state.emitted)
    (grown : Grown member delivery (state.holder.awaited member.slot) (next.holder.awaited member.slot)) :
    MemberInv next { member with delivery := delivery } := by
  obtain ⟨added, queued, adds, awaits⟩ := grown
  refine ⟨fun _ => delivery_continues _ _ _ (inv.reached alive) taken, emitted ▸ inv.joined, ?_, fun live isOpen => ?_⟩
  · rw [emitted]
    by_cases silent : added = []
    · rw [silent, List.append_nil] at queued
      change delivery.queued.IsPrefix _
      rw [queued]
      exact inv.inOrder
    · obtain ⟨live, isOpen⟩ := adds silent
      refine ⟨next.holder.awaited member.slot, ?_⟩
      change delivery.queued ++ _ = _
      rw [queued, List.append_assoc, awaits live isOpen]
      exact inv.current live isOpen
  · have wasOpen := closed_stays _ _ _ taken isOpen
    change delivery.queued ++ _ = _
    rw [queued, List.append_assoc, awaits live wasOpen, emitted]
    exact inv.current live wasOpen

structure SlotInv (past : List SlotLabel) (state : Broadcaster) : Prop where
  table : TableInv state
  members : ∀ member ∈ state.members, MemberInv state member
  shut : state.shuttingDown = true ↔ .shutdown ∈ past

theorem members_inv_step (state next : Broadcaster) (label : SlotLabel) (table : TableInv state)
    (members : ∀ member ∈ state.members, MemberInv state member) (taken : state.step label = some next) :
    ∀ member ∈ next.members, MemberInv next member := by
  have outcome := step_cases state next table label taken
  intro member present
  cases outcome with
  | subscribed position idle free isLabel =>
    rcases List.mem_append.mp present with old | new
    · exact member_inv_same state _ member (members member old) rfl fun _ => rfl
    · rw [List.mem_singleton.mp new]
      refine ⟨fun _ => primed_reached state.cachedFrame, Nat.le_refl _, ?_, fun _ _ => ?_⟩
      · exact List.prefix_append _ _
      · dsimp only
        rw [idle, List.drop_length]
        rfl
  | detached number position idle live isLabel =>
    rcases Tables.modify_member state.members number _ member present with ⟨before, found, rfl⟩ | old
    · obtain ⟨other, foundOther, isLive, _⟩ := live
      rw [found, Option.some.injEq] at foundOther
      subst foundOther
      have inv := members before (List.mem_of_getElem? found)
      refine ⟨fun _ => inv.reached (by rw [isLive]; decide), inv.joined, inv.inOrder, fun wrong => by cases wrong⟩
    · exact member_inv_same state _ member (members member old) rfl fun _ => rfl
  | freed number freed found detached isLabel =>
    rcases Tables.modify_member state.members number _ member present with ⟨before, foundBefore, rfl⟩ | old
    · have inv := members before (List.mem_of_getElem? foundBefore)
      exact ⟨fun wrong => absurd rfl wrong, inv.joined, inv.inOrder, fun wrong => by cases wrong⟩
    · exact member_inv_same state _ member (members member old) rfl fun _ => rfl
  | began frame cached idle isLabel =>
    exact member_inv_began state table member present (members member present) frame cached idle
  | quiet cachedFrame shuttingDown holder replacing awaited shut =>
    refine member_inv_same state _ member (members member present) rfl fun live => ?_
    obtain ⟨position, slot⟩ := table.slotted member present live
    obtain ⟨number, found⟩ := List.mem_iff_getElem?.mp present
    rw [slot]
    exact awaited number position ⟨member, found, live, slot⟩
  | operated number operated operation delivery holder found alive stepped others grown isLabel =>
    obtain ⟨other, foundOther⟩ := List.mem_iff_getElem?.mp present
    rcases Tables.modify_found state.members number other _ member foundOther with ⟨_, before, foundBefore, rfl⟩ | ⟨different, old⟩
    · rw [found, Option.some.injEq] at foundBefore
      subst foundBefore
      exact member_inv_operated state _ operated (members operated (List.mem_of_getElem? found)) operation delivery alive
        stepped rfl grown
    · refine member_inv_same state _ member (members member (List.mem_of_getElem? old)) rfl fun live => ?_
      obtain ⟨position, slot⟩ := table.slotted member (List.mem_of_getElem? old) live
      rw [slot]
      exact others other position ⟨member, old, live, slot⟩ different

theorem shut_step (past : List SlotLabel) (state next : Broadcaster) (label : SlotLabel) (table : TableInv state)
    (shut : state.shuttingDown = true ↔ .shutdown ∈ past) (taken : state.step label = some next) :
    next.shuttingDown = true ↔ .shutdown ∈ past ++ [label] := by
  have same (other : label ≠ .shutdown) : .shutdown ∈ past ++ [label] ↔ .shutdown ∈ past := by
    rw [List.mem_append, List.mem_singleton]
    exact or_iff_left fun wrong => other wrong.symm
  have outcome := step_cases state next table label taken
  cases outcome with
  | subscribed position idle free isLabel => rwa [same (fun wrong => by rw [isLabel] at wrong; cases wrong)]
  | detached number position idle live isLabel => rwa [same (fun wrong => by rw [isLabel] at wrong; cases wrong)]
  | freed number member found detached isLabel => rwa [same (fun wrong => by rw [isLabel] at wrong; cases wrong)]
  | began frame cached idle isLabel => rwa [same isLabel]
  | quiet cachedFrame shuttingDown holder replacing awaited flag =>
    change shuttingDown = true ↔ _
    rw [flag, shut, List.mem_append, List.mem_singleton, eq_comm]
  | operated number member operation delivery holder found alive operated others grown isLabel => rwa [same isLabel]

theorem slot_inv_step (past : List SlotLabel) (state : Broadcaster) (label : SlotLabel) (next : Broadcaster)
    (inv : SlotInv past state) (taken : state.step label = some next) : SlotInv (past ++ [label]) next :=
  ⟨table_inv_step state next label inv.table taken, members_inv_step state next label inv.table inv.members taken,
    shut_step past state next label inv.table inv.shut taken⟩

theorem slot_inv_create : SlotInv [] .create := by
  refine ⟨⟨rfl, by decide, fun position number => ⟨fun held => ?_, fun live => ?_⟩, nofun⟩, nofun, by decide⟩
  · have empty := List.eq_of_mem_replicate (List.mem_of_getElem? held)
    cases empty
  · obtain ⟨_, found, _⟩ := live
    cases found

theorem slot_inv_accounted (past : List SlotLabel) (state : Broadcaster) (inv : SlotInv past state) : Accounted state := by
  have table := inv.table
  refine ⟨table.table, table.counted, ?_, ?_, ?_, ?_, ?_, fun member present => (inv.members member present).inOrder, ?_⟩
  · rw [table.counted, ← table.table]
    exact List.countP_le_length
  · intro number member found live
    obtain ⟨slot, isSlot⟩ := table.slotted member (List.mem_of_getElem? found) live
    refine ⟨slot, isSlot, fun position => ?_⟩
    rw [table.occupied position number]
    constructor
    · rintro ⟨other, foundOther, _, isPosition⟩
      rw [found, Option.some.injEq] at foundOther
      subst foundOther
      exact Option.some.inj (isPosition.symm.trans isSlot)
    · rintro rfl
      exact ⟨member, found, live, isSlot⟩
  · intro number present
    obtain ⟨position, held⟩ := List.mem_iff_getElem?.mp present
    obtain ⟨member, found, live, _⟩ := (table.occupied position number).mp held
    exact ⟨member, found, live⟩
  · intro member _
    rw [Delivery.frames, List.length_map, RingQueue.contents_length]
    exact member.delivery.subscriber.ring.countInside
  · intro member present alive
    obtain ⟨labels, reached⟩ := (inv.members member present).reached alive
    exact (delivery_queue_inv labels member.delivery reached).suffix
  · intro idle member present live isOpen
    have current := (inv.members member present).current live isOpen
    have none : state.holder.awaited member.slot = [] := by
      rw [idle]
      rfl
    rwa [none, List.append_nil] at current

theorem subscribe_refused (past : List SlotLabel) (state : Broadcaster) (inv : SlotInv past state) :
    (sseBroadcasterSubscribe state).1 = none ↔ (∀ sub ∈ state.subs, sub.isSome = true) ∨ .shutdown ∈ past := by
  have full : state.nSubs ≥ sseMaxSubscribers ↔ ∀ sub ∈ state.subs, sub.isSome = true := by
    rw [inv.table.counted, ← inv.table.table, ← List.countP_eq_length]
    exact ⟨fun reached => Nat.le_antisymm List.countP_le_length reached, fun same => Nat.le_of_eq same.symm⟩
  rw [← full, ← inv.shut, sseBroadcasterSubscribe]
  split
  · rename_i refused
    rw [Bool.or_eq_true, decide_eq_true_eq] at refused
    exact iff_of_true rfl refused.symm
  · rename_i accepted
    rw [Bool.or_eq_true, decide_eq_true_eq] at accepted
    exact iff_of_false (fun wrong => by cases wrong) fun either => accepted either.symm

theorem frames_kept_same (delivery : Delivery) : FramesKept delivery delivery := .kept rfl rfl

theorem step_frames_kept (past : List SlotLabel) (state next : Broadcaster) (label : SlotLabel) (inv : SlotInv past state)
    (taken : state.step label = some next) (number : Nat) (was is : Member) (before : state.members[number]? = some was)
    (after : next.members[number]? = some is) (alive : is.life ≠ .freed) : FramesKept was.delivery is.delivery := by
  have modified (position : Nat) (change : Member → Member)
      (found : (state.members.modify position change)[number]? = some is)
      (changed : number = position → is = change was → FramesKept was.delivery is.delivery) :
      FramesKept was.delivery is.delivery := by
    rcases Tables.modify_found state.members position number change is found with ⟨rfl, other, present, same⟩ | ⟨_, old⟩
    · rw [before, Option.some.injEq] at present
      subst present
      exact changed rfl same
    · rw [before, Option.some.injEq] at old
      exact old ▸ frames_kept_same was.delivery
  have outcome := step_cases state next inv.table label taken
  cases outcome with
  | subscribed position idle free isLabel =>
    have inside := (List.getElem?_eq_some_iff.mp before).1
    rw [List.getElem?_append_left inside, before, Option.some.injEq] at after
    exact after ▸ frames_kept_same was.delivery
  | detached position slot idle live isLabel =>
    exact modified position _ after fun _ same => by rw [same]; exact frames_kept_same was.delivery
  | freed position member found detached isLabel =>
    exact modified position _ after fun _ same => absurd (by rw [same]; rfl) alive
  | began frame cached idle isLabel =>
    rw [before, Option.some.injEq] at after
    exact after ▸ frames_kept_same was.delivery
  | quiet cachedFrame shuttingDown holder replacing awaited shut =>
    rw [before, Option.some.injEq] at after
    exact after ▸ frames_kept_same was.delivery
  | operated position member operation delivery holder found lives operated others grown isLabel =>
    refine modified position _ after fun same changed => ?_
    subst same
    rw [before, Option.some.injEq] at found
    subst found
    obtain ⟨labels, reached⟩ := (inv.members was (List.mem_of_getElem? before)).reached lives
    rw [changed]
    exact (delivery_step_kept was.delivery delivery operation (delivery_queue_inv labels was.delivery reached) operated).2

def Member.isLive (member : Member) : Bool := decide (member.life = .live)

theorem live_count_same (members : List Member) (number : Nat) (change : Member → Member) (member : Member)
    (found : members[number]? = some member) (same : (change member).isLive = member.isLive) :
    (members.modify number change).countP Member.isLive = members.countP Member.isLive := by
  have count := Tables.count_modify Member.isLive change members number member found
  rw [same] at count
  omega

theorem live_count_step (state next : Broadcaster) (label : SlotLabel) (table : TableInv state)
    (counted : state.nSubs = state.members.countP Member.isLive) (taken : state.step label = some next) :
    next.nSubs = next.members.countP Member.isLive := by
  have outcome := step_cases state next table label taken
  cases outcome with
  | subscribed position idle free isLabel =>
    dsimp only
    rw [Tables.count_append, counted]
    rfl
  | detached number position idle live isLabel =>
    obtain ⟨member, found, isLive, _⟩ := live
    have count := Tables.count_modify Member.isLive (fun member => { member with life := .detached }) state.members number
      member found
    have was : member.isLive = true := decide_eq_true isLive
    have is : Member.isLive { member with life := .detached } = false := rfl
    rw [was, is, Bool.toNat_true, Bool.toNat_false] at count
    dsimp only
    omega
  | freed number member found detached isLabel =>
    refine counted.trans (live_count_same state.members number Member.free member found ?_).symm
    rw [Member.isLive, Member.isLive, detached]
    rfl
  | began frame cached idle isLabel => exact counted
  | quiet cachedFrame shuttingDown holder replacing awaited shut => exact counted
  | operated number member operation delivery holder found alive operated others grown isLabel =>
    exact counted.trans (live_count_same state.members number _ member found rfl).symm

-- The counter is the number of live subscribers, which is how a broadcaster without slots
-- has it.
theorem live_counted (labels : List SlotLabel) (state : Broadcaster)
    (reached : Runs.run Broadcaster.step .create labels = some state) :
    state.nSubs = state.members.countP Member.isLive := by
  have both : TableInv state ∧ state.nSubs = state.members.countP Member.isLive :=
    Runs.run_invariant Broadcaster.step .create
      (fun _ state => TableInv state ∧ state.nSubs = state.members.countP Member.isLive)
      ⟨slot_inv_create.table, rfl⟩
      (fun _ state label next inv taken =>
        ⟨table_inv_step state next label inv.1 taken, live_count_step state next label inv.1 inv.2 taken⟩)
      labels state reached
  exact both.2

theorem subscribers_accounted (labels : List SlotLabel) :
    Runs.Throughout Broadcaster.step .create labels Accounted ∧
      Runs.EachStep Broadcaster.step .create labels Stepwise := by
  have invariant (earlier : List SlotLabel) (state : Broadcaster)
      (reached : Runs.run Broadcaster.step .create earlier = some state) : SlotInv earlier state :=
    Runs.run_invariant Broadcaster.step .create SlotInv slot_inv_create
      (fun past state label next inv taken => slot_inv_step past state label next inv taken) earlier state reached
  constructor
  · intro before after state _ reached
    exact slot_inv_accounted before state (invariant before state reached)
  · intro earlier label later before after _ reached taken
    have inv := invariant earlier before reached
    exact ⟨fun _ => subscribe_refused earlier before inv, fun number was is found foundAfter alive =>
      step_frames_kept earlier before after label inv taken number was is found foundAfter alive⟩

end AiriesUps.Api.Slots
