import AiriesUps.Ups.Registry

set_option autoImplicit false

namespace AiriesUps.Ups

def Registry.phase? (state : Registry) : Option Phase := state.holder.map Holder.phase

def PhaseInv (state : Registry) : Phase → Prop
  | .detecting id | .rejecting id | .adopting id =>
    id ∈ state.live ∧ state.transport = none ∧ ∀ entry ∈ state.loaded, entry.2 ≠ some id
  | .connecting => state.transport = none
  | .resolvingCaps id | .resolvingRegs id | .refreshing id => state.transport = some id
  | .invoking => state.transport.isSome = true
  | _ => True

-- The calls made so far were sound, and the pointers ups_topology has read are live.
structure Calm (state : Registry) : Prop where
  log : ∀ invocation ∈ state.log, invocation.Sound
  loaded : ∀ entry ∈ state.loaded, ∃ id, entry.2 = some id ∧ id ∈ state.live
  fresh : ∀ id ∈ state.live, id < state.nextTransport

structure SafeInv (state : Registry) : Prop where
  calm : Calm state
  pointer : ∀ id, state.transport = some id → id ∈ state.live ∨ state.phase? = some .clearing
  phase : ∀ phase, state.phase? = some phase → PhaseInv state phase

-- ups_topology reads ups->transport only while it is up, and no teardown comes
-- between this and the driver's call; ups_close finds no call in progress, and none
-- is made after it.
def Undisturbed (state : Registry) : UpsLabel → Prop
  | .call _ _ => state.closed = false
  | .topology _ => state.closed = false ∧ state.transport.isSome = true ∧ state.phase? ≠ some .clearing
  | .advance _ _ => state.phase? = some .disconnecting → state.loaded = []
  | .getTopology _ => True
  | .close _ => state.closed = false ∧ state.holder = none ∧ state.loaded = []

instance (state : Registry) (label : UpsLabel) : Decidable (Undisturbed state label) :=
  match label with
  | .call _ _ => inferInstanceAs (Decidable (state.closed = false))
  | .topology _ =>
    inferInstanceAs (Decidable (state.closed = false ∧ state.transport.isSome = true ∧ state.phase? ≠ some .clearing))
  | .advance _ _ => inferInstanceAs (Decidable (state.phase? = some .disconnecting → state.loaded = []))
  | .getTopology _ => isTrue trivial
  | .close _ => inferInstanceAs (Decidable (state.closed = false ∧ state.holder = none ∧ state.loaded = []))

-- After ups_close.
structure Shut (state : Registry) : Prop where
  closed : state.closed = true
  unshared : state.holder = none ∧ state.loaded = []
  log : ∀ invocation ∈ state.log, invocation.Sound

theorem calm_goto (state : Registry) (holder : Holder) (phase : Phase) (calm : Calm state) : Calm (state.goto holder phase) :=
  ⟨calm.log, calm.loaded, calm.fresh⟩

theorem calm_invoke (state : Registry) (op : DriverOp) (id : Nat) (calm : Calm state) (live : id ∈ state.live) :
    Calm (state.invoke op (some id)) := by
  refine ⟨?_, calm.loaded, calm.fresh⟩
  intro invocation member
  rcases List.mem_append.mp member with earlier | last
  · exact calm.log invocation earlier
  · rw [List.mem_singleton.mp last]
    exact ⟨rfl, List.contains_iff_mem.mpr live⟩

theorem calm_add_transport (state : Registry) (calm : Calm state) : Calm state.addTransport := by
  refine ⟨calm.log, ?_, ?_⟩
  · intro entry member
    obtain ⟨id, pointer, present⟩ := calm.loaded entry member
    exact ⟨id, pointer, List.mem_cons_of_mem _ present⟩
  · intro id member
    rcases List.mem_cons.mp member with rfl | old
    · exact Nat.lt_succ_self _
    · exact Nat.lt_succ_of_lt (calm.fresh id old)

theorem calm_disconnect (state : Registry) (id : Nat) (calm : Calm state)
    (unread : ∀ entry ∈ state.loaded, entry.2 ≠ some id) : Calm (state.disconnect id) := by
  refine ⟨calm.log, ?_, fun other member => calm.fresh other (List.mem_of_mem_erase member)⟩
  intro entry member
  obtain ⟨other, pointer, live⟩ := calm.loaded entry member
  refine ⟨other, pointer, (List.mem_erase_of_ne ?_).mpr live⟩
  rintro rfl
  exact unread entry member pointer

theorem safe_goto (state : Registry) (holder : Holder) (phase : Phase) (calm : Calm state)
    (pointer : ∀ id, state.transport = some id → id ∈ state.live ∨ phase = .clearing)
    (inv : PhaseInv state phase) : SafeInv (state.goto holder phase) := by
  refine ⟨calm_goto state holder phase calm, ?_, ?_⟩
  · intro id current
    exact (pointer id current).imp_right (congrArg some)
  · intro other same
    cases Option.some.inj same
    cases phase <;> exact inv

theorem pointer_live (state : Registry) (safe : SafeInv state) (calmPhase : state.phase? ≠ some .clearing) (id : Nat)
    (current : state.transport = some id) : id ∈ state.live :=
  (safe.pointer id current).resolve_right calmPhase

theorem safe_optional_call (state : Registry) (holder : Holder) (op : DriverOp) (id : Nat) (does : Bool) (next : Phase)
    (calm : Calm state) (alive : ∀ other, state.transport = some other → other ∈ state.live)
    (current : state.transport = some id) (inv : PhaseInv state next) :
    SafeInv ((if does then state.invoke op id else state).goto holder next) := by
  have pointer : ∀ other, state.transport = some other → other ∈ state.live ∨ next = .clearing := fun other same =>
    Or.inl (alive other same)
  split
  · exact safe_goto (state.invoke op id) holder next (calm_invoke state op id calm (alive id current)) pointer
      (by cases next <;> exact inv)
  · exact safe_goto state holder next calm pointer inv

theorem safe_down (state : Registry) (holder : Holder) (phase : Phase) (calm : Calm state) (down : state.transport = none)
    (inv : PhaseInv state phase) : SafeInv (state.goto holder phase) := by
  apply safe_goto state holder phase calm _ inv
  intro id current
  rw [down] at current
  cases current

theorem safe_up (state : Registry) (holder : Holder) (phase : Phase) (calm : Calm state)
    (alive : ∀ id, state.transport = some id → id ∈ state.live) (inv : PhaseInv state phase) :
    SafeInv (state.goto holder phase) :=
  safe_goto state holder phase calm (fun id current => Or.inl (alive id current)) inv

theorem safe_reconnect (driver : Driver) (state : Registry) (holder : Holder) (now : Int) (calm : Calm state)
    (down : state.transport = none) : SafeInv (tryReconnect driver state holder now) := by
  rw [tryReconnect]
  split
  · exact safe_down state holder _ calm down trivial
  split
  · exact safe_down state holder _ calm down trivial
  · exact safe_down _ holder _ ⟨calm.log, calm.loaded, calm.fresh⟩ down down

theorem safe_connect (driver : Driver) (state : Registry) (holder : Holder) (ok : Bool) (calm : Calm state)
    (down : state.transport = none) :
    SafeInv
      (if ok then
        state.addTransport.goto holder
          (if driver.hasDetect then .detecting state.nextTransport else .adopting state.nextTransport)
      else state.goto holder .leaving) := by
  have unloaded : ∀ entry ∈ state.loaded, entry.2 ≠ some state.nextTransport := by
    intro entry member same
    obtain ⟨id, pointer, present⟩ := calm.loaded entry member
    rw [same] at pointer
    cases pointer
    exact absurd (calm.fresh _ present) (Nat.lt_irrefl _)
  cases ok with
  | false => exact safe_down state holder _ calm down trivial
  | true =>
    apply safe_down _ holder _ (calm_add_transport state calm) down
    split
    · exact ⟨List.mem_cons_self .., down, unloaded⟩
    · exact ⟨List.mem_cons_self .., down, unloaded⟩

theorem safe_detect (state : Registry) (holder : Holder) (ok : Bool) (id : Nat) (calm : Calm state)
    (inv : PhaseInv state (.detecting id)) :
    SafeInv ((state.invoke .detect (some id)).goto holder (if ok then .adopting id else .rejecting id)) := by
  obtain ⟨present, down, unloaded⟩ := inv
  apply safe_down _ holder _ (calm_invoke state _ id calm present) down
  cases ok
  · exact ⟨present, down, unloaded⟩
  · exact ⟨present, down, unloaded⟩

theorem safe_reject (driver : Driver) (state : Registry) (holder : Holder) (id : Nat) (calm : Calm state)
    (inv : PhaseInv state (.rejecting id)) :
    SafeInv ((if driver.hasDisconnect then state.disconnect id else state).goto holder .leaving) := by
  obtain ⟨_, down, unloaded⟩ := inv
  split
  · exact safe_down _ holder _ (calm_disconnect state id calm unloaded) down trivial
  · exact safe_down _ holder _ calm down trivial

theorem safe_adopt (state : Registry) (holder : Holder) (id : Nat) (calm : Calm state)
    (inv : PhaseInv state (.adopting id)) :
    SafeInv ({ state with transport := some id, consecutiveErrors := 0 }.goto holder (.resolvingCaps id)) := by
  refine safe_up _ holder _ ⟨calm.log, calm.loaded, calm.fresh⟩ ?_ rfl
  intro other current
  cases Option.some.inj current
  exact inv.1

theorem safe_invoke (state : Registry) (holder : Holder) (ok : Bool) (calm : Calm state)
    (alive : ∀ id, state.transport = some id → id ∈ state.live) (up : state.transport.isSome = true) :
    SafeInv
      (let called := state.invoke (.op holder.op) state.transport
      if holder.op.counted then
        if ok then { called with consecutiveErrors := 0 }.goto holder .leaving else called.goto holder .failed
      else called.goto holder .leaving) := by
  obtain ⟨id, current⟩ := Option.isSome_iff_exists.mp up
  rw [current]
  have called := calm_invoke state (.op holder.op) id calm (alive id current)
  split
  · split
    · exact safe_up _ holder _ ⟨called.log, called.loaded, called.fresh⟩ alive trivial
    · exact safe_up _ holder _ called alive trivial
  · exact safe_up _ holder _ called alive trivial

theorem safe_error (driver : Driver) (state : Registry) (holder : Holder) (calm : Calm state)
    (alive : ∀ id, state.transport = some id → id ∈ state.live) : SafeInv (handleError driver state holder) := by
  have counted : Calm { state with consecutiveErrors := state.consecutiveErrors + 1 } :=
    ⟨calm.log, calm.loaded, calm.fresh⟩
  rw [handleError]
  simp only
  split
  · apply safe_up _ holder _ ⟨counted.log, counted.loaded, counted.fresh⟩ alive
    split <;> trivial
  · exact safe_up _ holder _ counted alive trivial

theorem safe_disconnect (state : Registry) (holder : Holder) (calm : Calm state) (unread : state.loaded = []) :
    SafeInv
      ((match state.transport with
        | some id => state.disconnect id
        | none => state).goto holder .clearing) := by
  apply safe_goto _ holder _ _ (fun _ _ => Or.inr rfl) trivial
  split
  · apply calm_disconnect state _ calm
    rw [unread]
    nofun
  · exact calm

theorem safe_advance (driver : Driver) (state : Registry) (holder : Holder) (ok : Bool) (now : Int) (safe : SafeInv state)
    (inside : state.holder = some holder) (undisturbed : holder.phase = .disconnecting → state.loaded = []) :
    SafeInv (advance driver state holder ok now) := by
  have here : state.phase? = some holder.phase := by rw [Registry.phase?, inside]; rfl
  have phaseInv := safe.phase holder.phase here
  have calm := safe.calm
  have live : holder.phase ≠ .clearing → ∀ id, state.transport = some id → id ∈ state.live := by
    intro other
    apply pointer_live state safe
    rw [here]
    exact fun same => other (Option.some.inj same)
  cases phase : holder.phase <;> rw [phase] at phaseInv live <;> simp only [advance, phase]
  case ensuring =>
    split
    · rename_i up
      exact safe_up state holder _ calm (live nofun) up
    · rename_i down
      exact safe_reconnect driver state holder now calm (Option.not_isSome_iff_eq_none.mp down)
  case connecting => exact safe_connect driver state holder ok calm phaseInv
  case detecting id => exact safe_detect state holder ok id calm phaseInv
  case rejecting id => exact safe_reject driver state holder id calm phaseInv
  case adopting id => exact safe_adopt state holder id calm phaseInv
  case resolvingCaps id =>
    exact safe_optional_call state holder .resolveCaps id _ _ calm (live nofun) phaseInv phaseInv
  case resolvingRegs id =>
    exact safe_optional_call state holder .resolveConfigRegs id _ _ calm (live nofun) phaseInv phaseInv
  case refreshing id =>
    have up : state.transport.isSome = true := by rw [phaseInv]; rfl
    exact safe_optional_call state holder (.op .readInventory) id _ _ calm (live nofun) phaseInv up
  case invoking => exact safe_invoke state holder ok calm (live nofun) phaseInv
  case failed => exact safe_error driver state holder calm (live nofun)
  case disconnecting => exact safe_disconnect state holder calm (undisturbed phase)
  case clearing => exact safe_down _ holder _ ⟨calm.log, calm.loaded, calm.fresh⟩ rfl trivial
  case leaving => exact ⟨⟨calm.log, calm.loaded, calm.fresh⟩, fun id current => Or.inl (live nofun id current), nofun⟩

theorem close_shut (driver : Driver) (state : Registry) (safe : SafeInv state)
    (idle : state.holder = none ∧ state.loaded = []) : Shut (state.upsClose driver) := by
  unfold Registry.upsClose
  split
  · split
    · exact ⟨rfl, idle, safe.calm.log⟩
    · exact ⟨rfl, idle, safe.calm.log⟩
  · exact ⟨rfl, idle, safe.calm.log⟩

theorem safe_step (driver : Driver) (state next : Registry) (label : UpsLabel) (safe : SafeInv state)
    (undisturbed : Undisturbed state label) (taken : state.step driver label = some next) : SafeInv next ∨ Shut next := by
  cases label with
  | call thread op =>
    simp only [Registry.step] at taken
    split at taken
    · rename_i enabled
      cases taken
      have outside : state.holder = none := by
        cases held : state.holder with
        | none => rfl
        | some _ => simp [held] at enabled
      refine Or.inl ⟨⟨safe.calm.log, safe.calm.loaded, safe.calm.fresh⟩, ?_, ?_⟩
      · intro id current
        refine Or.inl (pointer_live state safe ?_ id current)
        rw [Registry.phase?, outside]
        exact nofun
      · intro phase same
        cases same
        trivial
    · cases taken
  | advance ok now =>
    obtain ⟨holder, inside, rfl⟩ := Option.map_eq_some_iff.mp taken
    refine Or.inl (safe_advance driver state holder ok now safe inside fun phase => undisturbed ?_)
    rw [Registry.phase?, inside, Option.map_some, phase]
  | topology thread =>
    simp only [Registry.step] at taken
    split at taken
    · cases taken
      refine Or.inl ⟨⟨safe.calm.log, ?_, safe.calm.fresh⟩, safe.pointer, ?_⟩
      · intro entry member
        rcases List.mem_cons.mp member with rfl | old
        · obtain ⟨id, current⟩ := Option.isSome_iff_exists.mp undisturbed.2.1
          exact ⟨id, current, pointer_live state safe undisturbed.2.2 id current⟩
        · exact safe.calm.loaded entry old
      · intro phase same
        have inv := safe.phase phase same
        obtain ⟨id, current⟩ := Option.isSome_iff_exists.mp undisturbed.2.1
        cases phase with
        | detecting _ => exact absurd (inv.2.1.symm.trans current) nofun
        | rejecting _ => exact absurd (inv.2.1.symm.trans current) nofun
        | adopting _ => exact absurd (inv.2.1.symm.trans current) nofun
        | _ => exact inv
    · cases taken
  | getTopology thread =>
    obtain ⟨entry, found, rfl⟩ := Option.map_eq_some_iff.mp taken
    obtain ⟨id, pointer, live⟩ := safe.calm.loaded entry (List.mem_of_find?_eq_some found)
    have called := calm_invoke state .getTopology id safe.calm live
    rw [pointer]
    refine Or.inl ⟨⟨called.log, ?_, called.fresh⟩, safe.pointer, ?_⟩
    · exact fun other member => safe.calm.loaded other (List.mem_of_mem_erase member)
    · intro phase same
      have inv := safe.phase phase same
      cases phase with
      | detecting _ => exact ⟨inv.1, inv.2.1, fun other member => inv.2.2 other (List.mem_of_mem_erase member)⟩
      | rejecting _ => exact ⟨inv.1, inv.2.1, fun other member => inv.2.2 other (List.mem_of_mem_erase member)⟩
      | adopting _ => exact ⟨inv.1, inv.2.1, fun other member => inv.2.2 other (List.mem_of_mem_erase member)⟩
      | _ => exact inv
  | close thread =>
    simp only [Registry.step] at taken
    split at taken
    · cases taken
      exact Or.inr (close_shut driver state safe undisturbed.2)
    · cases taken

theorem shut_step (driver : Driver) (state next : Registry) (label : UpsLabel) (shut : Shut state)
    (undisturbed : Undisturbed state label) (taken : state.step driver label = some next) : Shut next := by
  have open_ : state.closed ≠ false := by simp [shut.closed]
  cases label with
  | call thread op => exact absurd undisturbed open_
  | topology thread => exact absurd undisturbed.1 open_
  | close thread => exact absurd undisturbed.1 open_
  | advance ok now => simp [Registry.step, shut.unshared.1] at taken
  | getTopology thread => simp [Registry.step, shut.unshared.2] at taken

-- ups_connect hands over a handle whose transport is live, and every call it made
-- on the way was given a connected transport.
structure Opening (state : Registry) : Prop where
  calm : Calm state
  unshared : state.holder = none ∧ state.loaded = []

theorem opening_calls (driver : Driver) (resolves : Bool) (state : Registry) (id : Nat) (opening : Opening state)
    (live : id ∈ state.live) : SafeInv (openHandle driver resolves state id) := by
  have optional : ∀ (before : Registry) (op : DriverOp) (does : Bool), Opening before ∧ before.live = state.live →
      Opening (if does then before.invoke op (some id) else before) ∧
        (if does then before.invoke op (some id) else before).live = state.live := by
    rintro before op does ⟨opened, same⟩
    cases does with
    | true => exact ⟨⟨calm_invoke before op id opened.calm (by rw [same]; exact live), opened.unshared⟩, same⟩
    | false => exact ⟨opened, same⟩
  have resolved := optional state .resolveCaps driver.hasResolveCaps ⟨opening, rfl⟩
  have narrowed := optional _ .resolveConfigRegs (driver.hasResolveRegs && resolves) resolved
  have read := optional _ (.op .readInventory) (driver.accepts .readInventory) narrowed
  refine ⟨⟨read.1.calm.log, read.1.calm.loaded, read.1.calm.fresh⟩, ?_, ?_⟩
  · intro other same
    cases Option.some.inj same
    exact Or.inl (by rw [← read.2] at live; exact live)
  · intro phase same
    have unheld := read.1.unshared.1
    simp only [Registry.phase?] at same
    rw [show (openHandle driver resolves state id).holder = none from unheld] at same
    cases same

theorem connect_loop_safe (attempts : List Attempt) (state : Registry) (driver : Driver) (opened : Registry)
    (opening : Opening state) (connected : connectLoop state attempts = some (driver, opened)) : SafeInv opened := by
  induction attempts generalizing state with
  | nil => cases connected
  | cons attempt rest ih =>
    rw [connectLoop] at connected
    split at connected
    · exact ih state opening connected
    have fresh : Opening state.addTransport := ⟨calm_add_transport state opening.calm, opening.unshared⟩
    have probed := calm_invoke state.addTransport .detect state.nextTransport fresh.calm (List.mem_cons_self ..)
    simp only at connected
    split at connected
    · split at connected
      · cases connected
        exact opening_calls _ _ _ _ ⟨probed, fresh.unshared⟩ (List.mem_cons_self ..)
      · cases connected
    · refine ih _ ?_ connected
      split
      · refine ⟨calm_disconnect _ _ probed ?_, fresh.unshared⟩
        exact fun entry member => absurd (fresh.unshared.2 ▸ member : entry ∈ []) List.not_mem_nil
      · exact ⟨probed, fresh.unshared⟩

-- Every call into the driver gets a transport that is connected then, in every
-- undisturbed run.
theorem driver_calls_connected (attempts : List Attempt) (driver : Driver) (opened : Registry)
    (connected : upsConnect attempts = some (driver, opened)) (labels : List UpsLabel) (final : Registry)
    (reached : Runs.run (Registry.step driver) opened labels = some final)
    (undisturbed : Runs.Admitted (Registry.step driver) Undisturbed opened labels) :
    ∀ invocation ∈ final.log, invocation.Sound := by
  have blank : Opening .blank := ⟨⟨nofun, nofun, nofun⟩, rfl, rfl⟩
  have start := connect_loop_safe attempts .blank driver opened blank connected
  have ended := Runs.guarded_invariant (Registry.step driver) Undisturbed opened (fun state => SafeInv state ∨ Shut state)
    (Or.inl start)
    (fun state label next inv allowed taken => inv.elim (fun safe => safe_step driver state next label safe allowed taken)
      fun shut => Or.inr (shut_step driver state next label shut allowed taken))
    labels final reached undisturbed
  exact ended.elim (fun safe => safe.calm.log) Shut.log

def hidDriver : Driver :=
  { hasConnect := true, hasDetect := true, hasDisconnect := true, hasGetTopology := true, hasResolveCaps := true
    hasResolveRegs := true, accepts := fun op => op != .readTransferReason }

def hidAttempt : Attempt := { driver := hidDriver, connects := true, detects := true, allocates := true, resolves := true }

def hidHandle : Registry := ((upsConnect [hidAttempt]).map Prod.snd).getD .blank

def failedRead : List UpsLabel :=
  [.call 0 .readStatus, .advance true 100, .advance false 100, .advance true 100, .advance true 100]

-- The UPS is unplugged: the fifth failed read tears the transport down, and an API
-- handler asks for the topology.
def unpluggedRun : List UpsLabel :=
  failedRead ++ failedRead ++ failedRead ++ failedRead ++ failedRead ++
    [.advance true 100, .advance true 100, .topology 1, .getTopology 1]

theorem topology_call_on_null_transport :
    upsConnect [hidAttempt] = some (hidDriver, hidHandle) ∧
      (Runs.run (Registry.step hidDriver) hidHandle unpluggedRun).isSome = true ∧
      ¬ ∀ invocation ∈ (Runs.final (Registry.step hidDriver) hidHandle unpluggedRun).log, invocation.Sound := by
  refine ⟨rfl, by decide +kernel, by decide +kernel⟩

-- The topology is asked for before the teardown, the transport comes back, and the
-- handle is closed.
def replugRun : List UpsLabel :=
  failedRead ++ [.topology 1, .getTopology 1] ++ failedRead ++ failedRead ++ failedRead ++ failedRead ++
    [.advance true 100, .advance true 100, .call 0 .readStatus, .advance true 103, .advance true 103, .advance true 103,
      .advance true 103, .advance true 103, .advance true 103, .advance true 103, .advance true 103, .advance true 103,
      .close 2]

theorem replug_run_connected :
    (Runs.run (Registry.step hidDriver) hidHandle replugRun).isSome = true ∧
      ∀ invocation ∈ (Runs.final (Registry.step hidDriver) hidHandle replugRun).log, invocation.Sound := by
  have completes : (Runs.run (Registry.step hidDriver) hidHandle replugRun).isSome = true := by decide +kernel
  exact ⟨completes, driver_calls_connected [hidAttempt] hidDriver hidHandle rfl replugRun _
    (Runs.run_final _ _ _ completes) (by decide +kernel)⟩

end AiriesUps.Ups
