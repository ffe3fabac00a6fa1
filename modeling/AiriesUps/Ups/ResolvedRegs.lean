import AiriesUps.Ups.RegPointers
import Mathlib.Data.Fintype.EquivFin

set_option autoImplicit false

namespace AiriesUps.Ups

open Hid (ConfigReg)

-- The descriptors of the connected device: what the resolver kept, or the whole table of
-- a driver without a resolver.
def connectedRegs (ups : Handle) : List ConfigReg :=
  if ups.driver.resolveConfigRegs then (keptOf ups.calls).getD [] else ups.driver.configRegs.getD []

-- A read or a write by name, as the API makes it: what it does to the handle once it has
-- the lock, none where it makes no call.
def readNamed (ups : Handle) (name : String) (meanwhile : Meanwhile) (answers : Answers) : Handle :=
  match upsFindConfigReg ups name with
  | some pointer => (upsConfigRead (meanwhile.locked ups) pointer answers).1
  | none => meanwhile.locked ups

def writeNamed (ups : Handle) (name : String) (value : BitVec 16) (meanwhile : Meanwhile) (answers : Answers) : Handle :=
  match upsFindConfigReg ups name with
  | some pointer =>
    (configWriteSeen (meanwhile.locked ups) ((meanwhile.checked ups).deref meanwhile.stale pointer) pointer value answers).1
  | none => meanwhile.locked ups

def Call.reg? : Call → Option ConfigReg
  | .configRead _ reg _ | .configWrite _ reg _ _ => some reg
  | _ => none

abbrev TouchesOnly (regs : List ConfigReg) (before after : Handle) : Prop :=
  Adds (fun call => ∀ reg, call.reg? = some reg → reg ∈ regs) before after

-- What is read and written is compared with the descriptors of the device that is
-- connected when the driver's function is called.
structure Exposes (ups : Handle) (meanwhile : Meanwhile) : Prop where
  listed : upsGetConfigRegs ups = connectedRegs ups
  found : ∀ name, findDescriptor ups name = (connectedRegs ups).find? fun reg => reg.name == name
  read : ∀ name answers, answers.allocates = true →
    TouchesOnly (connectedRegs (readNamed ups name meanwhile answers)) (meanwhile.locked ups)
      (readNamed ups name meanwhile answers)
  written : ∀ name value answers, answers.allocates = true →
    TouchesOnly (connectedRegs (writeNamed ups name value meanwhile answers)) (meanwhile.locked ups)
      (writeNamed ups name value meanwhile answers)

-- The device that was connected at the look-up still is when the call has the lock.
def StillConnected (ups : Handle) (meanwhile : Meanwhile) : Prop :=
  (meanwhile.locked ups).transport.isSome = true ∧ (meanwhile.locked ups).resolutions = ups.resolutions

-- Some read or write by name gets as far as the transport.
def Callable (ups : Handle) (meanwhile : Meanwhile) : Prop :=
  ∃ name pointer, upsFindConfigReg ups name = some pointer ∧
    (ups.driver.configRead = true ∨
      ∃ value, configWriteRefusal ups.driver ((meanwhile.checked ups).deref meanwhile.stale pointer) value = none)

structure ResolvedInv (ups : Handle) : Prop where
  resolved : ups.resolvedRegs = (keptOf ups.calls).filter fun regs => !regs.isEmpty
  asked : (keptOf ups.calls).isSome = ups.driver.narrows
  table : ups.driver.narrows = false → ups.table = ups.driver.configRegs.getD []
  size : ups.table.length = (ups.driver.configRegs.getD []).length
  connects : ups.driver.connect = true

theorem resolve_runtime_kept (ups : Handle) (transport : Nat) (answers : Answers) (allocates : answers.allocates = true)
    (forgotten : keptOf ups.calls = none) :
    keptOf (upsResolveRuntime ups transport answers).calls = (if ups.driver.narrows then some answers.keeps else none) ∧
      (upsResolveRuntime ups transport answers).resolvedRegs =
        (if ups.driver.narrows then some answers.keeps else none).filter fun regs => !regs.isEmpty := by
  rw [upsResolveRuntime, allocates, Bool.and_true]
  dsimp only
  cases narrows : ups.driver.narrows with
  | false => exact ⟨forgotten, rfl⟩
  | true =>
    have asked : keptOf (ups.calls ++ [.resolveConfigRegs transport answers.keeps]) = some answers.keeps := kept_record _ _
    rw [if_pos rfl, if_pos rfl]
    cases keeps : answers.keeps with
    | nil =>
      rw [keeps] at asked
      exact ⟨asked, rfl⟩
    | cons reg rest =>
      rw [keeps] at asked
      exact ⟨asked, rfl⟩

theorem resolve_runtime_resolved (ups : Handle) (transport : Nat) (answers : Answers) (allocates : answers.allocates = true)
    (forgotten : keptOf ups.calls = none) (connects : ups.driver.connect = true)
    (table : ups.driver.narrows = false → ups.table = ups.driver.configRegs.getD [])
    (size : ups.table.length = (ups.driver.configRegs.getD []).length) :
    ResolvedInv (upsResolveRuntime ups transport answers) := by
  obtain ⟨kept, resolved⟩ := resolve_runtime_kept ups transport answers allocates forgotten
  have later := (resolve_runtime_later ups transport answers).2
  constructor
  · rw [resolved, kept]
  · rw [kept, later.driver]
    cases ups.driver.narrows <;> rfl
  · rw [later.driver]
    exact fun narrows => (later.plain narrows).1.trans (table narrows)
  · rw [later.driver, ← size, upsResolveRuntime]
    split
    · dsimp only
      split <;> exact List.length_mapIdx
    · rfl
  · rw [later.driver]
    exact connects

theorem SameRegs.inv {before after : Handle} (same : SameRegs before after) (inv : ResolvedInv before) :
    ResolvedInv after := by
  constructor
  · rw [same.resolved, same.kept]
    exact inv.resolved
  · rw [same.kept, same.driver]
    exact inv.asked
  · rw [same.driver, same.table]
    exact inv.table
  · rw [same.driver, same.table]
    exact inv.size
  · rw [same.driver]
    exact inv.connects

theorem adopt_resolved (found : Handle) (transport : Nat) (answers : Answers) (allocates : answers.allocates = true)
    (inv : ResolvedInv found) : ResolvedInv (adopt found transport answers) := by
  have forgotten : keptOf (attached found transport).calls = none := kept_record found.calls (.attach transport)
  have resolved := resolve_runtime_resolved (attached found transport) transport answers allocates forgotten inv.connects
    inv.table inv.size
  exact (refresh_inventory_regs _ transport answers.inventoryRc).inv resolved

theorem ensured_resolved (ups next : Handle) (answers : Answers) (inv : ResolvedInv ups)
    (allocates : answers.allocates = true) (ensuring : Ensured ups answers next) : ResolvedInv next := by
  cases ensuring with
  | kept _ => exact inv
  | waiting _ _ => exact inv
  | refused _ _ => exact (tried_regs ups answers.now).inv inv
  | rejected _ _ => exact ((probed_regs ups answers.now false).trans (disconnect_regs _ _)).inv inv
  | adopted _ _ found claimed =>
    have same : SameRegs ups found := by
      rcases claimed with rfl | rfl
      · exact opened_regs ups answers.now
      · exact probed_regs ups answers.now true
    exact adopt_resolved found ups.nextTransport answers allocates (same.inv inv)

theorem serve_resolved (ups : Handle) (request : Request) (answers : Answers) (inv : ResolvedInv ups)
    (allocates : answers.allocates = true) : ResolvedInv (serve ups request answers).1 := by
  have served := serve_cases ups request answers
  generalize (serve ups request answers).1 = next at served ⊢
  cases served with
  | unsupported => exact inv
  | unreached _ ensuring _ => exact ensured_resolved ups _ answers inv allocates ensuring
  | called ensured ensuring _ _ call isRequest _ =>
    exact (request_regs ensured call isRequest).inv (ensured_resolved ups ensured answers inv allocates ensuring)
  | succeeded ensured ensuring _ _ call isRequest _ =>
    have cleared : SameRegs (ensured.record call) (upsClearErrors (ensured.record call)) := ⟨rfl, rfl, rfl, rfl, rfl⟩
    exact ((request_regs ensured call isRequest).trans cleared).inv
      (ensured_resolved ups ensured answers inv allocates ensuring)
  | failed ensured ensuring _ _ call isRequest _ =>
    exact ((request_regs ensured call isRequest).trans (handle_error_regs _)).inv
      (ensured_resolved ups ensured answers inv allocates ensuring)

theorem run_resolved (start : Handle) (inv : ResolvedInv start) (requests : List (Request × Answers)) (final : Handle)
    (allocates : ∀ taken ∈ requests, taken.2.allocates = true)
    (reached : Runs.run Handle.step start requests = some final) : ResolvedInv final := by
  induction requests generalizing start with
  | nil =>
    cases reached
    exact inv
  | cons taken rest ih =>
    apply ih (serve start taken.1 taken.2).1
    · exact serve_resolved start taken.1 taken.2 inv (allocates taken List.mem_cons_self)
    · exact fun other member => allocates other (List.mem_cons_of_mem taken member)
    · exact reached

theorem connect_loop_resolved (type : ConnType) (probes : List Probe)
    (allocates : ∀ probe ∈ probes, probe.answers.allocates = true) (index transport : Nat) (matched connected : Bool)
    (calls : List Call) (ups : Handle)
    (found : (upsConnectLoop type index transport matched connected calls probes).handle = some ups) : ResolvedInv ups := by
  obtain ⟨position, opened, probe, before, member, connects, _, rfl⟩ :=
    connect_loop_opens type (fun _ => True) (fun _ _ _ _ _ => trivial) probes index transport matched connected calls trivial
      ups found
  have present := allocates probe member
  have blank : keptOf (blankContext position probe.driver opened
      (before ++ [.connect position opened, .detect position opened probe.answers.detects])).calls = none :=
    kept_record _ (.attach opened)
  exact serve_resolved _ .readInventory _
    (resolve_runtime_resolved _ opened probe.answers present blank connects (fun _ => rfl) rfl) present

theorem connected_same {before after : Handle} (same : SameRegs before after) : connectedRegs after = connectedRegs before := by
  rw [connectedRegs, connectedRegs, same.driver, same.kept]

theorem listed_iff (ups : Handle) (inv : ResolvedInv ups) :
    upsGetConfigRegs ups = connectedRegs ups ↔ keptOf ups.calls ≠ some [] := by
  have asked := inv.asked
  rw [upsGetConfigRegs, inv.resolved, connectedRegs]
  cases kept : keptOf ups.calls with
  | none =>
    rw [kept, Option.isSome_none] at asked
    have table := inv.table asked.symm
    rw [UpsDriver.narrows] at asked
    cases resolver : ups.driver.resolveConfigRegs with
    | false => simp [table]
    | true =>
      rw [resolver, Bool.true_and] at asked
      cases regs : ups.driver.configRegs with
      | none => simp [table, regs]
      | some entries =>
        rw [regs] at asked
        simp [table, regs]
        simpa using asked
  | some regs =>
    rw [kept, Option.isSome_some, UpsDriver.narrows] at asked
    obtain ⟨resolver, some_⟩ := (Bool.and_eq_true _ _).mp asked.symm
    have size := inv.size
    rw [resolver]
    cases regs with
    | cons reg rest => exact iff_of_true rfl fun same => by cases same
    | nil =>
      cases static : ups.driver.configRegs with
      | none => simp [static] at some_
      | some entries =>
        rw [static] at size some_
        apply iff_of_false
        · intro empty
          rw [show ups.table = [] from empty] at size
          have none_ : entries = [] := List.length_eq_zero_iff.mp size.symm
          rw [none_] at some_
          cases some_
        · exact fun nonempty => nonempty rfl

theorem connection_reg (call : Call) (connection : call.isConnection = true) : call.reg? = none := by
  cases call <;> first | rfl | cases connection

theorem connection_touches (regs : List ConfigReg) (call : Call) (connection : call.isConnection = true) (reg : ConfigReg)
    (same : call.reg? = some reg) : reg ∈ regs := by
  rw [connection_reg call connection] at same
  cases same

-- A dispatched call is made with the transport that was ensured, and moves no descriptor.
theorem dispatch_regs (ups : Handle) (call : Nat → Int → Call) (counted : Bool) (answers : Answers)
    (request : ∀ transport rc, (call transport rc).isRequest = true) :
    SameRegs (upsEnsureTransport ups answers) (dispatch ups true call counted answers).1 := by
  rw [dispatch, Bool.not_true, if_neg Bool.false_ne_true]
  dsimp only
  split
  · exact SameRegs.refl _
  · rename_i transport _
    have called := request_regs (upsEnsureTransport ups answers) (call transport answers.rc) (request transport answers.rc)
    split
    · exact called
    split
    · exact called.trans (handle_error_regs _)
    · exact called.trans ⟨rfl, rfl, rfl, rfl, rfl⟩

theorem touches_dispatch (regs : List ConfigReg) (ups : Handle) (call : Nat → Int → Call) (counted : Bool)
    (answers : Answers)
    (inside : (upsEnsureTransport ups answers).transport.isSome = true →
      ∀ transport rc reg, (call transport rc).reg? = some reg → reg ∈ regs) :
    TouchesOnly regs ups (dispatch ups true call counted answers).1 := by
  have ensured : TouchesOnly regs ups (upsEnsureTransport ups answers) :=
    adds_mono _ _ _ _ (connection_touches regs) (ensure_adds ups answers)
  cases up : (upsEnsureTransport ups answers).transport with
  | none =>
    rw [dispatch, Bool.not_true, if_neg Bool.false_ne_true]
    dsimp only
    rw [up]
    exact ensured
  | some transport =>
    exact adds_trans _ _ _ _ ensured
      (dispatch_adds _ ups call counted answers (connection_touches regs) (inside (by rw [up]; rfl)))

-- A call that succeeds is the last thing a dispatch does.
theorem dispatch_made (ups : Handle) (call : Nat → Int → Call) (counted : Bool) (answers : Answers) (transport : Nat)
    (up : (upsEnsureTransport ups answers).transport = some transport) (succeeds : answers.rc = 0) :
    (dispatch ups true call counted answers).1.calls = (upsEnsureTransport ups answers).calls ++ [call transport 0] := by
  rw [dispatch, Bool.not_true, if_neg Bool.false_ne_true]
  dsimp only
  rw [up, succeeds]
  cases counted <;> rfl

theorem touched_inside (regs : List ConfigReg) (ups after : Handle) (answers : Answers) (call : Call) (reg : ConfigReg)
    (touches : TouchesOnly regs ups after) (made : after.calls = (upsEnsureTransport ups answers).calls ++ [call])
    (about : call.reg? = some reg) : reg ∈ regs := by
  obtain ⟨more, calls, inside⟩ := touches
  obtain ⟨earlier, ensured, _⟩ := ensure_adds ups answers
  rw [made, ensured, List.append_assoc] at calls
  have own := List.append_cancel_left calls
  exact inside call (own ▸ List.mem_append_right _ (List.mem_singleton_self call)) reg about

theorem read_regs (ups : Handle) (name : String) (meanwhile : Meanwhile) (answers : Answers) (pointer : RegPointer)
    (found : upsFindConfigReg ups name = some pointer) (reads : ups.driver.configRead = true) :
    readNamed ups name meanwhile answers =
      (dispatch (meanwhile.locked ups) true
        (fun transport rc => .configRead transport ((meanwhile.locked ups).passed pointer answers) rc) true answers).1 := by
  rw [readNamed, found]
  dsimp only
  rw [upsConfigRead, (locked_later ups meanwhile).driver, reads]

theorem write_regs (ups : Handle) (name : String) (value : BitVec 16) (meanwhile : Meanwhile) (answers : Answers)
    (pointer : RegPointer) (found : upsFindConfigReg ups name = some pointer)
    (passes : configWriteRefusal ups.driver ((meanwhile.checked ups).deref meanwhile.stale pointer) value = none) :
    writeNamed ups name value meanwhile answers =
      (dispatch (meanwhile.locked ups) true
        (fun transport rc => .configWrite transport ((meanwhile.locked ups).passed pointer answers) value rc) false
        answers).1 := by
  rw [writeNamed, found]
  dsimp only
  rw [configWriteSeen, (locked_later ups meanwhile).driver, passes]

-- What every read and write by name touches, if what the driver is passed is a descriptor
-- of the device that is connected then.
theorem exposes_of_passed (ups : Handle) (meanwhile : Meanwhile) (listed : upsGetConfigRegs ups = connectedRegs ups)
    (passed : Callable ups meanwhile → ∀ name pointer answers, upsFindConfigReg ups name = some pointer →
      (upsEnsureTransport (meanwhile.locked ups) answers).transport.isSome = true →
      (meanwhile.locked ups).passed pointer answers ∈ connectedRegs (upsEnsureTransport (meanwhile.locked ups) answers)) :
    Exposes ups meanwhile := by
  refine ⟨listed, fun name => by rw [← listed]; rfl, ?_, ?_⟩
  · intro name answers _
    cases found : upsFindConfigReg ups name with
    | none =>
      rw [readNamed, found]
      exact adds_nothing _ _ _ rfl
    | some pointer =>
      cases reads : ups.driver.configRead with
      | false =>
        rw [readNamed, found]
        dsimp only
        rw [upsConfigRead, (locked_later ups meanwhile).driver, reads]
        exact adds_nothing _ _ _ rfl
      | true =>
        rw [read_regs ups name meanwhile answers pointer found reads, connected_same (dispatch_regs _ _ _ _ fun _ _ => rfl)]
        apply touches_dispatch
        intro up _ _ reg same
        cases same
        exact passed ⟨name, pointer, found, Or.inl reads⟩ name pointer answers found up
  · intro name value answers _
    cases found : upsFindConfigReg ups name with
    | none =>
      rw [writeNamed, found]
      exact adds_nothing _ _ _ rfl
    | some pointer =>
      cases passes : configWriteRefusal ups.driver ((meanwhile.checked ups).deref meanwhile.stale pointer) value with
      | some code =>
        rw [writeNamed, found]
        dsimp only
        rw [configWriteSeen, (locked_later ups meanwhile).driver, passes]
        exact adds_nothing _ _ _ rfl
      | none =>
        rw [write_regs ups name value meanwhile answers pointer found passes,
          connected_same (dispatch_regs _ _ _ _ fun _ _ => rfl)]
        apply touches_dispatch
        intro up _ _ reg same
        cases same
        exact passed ⟨name, pointer, found, Or.inr ⟨value, passes⟩⟩ name pointer answers found up

theorem still_connected_passed (ups : Handle) (meanwhile : Meanwhile) (listed : upsGetConfigRegs ups = connectedRegs ups)
    (still : StillConnected ups meanwhile) (name : String) (pointer : RegPointer) (answers : Answers)
    (found : upsFindConfigReg ups name = some pointer) :
    (meanwhile.locked ups).passed pointer answers ∈ connectedRegs (upsEnsureTransport (meanwhile.locked ups) answers) := by
  obtain ⟨up, resolutions⟩ := still
  have quiet : (meanwhile.locked ups).reconnects answers = false := by
    simp [Handle.reconnects, Option.isNone_eq_false_iff.mpr up]
  have same := ((locked_later ups meanwhile).same resolutions).trans (ensure_keeps _ answers quiet).1
  rw [connected_same same, ← listed, Handle.passed, same.deref]
  exact List.mem_of_find?_eq_some (find_points ups name pointer answers.refilled found)

-- Without a resolver every pointer goes into the driver's own array, which never changes.
theorem plain_passed (ups : Handle) (inv : ResolvedInv ups) (meanwhile : Meanwhile) (plain : ups.driver.narrows = false)
    (name : String) (pointer : RegPointer) (answers : Answers) (found : upsFindConfigReg ups name = some pointer) :
    (meanwhile.locked ups).passed pointer answers ∈ connectedRegs (upsEnsureTransport (meanwhile.locked ups) answers) := by
  have later := (locked_later ups meanwhile).trans (ensure_later (meanwhile.locked ups) answers)
  have kept : keptOf ups.calls = none := by
    rw [← Option.not_isSome_iff_eq_none, inv.asked, plain]
    exact Bool.false_ne_true
  have unset : ups.resolvedRegs = none := by rw [inv.resolved, kept]; rfl
  have table := inv.table plain
  have points := find_points ups name pointer answers.refilled found
  have own : pointer.block = none := by
    obtain ⟨index, _, rfl⟩ := Option.map_eq_some_iff.mp found
    rw [unset]
    rfl
  have same : (meanwhile.locked ups).passed pointer answers = ups.deref answers.refilled pointer := by
    rw [Handle.passed, Handle.deref, Handle.deref, own]
    exact congrArg (fun regs => regs.getD pointer.index answers.refilled) (later.plain plain).1
  have listed : ups.deref answers.refilled pointer ∈ ups.driver.configRegs.getD [] := by
    rw [← table]
    have member := List.mem_of_find?_eq_some points
    rwa [upsGetConfigRegs, unset] at member
  have resolver : ups.driver.resolveConfigRegs = false := by
    rw [UpsDriver.narrows] at plain
    cases regs : ups.driver.configRegs with
    | none =>
      rw [regs] at listed
      cases listed
    | some entries =>
      cases entries with
      | nil =>
        rw [regs] at listed
        cases listed
      | cons reg rest => simpa [regs] using plain
  rw [connectedRegs, later.driver, resolver, if_neg Bool.false_ne_true, same]
  exact listed

instance : Infinite ConfigReg :=
  Infinite.of_injective (fun count : Nat => (⟨"", 0, .string count, false⟩ : ConfigReg)) fun one two same => by
    injection same with _ _ kind
    injection kind

theorem unlisted_reg (regs : List ConfigReg) : ∃ reg, reg ∉ regs := by
  obtain ⟨reg, outside⟩ := Infinite.exists_notMem_finset regs.toFinset
  exact ⟨reg, fun inside => outside (List.mem_toFinset.mpr inside)⟩

-- Answers under which the call finds or gets a transport, the device then has no
-- registers, and the freed memory reads as reg.
def renewing (ups : Handle) (reg : ConfigReg) : Answers :=
  { answersAt (ups.lastReconnectAttempt + reconnectIntervalSec) 0 with refilled := reg }

theorem renewing_reconnects (ups : Handle) (reg : ConfigReg) (connects : ups.driver.connect = true) :
    ups.reconnects (renewing ups reg) = ups.transport.isNone := by
  simp [Handle.reconnects, renewing, answersAt, connects]

theorem block_pointer (ups : Handle) (inv : ResolvedInv ups) (narrows : ups.driver.narrows = true)
    (kept : keptOf ups.calls ≠ some []) (name : String) (pointer : RegPointer)
    (found : upsFindConfigReg ups name = some pointer) : pointer.block = some ups.resolutions := by
  have resolved : ups.resolvedRegs.isSome = true := by
    have asked := inv.asked
    rw [inv.resolved]
    cases regs : keptOf ups.calls with
    | none =>
      rw [regs, narrows] at asked
      cases asked
    | some entries =>
      cases entries with
      | nil => exact absurd regs kept
      | cons reg rest => rfl
  obtain ⟨index, _, rfl⟩ := Option.map_eq_some_iff.mp found
  exact if_pos resolved

theorem ensure_keeps_none (ups : Handle) (answers : Answers) (narrows : ups.driver.narrows = true)
    (reconnects : ups.reconnects answers = true) (allocates : answers.allocates = true) :
    keptOf (upsEnsureTransport ups answers).calls = some answers.keeps := by
  obtain ⟨found, same, adopts⟩ := ensure_adopts ups answers reconnects
  have forgotten : keptOf (attached found ups.nextTransport).calls = none := kept_record found.calls (.attach ups.nextTransport)
  have kept := (resolve_runtime_kept _ ups.nextTransport answers allocates forgotten).1
  have narrowed : (attached found ups.nextTransport).driver.narrows = true := by
    rw [attached, record_driver, same.driver, narrows]
  rw [adopts]
  exact (refresh_inventory_regs _ ups.nextTransport answers.inventoryRc).kept.trans (kept.trans (if_pos narrowed))

-- A pointer into a block of an earlier resolution, or a call that reconnects, gives the
-- driver what the freed memory holds.
theorem renewed_passed (ups : Handle) (inv : ResolvedInv ups) (meanwhile : Meanwhile)
    (narrows : ups.driver.narrows = true) (kept : keptOf ups.calls ≠ some []) (gone : ¬StillConnected ups meanwhile) :
    ∃ answers : Answers, answers.allocates = true ∧ answers.rc = 0 ∧
      (upsEnsureTransport (meanwhile.locked ups) answers).transport.isSome = true ∧
      ∀ name pointer, upsFindConfigReg ups name = some pointer →
        (meanwhile.locked ups).passed pointer answers ∉
          connectedRegs (upsEnsureTransport (meanwhile.locked ups) answers) := by
  have later := locked_later ups meanwhile
  have resolver : ups.driver.resolveConfigRegs = true := (Bool.and_eq_true_iff.mp narrows).1
  obtain ⟨reg, unlisted⟩ := unlisted_reg ((keptOf (meanwhile.locked ups).calls).getD [])
  have reconnects := renewing_reconnects (meanwhile.locked ups) reg (by rw [later.driver, inv.connects])
  refine ⟨renewing (meanwhile.locked ups) reg, rfl, rfl, ?_, ?_⟩
  · rw [ensure_up, reconnects, ← Option.not_isSome, Bool.or_not_self]
  intro name pointer found
  have block := block_pointer ups inv narrows kept name pointer found
  rw [Handle.passed, Handle.deref, block]
  dsimp only
  cases transport : (meanwhile.locked ups).transport with
  | none =>
    rw [transport] at reconnects
    have grown := (ensure_renews _ _ reconnects).1
    have other : ups.resolutions ≠ (upsEnsureTransport (meanwhile.locked ups) (renewing (meanwhile.locked ups) reg)).resolutions := by
      rw [grown]
      have grows := later.grows
      omega
    have empty := ensure_keeps_none _ _ (by rw [later.driver, narrows]) reconnects rfl
    rw [if_neg other, connectedRegs, (later.trans (ensure_later _ _)).driver, resolver, if_pos rfl, empty]
    exact List.not_mem_nil
  | some id =>
    rw [transport] at reconnects
    have same := (ensure_keeps _ _ reconnects).1
    have other : ups.resolutions ≠ (meanwhile.locked ups).resolutions := fun equal =>
      gone ⟨by rw [transport]; rfl, equal.symm⟩
    rw [same.resolutions, if_neg other, connected_same same, connectedRegs, later.driver, resolver, if_pos rfl]
    exact unlisted

end AiriesUps.Ups
