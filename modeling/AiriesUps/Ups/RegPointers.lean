import AiriesUps.Ups.HandleSteps

set_option autoImplicit false

namespace AiriesUps.Ups

open Hid (ConfigReg)

-- What ups_find_config_reg points at when it returns.
def findDescriptor (ups : Handle) (name : String) : Option ConfigReg :=
  (upsGetConfigRegs ups).find? fun reg => reg.name == name

-- The descriptors the resolver kept for the device connected last, if it was asked.
def keptStep (kept : Option (List ConfigReg)) (call : Call) : Option (List ConfigReg) :=
  match call with
  | .attach _ => none
  | .resolveConfigRegs _ regs => some regs
  | _ => kept

def keptOf (calls : List Call) : Option (List ConfigReg) := calls.foldl keptStep none

-- The calls of other threads between a look-up and the call that uses its pointer: until
-- the checks before the lock, and from these until the lock is taken. stale is what the
-- checks read in the memory of a freed block.
structure Meanwhile where
  before : List (Request × Answers)
  within : List (Request × Answers)
  stale : ConfigReg

def Handle.after (ups : Handle) (taken : List (Request × Answers)) : Handle :=
  taken.foldl (fun ups taken => (serve ups taken.1 taken.2).1) ups

def Meanwhile.checked (meanwhile : Meanwhile) (ups : Handle) : Handle := ups.after meanwhile.before

def Meanwhile.locked (meanwhile : Meanwhile) (ups : Handle) : Handle := (meanwhile.checked ups).after meanwhile.within

def Meanwhile.none : Meanwhile := { before := [], within := [], stale := .scalar "" false }

-- ups_try_reconnect will be due, and will put a transport into the handle.
def Handle.reconnects (ups : Handle) (answers : Answers) : Bool :=
  ups.transport.isNone && ups.driver.connect && !decide (answers.now - ups.lastReconnectAttempt < reconnectIntervalSec) &&
    answers.connects && (!ups.driver.detect || answers.detects)

structure SameRegs (before after : Handle) : Prop where
  driver : after.driver = before.driver
  table : after.table = before.table
  resolved : after.resolvedRegs = before.resolvedRegs
  resolutions : after.resolutions = before.resolutions
  kept : keptOf after.calls = keptOf before.calls

theorem SameRegs.refl (ups : Handle) : SameRegs ups ups := ⟨rfl, rfl, rfl, rfl, rfl⟩

theorem SameRegs.trans {first second third : Handle} (one : SameRegs first second) (two : SameRegs second third) :
    SameRegs first third :=
  ⟨two.driver.trans one.driver, two.table.trans one.table, two.resolved.trans one.resolved,
    two.resolutions.trans one.resolutions, two.kept.trans one.kept⟩

theorem deref_congr (ups other : Handle) (table : other.table = ups.table) (resolved : other.resolvedRegs = ups.resolvedRegs)
    (resolutions : other.resolutions = ups.resolutions) (refilled : ConfigReg) (pointer : RegPointer) :
    other.deref refilled pointer = ups.deref refilled pointer := by
  rw [Handle.deref, Handle.deref, table, resolved, resolutions]

theorem SameRegs.deref {before after : Handle} (same : SameRegs before after) (refilled : ConfigReg) (pointer : RegPointer) :
    after.deref refilled pointer = before.deref refilled pointer :=
  deref_congr before after same.table same.resolved same.resolutions refilled pointer

-- Without another run of ups_resolve_runtime nothing has changed, and without a resolver
-- nothing changes at all.
structure Later (before after : Handle) : Prop where
  driver : after.driver = before.driver
  grows : before.resolutions ≤ after.resolutions
  same : after.resolutions = before.resolutions → SameRegs before after
  plain : before.driver.narrows = false → after.table = before.table ∧ (before.resolvedRegs = none → after.resolvedRegs = none)

theorem SameRegs.later {before after : Handle} (same : SameRegs before after) : Later before after :=
  ⟨same.driver, same.resolutions.ge, fun _ => same, fun _ => ⟨same.table, fun unset => same.resolved.trans unset⟩⟩

theorem Later.trans {first second third : Handle} (one : Later first second) (two : Later second third) :
    Later first third where
  driver := two.driver.trans one.driver
  grows := one.grows.trans two.grows
  same equal := by
    have middle : second.resolutions = first.resolutions :=
      le_antisymm (two.grows.trans_eq equal) one.grows
    exact (one.same middle).trans (two.same (equal.trans middle.symm))
  plain narrows := by
    obtain ⟨table, unset⟩ := one.plain narrows
    obtain ⟨laterTable, laterUnset⟩ := two.plain (by rw [one.driver, narrows])
    exact ⟨laterTable.trans table, fun start => laterUnset (unset start)⟩

theorem kept_record (calls : List Call) (call : Call) : keptOf (calls ++ [call]) = keptStep (keptOf calls) call :=
  List.foldl_append

theorem kept_request (calls : List Call) (call : Call) (request : call.isRequest = true) :
    keptOf (calls ++ [call]) = keptOf calls := by
  rw [kept_record]
  cases call <;> first | rfl | cases request

theorem record_regs (ups : Handle) (call : Call) (silent : ∀ kept, keptStep kept call = kept) :
    SameRegs ups (ups.record call) :=
  ⟨rfl, rfl, rfl, rfl, (kept_record ups.calls call).trans (silent _)⟩

theorem request_regs (ups : Handle) (call : Call) (request : call.isRequest = true) : SameRegs ups (ups.record call) :=
  ⟨rfl, rfl, rfl, rfl, kept_request ups.calls call request⟩

theorem disconnect_regs (ups : Handle) (transport : Nat) : SameRegs ups (ups.disconnect transport) := by
  rw [Handle.disconnect]
  split
  · exact record_regs ups _ fun _ => rfl
  · exact SameRegs.refl ups

theorem handle_error_regs (ups : Handle) : SameRegs ups (upsHandleError ups) := by
  have counted : SameRegs ups { ups with consecutiveErrors := ups.consecutiveErrors + 1 } := ⟨rfl, rfl, rfl, rfl, rfl⟩
  rw [upsHandleError]
  dsimp only
  split
  · have detached (closed : Handle) (same : SameRegs ups closed) :
        SameRegs ups ({ closed with transport := none, lastReconnectAttempt := 0 }.record .detach) :=
      same.trans ⟨rfl, rfl, rfl, rfl, kept_record _ _⟩
    apply detached
    split
    · exact counted.trans (disconnect_regs _ _)
    · exact counted
  · exact counted

theorem resolve_runtime_later (ups : Handle) (transport : Nat) (answers : Answers) :
    (upsResolveRuntime ups transport answers).resolutions = ups.resolutions + 1 ∧
      Later ups (upsResolveRuntime ups transport answers) := by
  have counted : (upsResolveRuntime ups transport answers).resolutions = ups.resolutions + 1 := by
    rw [upsResolveRuntime]
    split
    · dsimp only
      split <;> rfl
    · rfl
  refine ⟨counted, ?_, counted ▸ Nat.le_succ _, ?_, ?_⟩
  · rw [upsResolveRuntime]
    split
    · dsimp only
      split <;> rfl
    · rfl
  · intro same
    rw [counted] at same
    exact absurd same (Nat.succ_ne_self _)
  · intro narrows
    rw [upsResolveRuntime, narrows, Bool.false_and, if_neg Bool.false_ne_true]
    exact ⟨rfl, fun _ => rfl⟩

theorem refresh_inventory_regs (ups : Handle) (transport : Nat) (rc : Int) :
    SameRegs ups (refreshInventory ups transport rc) := by
  rw [refreshInventory]
  split
  · exact request_regs ups _ rfl
  · exact SameRegs.refl ups

theorem adopt_later (found : Handle) (transport : Nat) (answers : Answers) :
    (adopt found transport answers).resolutions = found.resolutions + 1 ∧ Later found (adopt found transport answers) := by
  obtain ⟨counted, later⟩ := resolve_runtime_later (attached found transport) transport answers
  have refreshed := refresh_inventory_regs (upsResolveRuntime (attached found transport) transport answers) transport
    answers.inventoryRc
  have whole := later.trans refreshed.later
  refine ⟨refreshed.resolutions.trans counted, whole.driver, whole.grows, ?_, whole.plain⟩
  intro same
  have wrong := same.symm.trans (refreshed.resolutions.trans counted)
  exact absurd wrong.symm (Nat.succ_ne_self _)

theorem tried_regs (ups : Handle) (now : Int) : SameRegs ups (tried ups now) := ⟨rfl, rfl, rfl, rfl, kept_record _ _⟩

theorem opened_regs (ups : Handle) (now : Int) : SameRegs ups (opened ups now) :=
  (tried_regs ups now).trans ⟨rfl, rfl, rfl, rfl, kept_record _ _⟩

theorem probed_regs (ups : Handle) (now : Int) (claims : Bool) : SameRegs ups (probed ups now claims) :=
  (opened_regs ups now).trans ⟨rfl, rfl, rfl, rfl, kept_record _ _⟩

-- ups_ensure_transport in its two outcomes.
theorem ensure_keeps (ups : Handle) (answers : Answers) (quiet : ups.reconnects answers = false) :
    SameRegs ups (upsEnsureTransport ups answers) ∧ (upsEnsureTransport ups answers).transport = ups.transport := by
  rw [upsEnsureTransport]
  split
  case isFalse => exact ⟨SameRegs.refl ups, rfl⟩
  case isTrue down =>
    rw [upsTryReconnect]
    split
    · exact ⟨SameRegs.refl ups, rfl⟩
    split
    · exact ⟨SameRegs.refl ups, rfl⟩
    split
    · exact ⟨SameRegs.refl ups, rfl⟩
    rename_i connect due
    dsimp only
    split
    · exact ⟨tried_regs ups answers.now, rfl⟩
    rename_i connects
    rw [Bool.not_eq_true, Bool.not_eq_false'] at connect connects
    split
    case isFalse detect => simp [Handle.reconnects, down, connect, due, connects, detect] at quiet
    case isTrue detect =>
      split
      case isTrue claims => simp [Handle.reconnects, down, connect, due, connects, detect, claims] at quiet
      case isFalse =>
        refine ⟨(probed_regs ups answers.now answers.detects).trans (disconnect_regs _ _), ?_⟩
        rw [Handle.disconnect]
        split <;> rfl

theorem ensure_adopts (ups : Handle) (answers : Answers) (reconnects : ups.reconnects answers = true) :
    ∃ found, SameRegs ups found ∧ upsEnsureTransport ups answers = adopt found ups.nextTransport answers := by
  simp only [Handle.reconnects, Bool.and_eq_true, Bool.not_eq_true', decide_eq_false_iff_not, Bool.or_eq_true] at reconnects
  obtain ⟨⟨⟨⟨down, connect⟩, due⟩, connects⟩, detects⟩ := reconnects
  have unset : ups.transport.isSome = false := by
    rw [Option.isNone_iff_eq_none] at down
    rw [down]
    rfl
  rw [upsEnsureTransport, if_pos down, upsTryReconnect, if_neg (by simp [unset]), if_neg (by simp [connect]), if_neg due]
  dsimp only
  rw [if_neg (by simp [connects])]
  split
  case isTrue detect =>
    have claims : answers.detects = true := detects.resolve_left (by simp [detect])
    rw [if_pos claims]
    exact ⟨_, probed_regs ups answers.now answers.detects, rfl⟩
  case isFalse => exact ⟨_, opened_regs ups answers.now, rfl⟩

theorem adopt_transport (found : Handle) (transport : Nat) (answers : Answers) :
    (adopt found transport answers).transport = some transport := (adopt_connection found transport answers).1.transport

theorem ensure_renews (ups : Handle) (answers : Answers) (reconnects : ups.reconnects answers = true) :
    (upsEnsureTransport ups answers).resolutions = ups.resolutions + 1 ∧
      (upsEnsureTransport ups answers).transport.isSome = true := by
  obtain ⟨found, same, adopts⟩ := ensure_adopts ups answers reconnects
  rw [adopts, (adopt_later found ups.nextTransport answers).1, same.resolutions, adopt_transport]
  exact ⟨rfl, rfl⟩

-- The driver's function is called with a transport that was up, or that the call has
-- just reconnected.
theorem ensure_up (ups : Handle) (answers : Answers) :
    (upsEnsureTransport ups answers).transport.isSome = (ups.transport.isSome || ups.reconnects answers) := by
  cases reconnects : ups.reconnects answers with
  | false => rw [(ensure_keeps ups answers reconnects).2, Bool.or_false]
  | true => rw [(ensure_renews ups answers reconnects).2, Bool.or_true]

theorem ensured_later (ups next : Handle) (answers : Answers) (ensuring : Ensured ups answers next) : Later ups next := by
  cases ensuring with
  | kept _ => exact (SameRegs.refl ups).later
  | waiting _ _ => exact (SameRegs.refl ups).later
  | refused _ _ => exact (tried_regs ups answers.now).later
  | rejected _ _ => exact ((probed_regs ups answers.now false).trans (disconnect_regs _ _)).later
  | adopted _ _ found claimed =>
    have same : SameRegs ups found := by
      rcases claimed with rfl | rfl
      · exact opened_regs ups answers.now
      · exact probed_regs ups answers.now true
    exact same.later.trans (adopt_later found ups.nextTransport answers).2

theorem ensure_later (ups : Handle) (answers : Answers) : Later ups (upsEnsureTransport ups answers) :=
  ensured_later ups _ answers (ensure_transport_cases ups answers)

theorem serve_later (ups : Handle) (request : Request) (answers : Answers) : Later ups (serve ups request answers).1 := by
  have served := serve_cases ups request answers
  generalize (serve ups request answers).1 = next at served ⊢
  cases served with
  | unsupported => exact (SameRegs.refl ups).later
  | unreached _ ensuring _ => exact ensured_later ups _ answers ensuring
  | called ensured ensuring _ _ call isRequest _ =>
    exact (ensured_later ups ensured answers ensuring).trans (request_regs ensured call isRequest).later
  | succeeded ensured ensuring _ _ call isRequest _ =>
    have cleared : SameRegs (ensured.record call) (upsClearErrors (ensured.record call)) := ⟨rfl, rfl, rfl, rfl, rfl⟩
    exact (ensured_later ups ensured answers ensuring).trans ((request_regs ensured call isRequest).trans cleared).later
  | failed ensured ensuring _ _ call isRequest _ =>
    exact (ensured_later ups ensured answers ensuring).trans
      ((request_regs ensured call isRequest).trans (handle_error_regs _)).later

theorem after_run (ups : Handle) (taken : List (Request × Answers)) :
    Runs.run Handle.step ups taken = some (ups.after taken) := by
  induction taken generalizing ups with
  | nil => rfl
  | cons first rest ih => exact ih _

theorem after_later (ups : Handle) (taken : List (Request × Answers)) : Later ups (ups.after taken) := by
  induction taken generalizing ups with
  | nil => exact (SameRegs.refl ups).later
  | cons first rest ih => exact (serve_later ups first.1 first.2).trans (ih _)

theorem locked_later (ups : Handle) (meanwhile : Meanwhile) : Later ups (meanwhile.locked ups) :=
  (after_later ups meanwhile.before).trans (after_later _ meanwhile.within)

-- A fresh pointer points at the descriptor that was found.
theorem find_points (ups : Handle) (name : String) (pointer : RegPointer) (refilled : ConfigReg)
    (found : upsFindConfigReg ups name = some pointer) : findDescriptor ups name = some (ups.deref refilled pointer) := by
  obtain ⟨index, isIndex, rfl⟩ := Option.map_eq_some_iff.mp found
  have inside := (List.findIdx?_eq_some_iff_getElem.mp isIndex).1
  rw [findDescriptor, List.find?_eq_bind_findIdx?_getElem?, isIndex, Option.bind_some, Handle.deref]
  rw [upsGetConfigRegs] at inside ⊢
  cases resolved : ups.resolvedRegs with
  | none =>
    rw [resolved] at inside
    simp [List.getElem?_eq_getElem (show index < ups.table.length from inside)]
  | some regs =>
    rw [resolved] at inside
    simp [List.getElem?_eq_getElem (show index < regs.length from inside)]

theorem find_unlisted (ups : Handle) (name : String) :
    upsFindConfigReg ups name = none ↔ findDescriptor ups name = none := by
  rw [upsFindConfigReg, Option.map_eq_none_iff, findDescriptor, List.findIdx?_eq_none_iff, List.find?_eq_none]
  simp

theorem find_pointer (ups : Handle) (name : String) (reg : ConfigReg) (found : findDescriptor ups name = some reg) :
    ∃ pointer, upsFindConfigReg ups name = some pointer := by
  apply Option.ne_none_iff_exists'.mp
  intro missing
  rw [(find_unlisted ups name).mp missing] at found
  cases found

-- For the runs below: a driver with two registers and a resolver.
def narrowingDriver : UpsDriver :=
  { serialDriver true with
    configRegs := some [.scalar "transfer_low" true, .scalar "transfer_high" true], resolveConfigRegs := true }

def narrowingProbe (kept : List ConfigReg) : Probe :=
  { driver := narrowingDriver, context := true, answers := { answersAt 100 0 with keeps := kept } }

end AiriesUps.Ups
