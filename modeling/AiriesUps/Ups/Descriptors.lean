import AiriesUps.Lib.Tables
import AiriesUps.Ups.TransportSafety

set_option autoImplicit false

namespace AiriesUps.Ups

-- What a descriptor points into. A block's number is never used again.
inductive RegSet where
  | static
  | block (id : Nat)
deriving DecidableEq, Repr

-- ups_resolve_runtime frees the block, assigns NULL and then the new block, if there is one.
inductive ResolvePc where
  | idle
  | freed
  | cleared
deriving DecidableEq, Repr

structure RegSets where
  resolved : Option Nat
  pc : ResolvePc
  nextBlock : Nat
deriving DecidableEq, Repr

-- ups_get_config_regs takes no lock.
def RegSets.fetch (sets : RegSets) : RegSet :=
  match sets.resolved with
  | some id => .block id
  | none => .static

-- There is none while resolved_regs points to the block that has just been freed.
def RegSets.current (sets : RegSets) : Option RegSet :=
  if sets.pc = .freed ∧ sets.resolved.isSome = true then none else some sets.fetch

def Op.takesRegister : Op → Bool
  | .configRead _ | .configWrite _ _ => true
  | _ => false

-- What is left of a caller. A call goes on with what its return code decides.
inductive Script where
  | done
  | get (next : Script)
  | use (next : Script)
  | call (op : Op) (succeeded failed : Script)
deriving DecidableEq, Repr

-- The caller's descriptor may still be dereferenced, by itself or by the driver.
def Script.needs : Script → Bool
  | .done => false
  | .get _ => false
  | .use _ => true
  | .call op succeeded failed => op.takesRegister || succeeded.needs || failed.needs

def Script.uses : Nat → Script → Script
  | 0, next => next
  | count + 1, next => .use (uses count next)

-- ups_find_config_reg compares the names of that many entries.
def findScript (compared : Nat) (found : Bool) (next : Script) : Script :=
  .get (Script.uses compared (if found then next else .done))

def writeScript (name : String) (value : Nat) (succeeded failed : Script) : Script :=
  .use (.use (.call (.configWrite name value) succeeded failed))

-- One entry of a loop over the array, and how often the code looks at it once it is read.
structure Visit where
  name : String
  config : Bool
  fields : Nat
deriving DecidableEq, Repr

def visitAll (body : Visit → Script → Script) (visits : List Visit) : Script := .get (visits.foldr body .done)

def snapshotVisit (visit : Visit) (rest : Script) : Script :=
  .use (if visit.config then .call (.configRead visit.name) (Script.uses visit.fields rest) rest else rest)

def aboutVisit (visit : Visit) (rest : Script) : Script :=
  .use (.call (.configRead visit.name) (Script.uses visit.fields rest) rest)

def settingsVisit (visit : Visit) (rest : Script) : Script :=
  .use (if visit.config then aboutVisit visit rest else rest)

inductive Routine where
  | snapshotConfigRegisters (visits : List Visit)
  | handleAbout (visits : List Visit)
  | handleConfigUpsGetAll (visits : List Visit)
  | handleConfigUpsGet (compared : Nat) (found : Bool) (name : String) (fields : Nat)
  | handleConfigUpsHistory (compared : Nat)
  | handleConfigUpsSet (compared : Nat) (found writable : Bool) (name : String) (value : Nat) (refused : Bool) (fields : Nat)
  | shutdownPhase2 (compared : Nat) (found writable : Bool) (name : String) (value : Nat)
  | weatherWriteParam (compared : Nat) (found writable : Bool) (name : String) (value : Nat)
  | weatherReadAndSaveParam (compared : Nat) (found : Bool) (name : String)
  | readStatus
  | readTransferReason
  | readDynamic
  | readInventory
  | readThresholds
  | command (name : String) (off : Bool)
deriving DecidableEq, Repr

-- After a refused write the handler tells the bounds, after any other it reads the register back.
def configSetScript (name : String) (value : Nat) (refused : Bool) (fields : Nat) : Script :=
  let told := Script.uses fields .done
  let readback := Script.call (.configRead name) told told
  writeScript name value readback (if refused then told else readback)

def writeFound (compared : Nat) (found writable : Bool) (write : Script) : Script :=
  findScript compared found (.use (if writable then write else .done))

def Routine.script : Routine → Script
  | .snapshotConfigRegisters visits => visitAll snapshotVisit visits
  | .handleAbout visits => visitAll aboutVisit visits
  | .handleConfigUpsGetAll visits => visitAll settingsVisit visits
  | .handleConfigUpsGet compared found name fields =>
    findScript compared found (.use (.call (.configRead name) (Script.uses fields .done) .done))
  | .handleConfigUpsHistory compared => findScript compared false .done
  | .handleConfigUpsSet compared found writable name value refused fields =>
    writeFound compared found writable (configSetScript name value refused fields)
  | .shutdownPhase2 compared found writable name value =>
    writeFound compared found writable (writeScript name value .done .done)
  | .weatherWriteParam compared found writable name value =>
    writeFound compared found writable (writeScript name value .done .done)
  | .weatherReadAndSaveParam compared found name => findScript compared found (.call (.configRead name) .done .done)
  | .readStatus => .call .readStatus .done .done
  | .readTransferReason => .call .readTransferReason .done .done
  | .readDynamic => .call .readDynamic .done .done
  | .readInventory => .call .readInventory .done .done
  | .readThresholds => .call .readThresholds .done .done
  | .command name off => .call (.command name off) .done .done

-- result tells inside a call whether the return code is 0 so far.
structure Reader where
  script : Script
  pointer : Option RegSet
  result : Option Bool
deriving DecidableEq, Repr

structure Dereference where
  thread : Nat
  set : Option RegSet
  live : Bool
deriving DecidableEq, Repr

structure Descriptors where
  registry : Registry
  sets : RegSets
  readers : List Reader
  uses : List Dereference

def Descriptors.opened (driver : Driver) (registry : Registry) (kept : Bool) (threads : Nat) : Descriptors :=
  { registry := registry
    sets := { resolved := if driver.hasResolveRegs && kept then some 0 else none, pc := .idle, nextBlock := 1 }
    readers := List.replicate threads { script := .done, pointer := none, result := none }
    uses := [] }

def Descriptors.dereference (state : Descriptors) (thread : Nat) (pointer : Option RegSet) : Descriptors :=
  { state with uses := state.uses ++
      [{ thread := thread, set := pointer, live := pointer.isSome && pointer == state.sets.current }] }

def Descriptors.change (state : Descriptors) (thread : Nat) (change : Reader → Reader) : Descriptors :=
  { state with readers := state.readers.modify thread change }

def Reader.goto (script : Script) (reader : Reader) : Reader := { reader with script := script }

def Reader.fetches (set : RegSet) (next : Script) (reader : Reader) : Reader :=
  { reader with script := next, pointer := some set }

def Reader.enters (rc : Bool) (reader : Reader) : Reader := { reader with result := some rc }

def Reader.returns (reader : Reader) : Reader :=
  match reader.script, reader.result with
  | .call _ succeeded failed, some rc => { reader with script := if rc then succeeded else failed, result := none }
  | _, _ => reader

def RegSets.assign (sets : RegSets) (does : Bool) : RegSets :=
  if does then { resolved := some sets.nextBlock, pc := .idle, nextBlock := sets.nextBlock + 1 }
  else { sets with pc := .idle }

-- One step inside cmd_mutex. The driver's function dereferences the descriptor it is given.
def advanceCall (driver : Driver) (state : Descriptors) (holder : Holder) (ok : Bool) (now : Int) (kept : Bool) :
    Descriptors :=
  let moved := { state with registry := advance driver state.registry holder ok now }
  match holder.phase with
  | .resolvingRegs _ =>
    match state.sets.pc with
    | .idle => { state with sets := { state.sets with pc := .freed } }
    | .freed => { state with sets := { state.sets with resolved := none, pc := .cleared } }
    | .cleared => { moved with sets := state.sets.assign (driver.hasResolveRegs && ok && kept) }
  | .invoking =>
    let pointer := (state.readers[holder.thread]?).bind Reader.pointer
    let entered := if holder.op.takesRegister then moved.dereference holder.thread pointer else moved
    entered.change holder.thread (Reader.enters ok)
  | .leaving => moved.change holder.thread Reader.returns
  | _ => moved

inductive DescLabel where
  | start (thread : Nat) (routine : Routine)
  | get (thread : Nat)
  | use (thread : Nat)
  | begin (thread : Nat)
  | advance (ok : Bool) (now : Int) (kept : Bool)
  | topology (thread : Nat)
  | getTopology (thread : Nat)
deriving DecidableEq, Repr

-- A call that the checks before the lock refuse returns at once.
def Descriptors.step (driver : Driver) : Runs.Step Descriptors DescLabel
  | state, .start thread routine =>
    match state.readers[thread]? with
    | some ⟨.done, _, none⟩ => some (state.change thread (Reader.goto routine.script))
    | _ => none
  | state, .get thread =>
    match state.readers[thread]? with
    | some ⟨.get next, _, none⟩ => some (state.change thread (Reader.fetches state.sets.fetch next))
    | _ => none
  | state, .use thread =>
    match state.readers[thread]? with
    | some ⟨.use next, pointer, none⟩ => some ((state.dereference thread pointer).change thread (Reader.goto next))
    | _ => none
  | state, .begin thread =>
    match state.readers[thread]? with
    | some ⟨.call op _ failed, _, none⟩ =>
      if driver.accepts op then
        (state.registry.step driver (.call thread op)).map fun registry =>
          { state with registry := registry }.change thread (Reader.enters false)
      else some (state.change thread (Reader.goto failed))
    | _ => none
  | state, .advance ok now kept => state.registry.holder.map fun holder => advanceCall driver state holder ok now kept
  | state, .topology thread =>
    (state.registry.step driver (.topology thread)).map fun registry => { state with registry := registry }
  | state, .getTopology thread =>
    (state.registry.step driver (.getTopology thread)).map fun registry => { state with registry := registry }

def Descriptors.replaces (driver : Driver) (state : Descriptors) (ok kept : Bool) : Bool :=
  match state.registry.holder with
  | some ⟨_, _, .resolvingRegs _⟩ =>
    match state.sets.pc with
    | .idle => state.sets.resolved.isSome
    | .freed => false
    | .cleared => driver.hasResolveRegs && ok && kept
  | _ => false

-- The register set is replaced only while nobody has a descriptor left to dereference,
-- and nobody fetches the array while it is freed and not yet NULL.
def Unheld (driver : Driver) (state : Descriptors) : DescLabel → Prop
  | .advance ok _ kept => state.replaces driver ok kept = true → ∀ reader ∈ state.readers, reader.script.needs = false
  | .get _ => state.sets.current.isSome = true
  | _ => True

instance (driver : Driver) (state : Descriptors) : (label : DescLabel) → Decidable (Unheld driver state label)
  | .advance _ _ _ => inferInstanceAs (Decidable (_ = _ → ∀ reader ∈ state.readers, reader.script.needs = false))
  | .get _ => inferInstanceAs (Decidable (_ = _))
  | .start _ _ | .use _ | .begin _ | .topology _ | .getTopology _ => inferInstanceAs (Decidable True)

end AiriesUps.Ups
