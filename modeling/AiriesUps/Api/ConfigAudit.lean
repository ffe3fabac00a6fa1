import AiriesUps.Hid.ConfigWrite
import AiriesUps.Lib.Runs
import AiriesUps.Lib.Tables
import AiriesUps.Monitor.StatusSnapshot
import AiriesUps.Ups.Handle
import Mathlib.Logic.Function.Basic

set_option autoImplicit false

namespace AiriesUps.Api

open Ups (Word upsErrInvalidValue upsErrNotSupported upsErrIo)

-- Ghost: what put the value of a register there.
inductive Cause where
  | initial
  | api
  | other
deriving DecidableEq, Repr

structure Register where
  value : Word
  cause : Cause
deriving DecidableEq, Repr

-- A row of ups_config without its display text and timestamp. read is ghost: what the
-- read made for the row returned.
structure ConfigRow where
  name : String
  raw : Nat
  source : String
  read : Option Word
deriving DecidableEq, Repr

-- How a register read ends: with the value, with an error, or, the ioctl of a HID driver
-- having failed, with 0 and UPS_OK.
inductive Reading where
  | value
  | error
  | unnoticed
deriving DecidableEq, Repr

def Reading.raw (held : Word) : Reading → Option Word
  | .value => some held
  | .error => none
  | .unnoticed => some 0

theorem failed_read_unnoticed {Device : Type} (node : Hid.Hidraw Device) (device : Device) (field : Hid.HidField)
    (reg : Hid.ConfigReg) (held : Word)
    (failed : Hid.hidiocgfeature node device ((List.replicate Hid.readBufferSize 0).set 0 field.reportId)
      Hid.readBufferSize = none) :
    Hid.hidPdcConfigReadField node device (some field) reg = .ok (Reading.unnoticed.raw held) := by
  have zero : Hid.hidFieldReadRaw node device (some field) = .ok 0 := by rw [Hid.hidFieldReadRaw, failed]
  rw [Hid.hidPdcConfigReadField, zero]
  dsimp only [bind, Except.bind]
  split <;> rfl

-- Ghost: what the UPS returned.
def Reading.returned (held : Word) : Reading → Option Word
  | .value => some held
  | .error | .unnoticed => none

-- How ups_config_write ends: refused before the driver has it, failed on the way, or sent
-- and then read by the driver, all under cmd_mutex. stored is what the write left in
-- registers of the device, which may be others too: a HID feature report goes out whole,
-- with every register that is packed in it.
inductive ConfigWrite where
  | invalid
  | unsupported
  | unreachable
  | failed (stored : List (String × Word))
  | sent (stored : List (String × Word)) (check : Reading)
deriving DecidableEq, Repr

def ConfigWrite.stored : ConfigWrite → List (String × Word)
  | .failed stored | .sent stored _ => stored
  | _ => []

-- held is what the register holds afterwards.
def upsConfigWrite (value : BitVec 16) (held : Word) : ConfigWrite → Int
  | .invalid => upsErrInvalidValue
  | .unsupported => upsErrNotSupported
  | .unreachable | .failed _ => upsErrIo
  | .sent _ check => if check.raw held = some (value.setWidth 32) then 0 else upsErrIo

def ConfigWrite.returned (held : Word) : ConfigWrite → Option Word
  | .sent _ check => check.returned held
  | _ => none

-- Where handle_config_ups_set is, once it has found the register writable. read is ghost:
-- what the UPS returned for readback.
inductive SetPc where
  | entered
  | wrote (rc : Int)
  | readBack (rc : Int) (readback : Word) (read : Option Word)
  | inserted (rc : Int) (readback : Word)
  | answered (status : Nat) (result : String)
deriving DecidableEq, Repr

-- reads is ghost: what reads of the register returned, the driver's and the handler's.
structure SetRequest where
  name : String
  value : BitVec 16
  pc : SetPc
  reads : List Word
deriving DecidableEq, Repr

-- Where snapshot_config_registers is in its loop. read and cause are ghost: what the UPS
-- returned, and what had put it there.
inductive ConfigSnapshotPc where
  | idle
  | read (name : String) (raw : Word) (read : Option Word) (cause : Cause)
  | decided (name : String) (raw : Word) (read : Option Word) (source : String) (cause : Cause)
deriving DecidableEq, Repr

structure Audit where
  registers : String → Register
  rows : List ConfigRow
  requests : List SetRequest
  snapshot : ConfigSnapshotPc

def Audit.start (values : String → Word) : Audit :=
  { registers := fun name => { value := values name, cause := .initial }, rows := [], requests := [], snapshot := .idle }

-- raw_value is an INTEGER column, written from "%u".
def rawColumn (raw : Word) : Nat := Monitor.integerColumn (Shutdown.snprintf 16 (toString raw.toNat))

def lastRow (rows : List ConfigRow) (name : String) : Option ConfigRow :=
  (rows.filter fun row => row.name == name).getLast?

inductive ConfigSnapshotDecision where
  | skip
  | baseline
  | external
deriving DecidableEq, Repr

def monitorConfigSnapshotDecide (rows : List ConfigRow) (name : String) (currentRaw : Word) (succeeds : Bool) :
    ConfigSnapshotDecision :=
  match if succeeds then lastRow rows name else none with
  | none => .baseline
  | some row => if Decimal.strtoul (Monitor.columnText row.raw) = currentRaw.toNat then .skip else .external

def setResult (rc : Int) (value : BitVec 16) (readback : Word) : String :=
  if rc ≠ 0 then (if readback ≠ value.setWidth 32 then "rejected" else "written") else "written"

-- A register read or write and a database statement are a step each. otherChange is the
-- front panel, and what else writes registers. restart ends the process and starts it
-- again: the UPS and the table keep what they have.
inductive AuditLabel where
  | restart
  | otherChange (name : String) (value : Word)
  | request (name : String) (value : BitVec 16)
  | write (index : Nat) (outcome : ConfigWrite)
  | readBack (index : Nat) (reading : Reading)
  | insert (index : Nat) (succeeds : Bool)
  | answer (index : Nat)
  | snapshotRead (name : String) (reading : Reading)
  | decide (succeeds : Bool)
  | snapshotInsert (succeeds : Bool)
deriving DecidableEq, Repr

def setRegister (registers : String → Register) (name : String) (value : Word) (cause : Cause) : String → Register :=
  if (registers name).value = value then registers else Function.update registers name { value := value, cause := cause }

def storeRegisters (registers : String → Register) (stored : List (String × Word)) (name : String) : Register :=
  match stored.lookup name with
  | some value => if (registers name).value = value then registers name else { value := value, cause := .api }
  | none => registers name

def SetRequest.goto (pc : SetPc) (read : Option Word) (request : SetRequest) : SetRequest :=
  { request with pc := pc, reads := request.reads ++ read.toList }

def Audit.setPc (state : Audit) (index : Nat) (pc : SetPc) (read : Option Word) : Audit :=
  { state with requests := state.requests.modify index (SetRequest.goto pc read) }

def apiRow (request : SetRequest) (readback : Word) (read : Option Word) : ConfigRow :=
  { name := request.name, raw := rawColumn readback, source := "api", read := read }

def snapshotRow (name : String) (raw : Word) (read : Option Word) (source : String) : ConfigRow :=
  { name := name, raw := rawColumn raw, source := source, read := read }

def writtenPc (rc : Int) : SetPc := if rc = upsErrInvalidValue then .answered 400 "out_of_range" else .wrote rc

def Audit.write (state : Audit) (index : Nat) (request : SetRequest) (outcome : ConfigWrite) : Audit :=
  let registers := storeRegisters state.registers outcome.stored
  let held := (registers request.name).value
  { state.setPc index (writtenPc (upsConfigWrite request.value held outcome)) (outcome.returned held) with
    registers := registers }

-- A failed readback leaves 0.
def Audit.requestStep (state : Audit) (request : SetRequest) (label : AuditLabel) : Option Audit :=
  match label, request.pc with
  | .write index outcome, .entered => some (state.write index request outcome)
  | .readBack index reading, .wrote rc =>
    let held := (state.registers request.name).value
    some (state.setPc index (.readBack rc ((reading.raw held).getD 0) (reading.returned held)) (reading.returned held))
  | .insert index succeeds, .readBack rc readback read =>
    some { state.setPc index (.inserted rc readback) none with
      rows := if succeeds then state.rows ++ [apiRow request readback read] else state.rows }
  | .answer index, .inserted rc readback =>
    some (state.setPc index (.answered 200 (setResult rc request.value readback)) none)
  | _, _ => none

def readPc (name : String) (read : Option Word) (cause : Cause) : Option Word → ConfigSnapshotPc
  | some raw => .read name raw read cause
  | none => .idle

def decisionPc (name : String) (raw : Word) (read : Option Word) (cause : Cause) :
    ConfigSnapshotDecision → ConfigSnapshotPc
  | .skip => .idle
  | .baseline => .decided name raw read "baseline" cause
  | .external => .decided name raw read "external" cause

def AuditLabel.request? : AuditLabel → Option Nat
  | .write index _ | .readBack index _ | .insert index _ | .answer index => some index
  | _ => none

def Audit.snapshotStep (state : Audit) (label : AuditLabel) : Option Audit :=
  match label, state.snapshot with
  | .snapshotRead name reading, .idle =>
    let held := (state.registers name).value
    some { state with snapshot := readPc name (reading.returned held) (state.registers name).cause (reading.raw held) }
  | .decide succeeds, .read name raw read cause =>
    some { state with
      snapshot := decisionPc name raw read cause (monitorConfigSnapshotDecide state.rows name raw succeeds) }
  | .snapshotInsert succeeds, .decided name raw read source _ =>
    some { state with
      rows := if succeeds then state.rows ++ [snapshotRow name raw read source] else state.rows
      snapshot := .idle }
  | _, _ => none

def Audit.step : Runs.Step Audit AuditLabel
  | state, .restart => some { state with requests := [], snapshot := .idle }
  | state, .otherChange name value => some { state with registers := setRegister state.registers name value .other }
  | state, .request name value =>
    some { state with requests := state.requests ++ [{ name := name, value := value, pc := .entered, reads := [] }] }
  | state, label =>
    match label.request? with
    | some index =>
      match state.requests[index]? with
      | some request => state.requestStep request label
      | none => none
    | none => state.snapshotStep label

def isBaseline (name : String) (row : ConfigRow) : Bool := row.name == name && row.source == "baseline"

-- What a step may do to the audit: every row carries what its read returned; an external
-- row is of a value that something other than the API put there, and that differs from
-- the row before; a register has one baseline; written means read back and equal.
structure AuditSound (_ : List AuditLabel) (state : Audit) (_ : AuditLabel) (next : Audit) : Prop where
  read : ∀ row ∈ next.rows, ∃ raw, row.read = some raw ∧ row.raw = raw.toNat
  external : ∀ row, next.rows = state.rows ++ [row] → row.source = "external" →
    ∃ raw read last, state.snapshot = .decided row.name raw read row.source .other ∧ row.raw = raw.toNat ∧
      lastRow state.rows row.name = some last ∧ last.raw ≠ row.raw
  baseline : ∀ name, next.rows.countP (isBaseline name) ≤ 1
  written : ∀ request ∈ next.requests, ∀ status, request.pc = .answered status "written" →
    request.value.setWidth 32 ∈ request.reads

def SetPc.busy : SetPc → Bool
  | .wrote _ | .readBack _ _ _ => true
  | _ => false

-- A request has written the register, or tried to, and not yet recorded it.
def Audit.writing (state : Audit) (name : String) : Bool :=
  state.requests.any fun request => request.name == name && request.pc.busy

def ConfigSnapshotPc.visits (name : String) : ConfigSnapshotPc → Bool
  | .idle => false
  | .read visited _ _ _ | .decided visited _ _ _ _ => visited == name

-- Nothing to record: no row, or the last one has the value.
def upToDate (rows : List ConfigRow) (name : String) (raw : Nat) : Bool :=
  (lastRow rows name).all fun row => row.raw == raw

-- The driver's check takes a read that failed for one of 0.
def ConfigWrite.blind (value : BitVec 16) : ConfigWrite → Bool
  | .sent _ .unnoticed => value == 0
  | _ => false

-- A write may change another register only where that needs no record: nothing is under
-- way with it, and its last row, if it has one, has the new value.
def Audit.spares (state : Audit) (request : SetRequest) (entry : String × Word) : Bool :=
  entry.1 == request.name || (state.registers entry.1).value == entry.2 ||
    upToDate state.rows entry.1 entry.2.toNat && !state.writing entry.1 && !state.snapshot.visits entry.1

def orderlyRequest (state : Audit) (request : SetRequest) (label : AuditLabel) : Bool :=
  match label, request.pc with
  | .write _ outcome, .entered =>
    outcome == .invalid ||
      !state.writing request.name && !state.snapshot.visits request.name && !outcome.blind request.value &&
        outcome.stored.all (state.spares request)
  | .readBack _ reading, .wrote _ => reading == .value
  | .insert _ succeeds, .readBack _ readback _ => succeeds || upToDate state.rows request.name readback.toNat
  | _, _ => true

def orderlySnapshot (state : Audit) (label : AuditLabel) : Bool :=
  match label, state.snapshot with
  | .restart, _ => !state.requests.any fun request => request.pc.busy
  | .snapshotRead name reading, .idle => reading == .error || reading == .value && !state.writing name
  | .decide succeeds, .read name _ _ _ => succeeds || (lastRow state.rows name).isNone
  | _, _ => true

def Audit.subject (state : Audit) (label : AuditLabel) : Option SetRequest :=
  label.request?.bind fun index => state.requests[index]?

-- The two writers do not meet on a register, a write leaves the others alone, the process
-- does not end between a write and its row, the reads and statements the audit goes by
-- succeed, and no failed read passes for one.
def Orderly (state : Audit) (label : AuditLabel) : Prop :=
  (state.subject label).all (fun request => orderlyRequest state request label) = true ∧
    orderlySnapshot state label = true

instance (state : Audit) (label : AuditLabel) : Decidable (Orderly state label) :=
  inferInstanceAs (Decidable (_ ∧ _))

-- Everything an orderly step can do.
inductive AuditStep (state : Audit) : Audit → Prop where
  | restarted (unwritten : ∀ name, state.writing name = false) :
    AuditStep state { state with requests := [], snapshot := .idle }
  | changed (name : String) (value : Word) :
    AuditStep state { state with registers := setRegister state.registers name value .other }
  | arrived (name : String) (value : BitVec 16) :
    AuditStep state
      { state with requests := state.requests ++ [{ name := name, value := value, pc := .entered, reads := [] }] }
  | refused (index : Nat) (request : SetRequest) (found : state.requests[index]? = some request)
    (entered : request.pc = .entered) : AuditStep state (state.setPc index (.answered 400 "out_of_range") none)
  | wrote (index : Nat) (request : SetRequest) (rc : Int) (stored : List (String × Word)) (read : Option Word)
    (found : state.requests[index]? = some request) (entered : request.pc = .entered)
    (unwritten : state.writing request.name = false) (unvisited : state.snapshot.visits request.name = false)
    (spared : ∀ entry ∈ stored, state.spares request entry = true)
    (checked : rc = 0 → read = some (request.value.setWidth 32)) :
    AuditStep state { state.setPc index (.wrote rc) read with registers := storeRegisters state.registers stored }
  | readBack (index : Nat) (request : SetRequest) (rc : Int) (held : Word)
    (found : state.requests[index]? = some request) (wrote : request.pc = .wrote rc)
    (holds : (state.registers request.name).value = held) :
    AuditStep state (state.setPc index (.readBack rc held (some held)) (some held))
  | inserted (index : Nat) (request : SetRequest) (rc : Int) (readback : Word) (read : Option Word) (succeeds : Bool)
    (found : state.requests[index]? = some request) (pc : request.pc = .readBack rc readback read)
    (due : succeeds = false → upToDate state.rows request.name readback.toNat = true) :
    AuditStep state
      { state.setPc index (.inserted rc readback) none with
        rows := if succeeds then state.rows ++ [apiRow request readback read] else state.rows }
  | answered (index : Nat) (request : SetRequest) (rc : Int) (readback : Word)
    (found : state.requests[index]? = some request) (pc : request.pc = .inserted rc readback) :
    AuditStep state (state.setPc index (.answered 200 (setResult rc request.value readback)) none)
  | visited (name : String) (held : Word) (cause : Cause) (idle : state.snapshot = .idle)
    (unwritten : state.writing name = false) (holds : state.registers name = { value := held, cause := cause }) :
    AuditStep state { state with snapshot := .read name held (some held) cause }
  | unread : AuditStep state { state with snapshot := .idle }
  | decided (name : String) (raw : Word) (read : Option Word) (cause : Cause) (succeeds : Bool)
    (pc : state.snapshot = .read name raw read cause) (asked : succeeds = true ∨ lastRow state.rows name = none) :
    AuditStep state
      { state with
        snapshot := decisionPc name raw read cause (monitorConfigSnapshotDecide state.rows name raw succeeds) }
  | recorded (name : String) (raw : Word) (read : Option Word) (source : String) (cause : Cause) (succeeds : Bool)
    (pc : state.snapshot = .decided name raw read source cause) :
    AuditStep state
      { state with
        rows := if succeeds then state.rows ++ [snapshotRow name raw read source] else state.rows
        snapshot := .idle }

theorem write_checked (value : BitVec 16) (held : Word) (outcome : ConfigWrite) (sighted : outcome.blind value = false)
    (accepted : upsConfigWrite value held outcome = 0) : outcome.returned held = some (value.setWidth 32) := by
  cases outcome with
  | invalid | unsupported | unreachable | failed _ =>
    rw [upsConfigWrite] at accepted
    exact absurd accepted (by decide)
  | sent stored check =>
    rw [upsConfigWrite] at accepted
    have same : check.raw held = some (value.setWidth 32) := by
      by_contra differs
      rw [if_neg differs] at accepted
      exact absurd accepted (by decide)
    cases check with
    | value => exact same
    | error => cases same
    | unnoticed =>
      rw [ConfigWrite.blind, beq_eq_false_iff_ne] at sighted
      rw [Reading.raw, Option.some.injEq] at same
      refine absurd ?_ sighted
      have narrow : (value.setWidth 32).setWidth 16 = value := by simp
      rw [← narrow, ← same]
      rfl

theorem write_step_cases (state : Audit) (index : Nat) (request : SetRequest) (outcome : ConfigWrite)
    (found : state.requests[index]? = some request) (entered : request.pc = .entered)
    (orderly : orderlyRequest state request (.write index outcome) = true) :
    AuditStep state (state.write index request outcome) := by
  simp only [orderlyRequest, entered] at orderly
  rw [Audit.write, writtenPc]
  split
  · rename_i rejected
    cases outcome with
    | invalid => exact .refused index request found entered
    | unsupported | unreachable | failed _ =>
      rw [upsConfigWrite] at rejected
      exact absurd rejected (by decide)
    | sent stored check =>
      rw [upsConfigWrite] at rejected
      split at rejected <;> exact absurd rejected (by decide)
  · rename_i accepted
    have apart := (Bool.or_eq_true _ _).mp orderly |>.resolve_left fun invalid =>
      accepted (by rw [eq_of_beq invalid]; rfl)
    simp only [Bool.and_eq_true, Bool.not_eq_true', List.all_eq_true] at apart
    obtain ⟨⟨⟨unwritten, unvisited⟩, sighted⟩, spared⟩ := apart
    exact .wrote index request _ outcome.stored _ found entered unwritten unvisited spared (write_checked _ _ outcome sighted)

theorem request_step_cases (state next : Audit) (label : AuditLabel) (index : Nat) (request : SetRequest)
    (indexed : label.request? = some index) (found : state.requests[index]? = some request)
    (orderly : orderlyRequest state request label = true) (taken : state.requestStep request label = some next) :
    AuditStep state next := by
  rw [Audit.requestStep.eq_def] at taken
  split at taken
  · rename_i outcome entered
    cases indexed
    cases taken
    exact write_step_cases state index request outcome found entered orderly
  · rename_i reading rc wrote
    cases indexed
    cases taken
    simp only [orderlyRequest, wrote, beq_iff_eq] at orderly
    rw [orderly]
    exact .readBack index request rc _ found wrote rfl
  · rename_i succeeds rc readback read pc
    cases indexed
    cases taken
    simp only [orderlyRequest, pc, Bool.or_eq_true] at orderly
    refine .inserted index request rc readback read succeeds found pc fun failed => ?_
    exact orderly.resolve_left fun succeeded => absurd (succeeded.symm.trans failed) (by decide)
  · rename_i rc readback pc
    cases indexed
    cases taken
    exact .answered index request rc readback found pc
  · cases taken

theorem snapshot_step_cases (state next : Audit) (label : AuditLabel) (orderly : orderlySnapshot state label = true)
    (taken : state.snapshotStep label = some next) : AuditStep state next := by
  rw [Audit.snapshotStep.eq_def] at taken
  split at taken
  · rename_i name reading idle
    cases taken
    simp only [orderlySnapshot, idle, Bool.or_eq_true, Bool.and_eq_true, Bool.not_eq_true', beq_iff_eq] at orderly
    rcases orderly with error | ⟨value, unwritten⟩
    · rw [error]
      exact .unread
    · rw [value]
      exact .visited name _ _ idle unwritten rfl
  · rename_i succeeds name raw read cause pc
    cases taken
    simp only [orderlySnapshot, pc] at orderly
    rw [Bool.or_eq_true, Option.isNone_iff_eq_none] at orderly
    exact .decided name raw read cause succeeds pc orderly
  · rename_i succeeds name raw read source cause pc
    cases taken
    exact .recorded name raw read source cause succeeds pc
  · cases taken

theorem audit_step_cases (state next : Audit) (label : AuditLabel) (orderly : Orderly state label)
    (taken : state.step label = some next) : AuditStep state next := by
  rw [Audit.step.eq_def] at taken
  split at taken
  · cases taken
    have unwritten := orderly.2
    simp only [orderlySnapshot, Bool.not_eq_true', List.any_eq_false] at unwritten
    refine .restarted fun name => List.any_eq_false.mpr fun request member busy => ?_
    exact unwritten request member (Bool.and_eq_true _ _ ▸ busy).2
  · cases taken
    exact .changed _ _
  · cases taken
    exact .arrived _ _
  · cases indexed : label.request? with
    | none =>
      rw [indexed] at taken
      exact snapshot_step_cases state next label orderly.2 taken
    | some index =>
      cases found : state.requests[index]? with
      | none =>
        simp only [indexed, found] at taken
        cases taken
      | some request =>
        have subject := orderly.1
        rw [Audit.subject, indexed, Option.bind_some, found, Option.all_some] at subject
        simp only [indexed, found] at taken
        exact request_step_cases state next label index request indexed found subject taken

theorem raw_column (raw : Word) : rawColumn raw = raw.toNat :=
  Monitor.printed_column 16 15 raw.toNat rfl (by decide) (Nat.lt_trans raw.isLt (by decide))

theorem api_row_raw (request : SetRequest) (raw : Word) (read : Option Word) :
    (apiRow request raw read).raw = raw.toNat := by
  rw [apiRow, raw_column]

theorem snapshot_row_raw (name : String) (raw : Word) (read : Option Word) (source : String) :
    (snapshotRow name raw read source).raw = raw.toNat := by
  rw [snapshotRow, raw_column]

theorem last_row_append (rows : List ConfigRow) (row : ConfigRow) (name : String) :
    lastRow (rows ++ [row]) name = if row.name = name then some row else lastRow rows name := by
  rw [lastRow, List.filter_append, List.filter_singleton]
  split
  · rename_i same
    rw [beq_iff_eq.mpr same, cond_true, List.getLast?_concat]
  · rename_i apart
    rw [beq_eq_false_iff_ne.mpr apart, cond_false, List.append_nil]
    rfl

theorem last_row_other (rows : List ConfigRow) (row : ConfigRow) (name : String) (succeeds : Bool)
    (apart : name ≠ row.name) : lastRow (if succeeds then rows ++ [row] else rows) name = lastRow rows name := by
  split
  · rw [last_row_append, if_neg fun equal => apart equal.symm]
  · rfl

theorem decided_external (rows : List ConfigRow) (name : String) (raw : Word) (succeeds : Bool)
    (external : monitorConfigSnapshotDecide rows name raw succeeds = .external) :
    ∃ last, lastRow rows name = some last ∧ last.raw ≠ raw.toNat := by
  rw [monitorConfigSnapshotDecide.eq_def] at external
  cases succeeds with
  | false => cases external
  | true =>
    cases found : lastRow rows name with
    | none =>
      simp only [found, if_true] at external
      cases external
    | some last =>
      refine ⟨last, rfl, fun same => ?_⟩
      have inside : raw.toNat ≤ Decimal.ulongMax := Nat.le_of_lt (Nat.lt_trans raw.isLt (by decide))
      simp only [found, if_true, same, Monitor.columnText, Decimal.strtoul_printed raw.toNat inside] at external
      cases external

theorem decided_baseline (rows : List ConfigRow) (name : String) (raw : Word) (succeeds : Bool)
    (asked : succeeds = true ∨ lastRow rows name = none)
    (baseline : monitorConfigSnapshotDecide rows name raw succeeds = .baseline) : lastRow rows name = none := by
  rcases asked with rfl | none
  · rw [monitorConfigSnapshotDecide.eq_def, if_pos rfl] at baseline
    cases found : lastRow rows name with
    | none => rfl
    | some last =>
      simp only [found] at baseline
      split at baseline <;> cases baseline
  · exact none

-- The register still has the value, or something else has changed it.
def Register.Holds (register : Register) (raw : Nat) : Prop := register.value.toNat = raw ∨ register.cause = .other

def Register.Recorded (register : Register) (last : Option ConfigRow) : Prop :=
  ∀ row, last = some row → register.Holds row.raw

theorem set_other_name (registers : String → Register) (changed name : String) (value : Word) (cause : Cause)
    (apart : name ≠ changed) : setRegister registers changed value cause name = registers name := by
  rw [setRegister]
  split
  · rfl
  · exact Function.update_of_ne apart _ _

-- Another register of a write that spares it is as it was, or has the value of its last row.
theorem store_spared (state : Audit) (request : SetRequest) (stored : List (String × Word)) (name : String)
    (spared : ∀ entry ∈ stored, state.spares request entry = true) (apart : name ≠ request.name) :
    storeRegisters state.registers stored name = state.registers name ∨
      (storeRegisters state.registers stored name).Recorded (lastRow state.rows name) ∧ state.writing name = false ∧
        state.snapshot.visits name = false := by
  rw [storeRegisters]
  cases found : stored.lookup name with
  | none => exact Or.inl rfl
  | some value =>
    dsimp only
    split
    case isTrue => exact Or.inl rfl
    case isFalse differs =>
      obtain ⟨before, after, rfl, _⟩ := List.lookup_eq_some_iff.mp found
      have spares := spared (name, value) (List.mem_append_right _ List.mem_cons_self)
      simp only [Audit.spares, Bool.or_eq_true, Bool.and_eq_true, Bool.not_eq_true', beq_iff_eq, apart, differs,
        false_or] at spares
      obtain ⟨⟨recorded, free⟩, unvisited⟩ := spares
      refine Or.inr ⟨fun row last => Or.inl ?_, free, unvisited⟩
      rw [upToDate, Option.all_eq_true] at recorded
      exact (eq_of_beq (recorded row last)).symm

theorem holds_changed (registers : String → Register) (changed name : String) (value : Word) (raw : Nat)
    (holds : (registers name).Holds raw) : (setRegister registers changed value .other name).Holds raw := by
  by_cases same : name = changed
  · rw [setRegister, same]
    split
    · exact same ▸ holds
    · rw [Function.update_self]
      exact Or.inr rfl
  · rw [set_other_name registers changed name value .other same]
    exact holds

theorem written_read (rc : Int) (value : BitVec 16) (readback : Word) (reads : List Word)
    (accepted : rc = 0 → value.setWidth 32 ∈ reads) (read : readback ∈ reads)
    (written : setResult rc value readback = "written") : value.setWidth 32 ∈ reads := by
  by_cases zero : rc = 0
  · exact accepted zero
  · by_cases same : readback = value.setWidth 32
    · exact same ▸ read
    · rw [setResult, if_pos zero, if_pos same] at written
      exact absurd written (by decide)

-- What a request knows at each point of its way: a write that succeeded has been checked,
-- and the register still has the value read back.
def RequestSound (registers : String → Register) (request : SetRequest) : Prop :=
  match request.pc with
  | .entered => True
  | .wrote rc => rc = 0 → request.value.setWidth 32 ∈ request.reads
  | .readBack rc readback read =>
    (rc = 0 → request.value.setWidth 32 ∈ request.reads) ∧ readback ∈ request.reads ∧ read = some readback ∧
      (registers request.name).Holds readback.toNat
  | .inserted rc readback => (rc = 0 → request.value.setWidth 32 ∈ request.reads) ∧ readback ∈ request.reads
  | .answered _ result => result = "written" → request.value.setWidth 32 ∈ request.reads

def SnapshotSound (state : Audit) : Prop :=
  match state.snapshot with
  | .idle => True
  | .read name raw read cause =>
    (state.registers name).Holds raw.toNat ∧ read = some raw ∧
      ∀ row, lastRow state.rows name = some row → row.raw = raw.toNat ∨ cause = .other
  | .decided name raw read source cause =>
    (state.registers name).Holds raw.toNat ∧ read = some raw ∧
      (source = "baseline" ∧ lastRow state.rows name = none ∨
        source = "external" ∧ cause = .other ∧ ∃ last, lastRow state.rows name = some last ∧ last.raw ≠ raw.toNat)

structure AuditInv (state : Audit) : Prop where
  read : ∀ row ∈ state.rows, ∃ raw, row.read = some raw ∧ row.raw = raw.toNat
  baseline : ∀ name, state.rows.countP (isBaseline name) ≤ 1
  requests : ∀ request ∈ state.requests, RequestSound state.registers request
  recorded : ∀ name, state.writing name = false → (state.registers name).Recorded (lastRow state.rows name)
  apart : ∀ name, state.snapshot.visits name = true → state.writing name = false
  snapshot : SnapshotSound state

theorem writing_of_busy (state : Audit) (index : Nat) (request : SetRequest)
    (found : state.requests[index]? = some request) (busy : request.pc.busy = true) :
    state.writing request.name = true :=
  List.any_eq_true.mpr ⟨request, List.mem_of_getElem? found, by rw [beq_self_eq_true, busy, Bool.and_self]⟩

theorem writing_set_pc (state : Audit) (index : Nat) (request : SetRequest) (pc : SetPc) (read : Option Word)
    (name : String) (found : state.requests[index]? = some request)
    (same : request.name ≠ name ∨ pc.busy = request.pc.busy) :
    (state.setPc index pc read).writing name = state.writing name := by
  refine Tables.any_modify _ (SetRequest.goto pc read) state.requests index request found ?_
  rw [SetRequest.goto]
  rcases same with apart | busy
  · rw [beq_eq_false_iff_ne.mpr apart, Bool.false_and, Bool.false_and]
  · rw [busy]

theorem requests_set_pc (state : Audit) (registers : String → Register) (index : Nat) (request : SetRequest) (pc : SetPc)
    (read : Option Word) (found : state.requests[index]? = some request)
    (sound : RequestSound registers (request.goto pc read))
    (others : ∀ other ∈ state.requests, RequestSound registers other) :
    ∀ other ∈ (state.setPc index pc read).requests, RequestSound registers other := by
  intro other member
  rcases Tables.changed_member state.requests index (SetRequest.goto pc read) request other found member with rfl | kept
  · exact sound
  · exact others other kept

theorem request_sound_moved (registers later : String → Register) (request : SetRequest)
    (sound : RequestSound registers request)
    (kept : ∀ rc raw read, request.pc = .readBack rc raw read → (registers request.name).Holds raw.toNat →
      (later request.name).Holds raw.toNat) : RequestSound later request := by
  rw [RequestSound] at sound ⊢
  cases pc : request.pc with
  | entered => trivial
  | readBack rc raw read =>
    simp only [pc] at sound
    obtain ⟨accepted, known, same, holds⟩ := sound
    exact ⟨accepted, known, same, kept rc raw read pc holds⟩
  | wrote _ | inserted _ _ | answered _ _ =>
    rw [pc] at sound
    exact sound

theorem snapshot_sound_moved (state : Audit) (later : String → Register) (sound : SnapshotSound state)
    (kept : ∀ name raw, state.snapshot.visits name = true → (state.registers name).Holds raw → (later name).Holds raw) :
    SnapshotSound { state with registers := later } := by
  rw [SnapshotSound] at sound ⊢
  cases pc : state.snapshot with
  | idle => trivial
  | read name _ _ _ | decided name _ _ _ _ =>
    simp only [pc] at sound
    exact ⟨kept name _ (by rw [pc, ConfigSnapshotPc.visits, beq_self_eq_true]) sound.1, sound.2⟩

theorem snapshot_sound_rows (state : Audit) (later : List ConfigRow) (sound : SnapshotSound state)
    (kept : ∀ name, state.snapshot.visits name = true → lastRow later name = lastRow state.rows name) :
    SnapshotSound { state with rows := later } := by
  rw [SnapshotSound] at sound ⊢
  cases pc : state.snapshot with
  | idle => trivial
  | read name _ _ _ | decided name _ _ _ _ =>
    simp only [pc] at sound
    simp only [kept name (by rw [pc, ConfigSnapshotPc.visits, beq_self_eq_true])]
    exact sound

theorem audit_set_pc (state : Audit) (index : Nat) (request : SetRequest) (pc : SetPc) (read : Option Word)
    (inv : AuditInv state) (found : state.requests[index]? = some request) (busy : pc.busy = request.pc.busy)
    (sound : RequestSound state.registers (request.goto pc read)) : AuditInv (state.setPc index pc read) := by
  have writing : ∀ name, (state.setPc index pc read).writing name = state.writing name := fun name =>
    writing_set_pc state index request pc read name found (Or.inr busy)
  refine ⟨inv.read, inv.baseline, ?_, ?_, ?_, inv.snapshot⟩
  · exact requests_set_pc state state.registers index request pc read found sound inv.requests
  · intro name unwritten
    rw [writing] at unwritten
    exact inv.recorded name unwritten
  · intro name visits
    rw [writing]
    exact inv.apart name visits

theorem audit_changed (state : Audit) (changed : String) (value : Word) (inv : AuditInv state) :
    AuditInv { state with registers := setRegister state.registers changed value .other } := by
  refine ⟨inv.read, inv.baseline, ?_, ?_, inv.apart, ?_⟩
  · intro request member
    exact request_sound_moved state.registers _ request (inv.requests request member) fun _ raw _ _ holds =>
      holds_changed state.registers changed request.name value raw.toNat holds
  · intro name unwritten row last
    exact holds_changed state.registers changed name value row.raw (inv.recorded name unwritten row last)
  · exact snapshot_sound_moved state _ inv.snapshot fun name raw _ holds =>
      holds_changed state.registers changed name value raw holds

theorem audit_arrived (state : Audit) (name : String) (value : BitVec 16) (inv : AuditInv state) :
    AuditInv
      { state with requests := state.requests ++ [{ name := name, value := value, pc := .entered, reads := [] }] } := by
  have writing : ∀ other, Audit.writing
      { state with requests := state.requests ++ [{ name := name, value := value, pc := .entered, reads := [] }] } other =
        state.writing other := by
    intro other
    simp only [Audit.writing, List.any_append, List.any_cons, List.any_nil, SetPc.busy, Bool.and_false, Bool.or_false]
  refine ⟨inv.read, inv.baseline, ?_, ?_, ?_, inv.snapshot⟩
  · intro request member
    rcases List.mem_append.mp member with old | new
    · exact inv.requests request old
    · rw [List.mem_singleton.mp new]
      trivial
  · intro other unwritten
    rw [writing] at unwritten
    exact inv.recorded other unwritten
  · intro other visits
    rw [writing]
    exact inv.apart other visits

-- The write makes its register one that is being written, and spares the others.
theorem audit_wrote (state : Audit) (index : Nat) (request : SetRequest) (rc : Int) (stored : List (String × Word))
    (read : Option Word) (inv : AuditInv state) (found : state.requests[index]? = some request)
    (unwritten : state.writing request.name = false) (unvisited : state.snapshot.visits request.name = false)
    (spared : ∀ entry ∈ stored, state.spares request entry = true)
    (checked : rc = 0 → read = some (request.value.setWidth 32)) :
    AuditInv { state.setPc index (.wrote rc) read with registers := storeRegisters state.registers stored } := by
  have others := fun name apart => store_spared state request stored name spared apart
  have written : (state.setPc index (.wrote rc) read).writing request.name = true :=
    writing_of_busy (state.setPc index (.wrote rc) read) index (request.goto (.wrote rc) read)
      (Tables.modify_same state.requests index _ request found) rfl
  have same : ∀ name, name ≠ request.name → (state.setPc index (.wrote rc) read).writing name = state.writing name :=
    fun name apart => writing_set_pc state index request (.wrote rc) read name found (Or.inl apart.symm)
  refine ⟨inv.read, inv.baseline, ?_, ?_, ?_, ?_⟩
  · refine requests_set_pc state (storeRegisters state.registers stored) index request (.wrote rc) read found
      (fun zero => ?_) fun other member => ?_
    · rw [checked zero]
      exact List.mem_append_right _ (List.mem_singleton_self _)
    · refine request_sound_moved state.registers _ other (inv.requests other member) fun otherRc raw _ pc holds => ?_
      have busy : state.writing other.name = true :=
        List.any_eq_true.mpr ⟨other, member, by rw [pc, beq_self_eq_true, SetPc.busy, Bool.and_self]⟩
      have apart : other.name ≠ request.name := fun equal => absurd (busy.symm.trans (equal ▸ unwritten)) (by decide)
      obtain kept | ⟨_, free, _⟩ := others other.name apart
      · rw [kept]
        exact holds
      · exact absurd (busy.symm.trans free) (by decide)
  · intro name free
    by_cases equal : name = request.name
    · rw [equal] at free
      exact absurd (written.symm.trans free) (by decide)
    · obtain kept | ⟨recorded, _, _⟩ := others name equal
      · have earlier := inv.recorded name ((same name equal).symm.trans free)
        rw [← kept] at earlier
        exact earlier
      · exact recorded
  · intro name visits
    have equal : name ≠ request.name := by
      rintro rfl
      exact absurd (unvisited.symm.trans visits) (by decide)
    exact (same name equal).trans (inv.apart name visits)
  · refine snapshot_sound_moved state _ inv.snapshot fun name raw visits holds => ?_
    have apart : name ≠ request.name := fun equal => absurd (visits.symm.trans (equal ▸ unvisited)) (by decide)
    obtain kept | ⟨_, _, free⟩ := others name apart
    · rw [kept]
      exact holds
    · exact absurd (visits.symm.trans free) (by decide)

theorem count_baselines (rows : List ConfigRow) (row : ConfigRow) (name : String)
    (once : isBaseline name row = true → rows.countP (isBaseline name) = 0) (count : rows.countP (isBaseline name) ≤ 1) :
    (rows ++ [row]).countP (isBaseline name) ≤ 1 := by
  rw [Tables.count_append]
  cases holds : isBaseline name row with
  | false => exact count
  | true =>
    rw [once holds]
    exact Nat.le_refl 1

theorem rows_append (state : Audit) (row : ConfigRow) (raw : Word) (read : row.read = some raw) (same : row.raw = raw.toNat)
    (inv : AuditInv state) : ∀ other ∈ state.rows ++ [row], ∃ raw, other.read = some raw ∧ other.raw = raw.toNat := by
  intro other member
  rcases List.mem_append.mp member with old | new
  · exact inv.read other old
  · rw [List.mem_singleton.mp new]
    exact ⟨raw, read, same⟩

-- The row puts what the register was found with into the audit, and ends the writing.
theorem audit_inserted (state : Audit) (index : Nat) (request : SetRequest) (rc : Int) (readback : Word)
    (read : Option Word) (succeeds : Bool) (inv : AuditInv state) (found : state.requests[index]? = some request)
    (pc : request.pc = .readBack rc readback read)
    (due : succeeds = false → upToDate state.rows request.name readback.toNat = true) :
    AuditInv
      { state.setPc index (.inserted rc readback) none with
        rows := if succeeds then state.rows ++ [apiRow request readback read] else state.rows } := by
  have known := inv.requests request (List.mem_of_getElem? found)
  rw [RequestSound, pc] at known
  obtain ⟨accepted, known, same, holds⟩ := known
  have busy : state.writing request.name = true := writing_of_busy state index request found (by rw [pc, SetPc.busy])
  have others : ∀ name, name ≠ request.name →
      (state.setPc index (.inserted rc readback) none).writing name = state.writing name := fun name apart =>
    writing_set_pc state index request (.inserted rc readback) none name found (Or.inl apart.symm)
  have unvisited : ∀ name, state.snapshot.visits name = true → name ≠ request.name := fun name visits equal =>
    absurd (busy.symm.trans (equal ▸ inv.apart name visits)) (by decide)
  have rowsOther : ∀ name, name ≠ request.name →
      lastRow (if succeeds then state.rows ++ [apiRow request readback read] else state.rows) name =
        lastRow state.rows name := fun name apart =>
    last_row_other state.rows (apiRow request readback read) name succeeds apart
  refine ⟨?_, ?_, ?_, ?_, ?_, ?_⟩
  · cases succeeds with
    | true => exact rows_append state (apiRow request readback read) readback same (api_row_raw request readback read) inv
    | false => exact inv.read
  · intro name
    cases succeeds with
    | true =>
      refine count_baselines state.rows _ name (fun baseline => ?_) (inv.baseline name)
      simp [isBaseline, apiRow] at baseline
    | false => exact inv.baseline name
  · refine requests_set_pc state state.registers index request _ none found ⟨?_, ?_⟩ inv.requests
    · exact fun zero => List.mem_append_left _ (accepted zero)
    · exact List.mem_append_left _ known
  · intro name free row last
    by_cases equal : name = request.name
    · subst equal
      cases succeeds with
      | true =>
        rw [if_pos rfl, last_row_append, if_pos (by rw [apiRow]), Option.some.injEq] at last
        rw [← last, api_row_raw]
        exact holds
      | false =>
        have recorded := due rfl
        rw [upToDate, Option.all_eq_true] at recorded
        rw [eq_of_beq (recorded row last)]
        exact holds
    · rw [rowsOther name equal] at last
      exact inv.recorded name ((others name equal).symm.trans free) row last
  · intro name visits
    exact (others name (unvisited name visits)).trans (inv.apart name visits)
  · exact snapshot_sound_rows state _ inv.snapshot fun name visits => rowsOther name (unvisited name visits)

theorem audit_idle (state : Audit) (inv : AuditInv state) : AuditInv { state with snapshot := .idle } := by
  refine ⟨inv.read, inv.baseline, inv.requests, inv.recorded, ?_, trivial⟩
  intro name visits
  cases visits

theorem audit_visited (state : Audit) (name : String) (held : Word) (cause : Cause) (inv : AuditInv state)
    (unwritten : state.writing name = false) (holds : state.registers name = { value := held, cause := cause }) :
    AuditInv { state with snapshot := .read name held (some held) cause } := by
  refine ⟨inv.read, inv.baseline, inv.requests, inv.recorded, ?_, ?_⟩
  · intro other visits
    rw [ConfigSnapshotPc.visits, beq_iff_eq] at visits
    exact visits ▸ unwritten
  · refine ⟨Or.inl (by rw [holds]), rfl, fun row last => ?_⟩
    have recorded := inv.recorded name unwritten row last
    rw [holds] at recorded
    exact recorded.imp_left Eq.symm

theorem audit_decided (state : Audit) (name : String) (raw : Word) (read : Option Word) (cause : Cause) (succeeds : Bool)
    (inv : AuditInv state) (pc : state.snapshot = .read name raw read cause)
    (asked : succeeds = true ∨ lastRow state.rows name = none) :
    AuditInv
      { state with
        snapshot := decisionPc name raw read cause (monitorConfigSnapshotDecide state.rows name raw succeeds) } := by
  have sound := inv.snapshot
  rw [SnapshotSound, pc] at sound
  have unwritten := inv.apart name (by rw [pc, ConfigSnapshotPc.visits, beq_self_eq_true])
  cases decision : monitorConfigSnapshotDecide state.rows name raw succeeds with
  | skip => exact audit_idle state inv
  | baseline =>
    refine ⟨inv.read, inv.baseline, inv.requests, inv.recorded, ?_, ?_⟩
    · intro other visits
      exact eq_of_beq visits ▸ unwritten
    · exact ⟨sound.1, sound.2.1, Or.inl ⟨rfl, decided_baseline state.rows name raw succeeds asked decision⟩⟩
  | external =>
    obtain ⟨last, found, differs⟩ := decided_external state.rows name raw succeeds decision
    have foreign := (sound.2.2 last found).resolve_left differs
    refine ⟨inv.read, inv.baseline, inv.requests, inv.recorded, ?_, ?_⟩
    · intro other visits
      exact eq_of_beq visits ▸ unwritten
    · exact ⟨sound.1, sound.2.1, Or.inr ⟨rfl, foreign, last, found, differs⟩⟩

theorem no_row_no_baseline (rows : List ConfigRow) (name : String) (none : lastRow rows name = none) :
    rows.countP (isBaseline name) = 0 := by
  rw [lastRow, List.getLast?_eq_none_iff, List.filter_eq_nil_iff] at none
  refine List.countP_eq_zero.mpr fun row member baseline => ?_
  rw [isBaseline, Bool.and_eq_true] at baseline
  exact none row member baseline.1

theorem audit_recorded (state : Audit) (name : String) (raw : Word) (read : Option Word) (source : String) (cause : Cause)
    (succeeds : Bool) (inv : AuditInv state) (pc : state.snapshot = .decided name raw read source cause) :
    AuditInv
      { state with
        rows := if succeeds then state.rows ++ [snapshotRow name raw read source] else state.rows
        snapshot := .idle } := by
  have sound := inv.snapshot
  rw [SnapshotSound, pc] at sound
  cases succeeds with
  | false => exact audit_idle state inv
  | true =>
    refine ⟨?_, ?_, inv.requests, ?_, (audit_idle state inv).apart, trivial⟩
    · exact rows_append state (snapshotRow name raw read source) raw sound.2.1 (snapshot_row_raw name raw read source) inv
    · intro other
      refine count_baselines state.rows _ other (fun baseline => ?_) (inv.baseline other)
      rw [isBaseline, snapshotRow, Bool.and_eq_true, beq_iff_eq, beq_iff_eq] at baseline
      obtain ⟨same, first⟩ := baseline
      rcases sound.2.2 with ⟨_, none⟩ | ⟨external, _⟩
      · exact same ▸ no_row_no_baseline state.rows name none
      · exact absurd (first.symm.trans external) (by decide)
    · intro other free row last
      rw [if_pos rfl, last_row_append] at last
      split at last
      · rename_i same
        cases last
        rw [snapshot_row_raw]
        exact same ▸ sound.1
      · exact inv.recorded other free row last

theorem audit_step_keeps (state next : Audit) (inv : AuditInv state) (taken : AuditStep state next) : AuditInv next := by
  cases taken with
  | restarted unwritten =>
    refine ⟨inv.read, inv.baseline, fun request member => ?_, fun name _ => ?_, fun name visits => ?_, trivial⟩
    · cases member
    · exact inv.recorded name (unwritten name)
    · cases visits
  | changed name value => exact audit_changed state name value inv
  | arrived name value => exact audit_arrived state name value inv
  | refused index request found entered =>
    refine audit_set_pc state index request _ none inv found (by rw [entered]; rfl) fun wrong => ?_
    exact absurd wrong (by decide)
  | wrote index request rc stored read found entered unwritten unvisited spared checked =>
    exact audit_wrote state index request rc stored read inv found unwritten unvisited spared checked
  | readBack index request rc held found wrote holds =>
    have known := inv.requests request (List.mem_of_getElem? found)
    rw [RequestSound, wrote] at known
    refine audit_set_pc state index request _ (some held) inv found (by rw [wrote]; rfl) ⟨?_, ?_, rfl, ?_⟩
    · exact fun zero => List.mem_append_left _ (known zero)
    · exact List.mem_append_right _ (List.mem_singleton_self held)
    · exact Or.inl (congrArg BitVec.toNat holds)
  | inserted index request rc readback read succeeds found pc due =>
    exact audit_inserted state index request rc readback read succeeds inv found pc due
  | answered index request rc readback found pc =>
    have known := inv.requests request (List.mem_of_getElem? found)
    rw [RequestSound, pc] at known
    refine audit_set_pc state index request _ none inv found (by rw [pc]; rfl) fun written => ?_
    exact List.mem_append_left _ (written_read rc request.value readback request.reads known.1 known.2 written)
  | visited name held cause _ unwritten holds => exact audit_visited state name held cause inv unwritten holds
  | unread => exact audit_idle state inv
  | decided name raw read cause succeeds pc asked =>
    exact audit_decided state name raw read cause succeeds inv pc asked
  | recorded name raw read source cause succeeds pc =>
    exact audit_recorded state name raw read source cause succeeds inv pc

theorem audit_start (values : String → Word) : AuditInv (.start values) where
  read := fun _ member => by cases member
  baseline := fun _ => Nat.zero_le 1
  requests := fun _ member => by cases member
  recorded := fun _ _ _ last => by cases last
  apart := fun _ visits => by cases visits
  snapshot := trivial

theorem rows_cases (state next : Audit) (taken : AuditStep state next) :
    next.rows = state.rows ∨ (∃ request readback read, next.rows = state.rows ++ [apiRow request readback read]) ∨
      ∃ name raw read source cause, state.snapshot = .decided name raw read source cause ∧
        next.rows = state.rows ++ [snapshotRow name raw read source] := by
  cases taken with
  | inserted index request rc readback read succeeds _ _ _ =>
    cases succeeds with
    | true => exact Or.inr (Or.inl ⟨request, readback, read, rfl⟩)
    | false => exact Or.inl rfl
  | recorded name raw read source cause succeeds pc =>
    cases succeeds with
    | true => exact Or.inr (Or.inr ⟨name, raw, read, source, cause, pc, rfl⟩)
    | false => exact Or.inl rfl
  | _ => exact Or.inl rfl

theorem external_row (state next : Audit) (inv : AuditInv state) (taken : AuditStep state next) (row : ConfigRow)
    (appended : next.rows = state.rows ++ [row]) (external : row.source = "external") :
    ∃ raw read last, state.snapshot = .decided row.name raw read row.source .other ∧ row.raw = raw.toNat ∧
      lastRow state.rows row.name = some last ∧ last.raw ≠ row.raw := by
  rcases rows_cases state next taken with same | ⟨request, readback, read, same⟩ |
    ⟨name, raw, read, source, cause, pc, same⟩
  · rw [same, List.self_eq_append_right] at appended
    cases appended
  · rw [same, List.append_cancel_left_eq, List.singleton_inj] at appended
    subst appended
    have tagged : "api" = "external" := external
    exact absurd tagged (by decide)
  · rw [same, List.append_cancel_left_eq, List.singleton_inj] at appended
    subst appended
    have sound := inv.snapshot
    rw [SnapshotSound, pc] at sound
    have tagged : source = "external" := external
    rcases sound.2.2 with ⟨first, _⟩ | ⟨_, foreign, last, found, differs⟩
    · exact absurd (first.symm.trans tagged) (by decide)
    · refine ⟨raw, read, last, ?_, snapshot_row_raw name raw read source, found, ?_⟩
      · rw [pc, foreign]
        rfl
      · rw [snapshot_row_raw]
        exact differs

theorem audit_step_sound (past : List AuditLabel) (state next : Audit) (label : AuditLabel) (inv : AuditInv state)
    (taken : AuditStep state next) : AuditSound past state label next := by
  have kept := audit_step_keeps state next inv taken
  refine ⟨kept.read, external_row state next inv taken, kept.baseline, ?_⟩
  intro request member status pc
  have known := kept.requests request member
  rw [RequestSound, pc] at known
  exact known rfl

theorem config_audit_sound (values : String → Word) (labels : List AuditLabel)
    (orderly : Runs.Admitted Audit.step Orderly (.start values) labels) :
    Runs.EachStep Audit.step (.start values) labels AuditSound := by
  have each := Runs.each_step_admitted Audit.step Orderly (.start values) labels orderly
  refine Runs.each_step_imp Audit.step (.start values) _ AuditSound (fun _ state => AuditInv state) (audit_start values)
    ?_ ?_ labels each
  · intro _ state label next inv allowed taken
    exact audit_step_keeps state next inv (audit_step_cases state next label allowed taken)
  · intro past state label next inv allowed taken
    exact audit_step_sound past state next label inv (audit_step_cases state next label allowed taken)

-- A baseline, an API write, and a change at the front panel that the next snapshot finds.
def panelChange : List AuditLabel :=
  [.snapshotRead "transfer_high" .value, .decide true, .snapshotInsert true, .request "transfer_high" 127,
    .write 0 (.sent [("transfer_high", 127)] .value), .readBack 0 .value, .insert 0 true, .answer 0, .otherChange "transfer_high" 132,
    .snapshotRead "transfer_high" .value, .decide true, .snapshotInsert true]

theorem panel_change_sound :
    Runs.EachStep Audit.step (.start fun _ => 136) panelChange AuditSound :=
  config_audit_sound (fun _ => 136) panelChange (by decide +kernel)

-- The snapshot's read of a HID UPS fails.
def failedRead : List AuditLabel := [.snapshotRead "transfer_high" .unnoticed, .decide true, .snapshotInsert true]

-- Two limits packed in one report: a write of the second goes to the first.
def packedLimits : Audit := .start fun name => if name = "low_battery_threshold" then 10 else 30

def packedWrite : List AuditLabel :=
  [.snapshotRead "low_battery_threshold" .value, .decide true, .snapshotInsert true, .request "warning_capacity" 20,
    .write 0 (.sent [("low_battery_threshold", 20)] .value), .readBack 0 .value, .insert 0 true, .answer 0,
    .snapshotRead "low_battery_threshold" .value, .decide true, .snapshotInsert true]

theorem unread_value_recorded :
    ¬Runs.EachStep Audit.step (.start fun _ => 136) failedRead AuditSound ∧
      ¬Runs.EachStep Audit.step packedLimits packedWrite AuditSound := by
  constructor
  · intro sound
    have inserted := Runs.each_step_final _ _ _ _ sound (failedRead.take 2) _ [] rfl (by decide +kernel)
    have unread : ∃ row ∈ (Runs.final Audit.step (.start fun _ => 136) failedRead).rows, row.read = none := by
      decide +kernel
    obtain ⟨row, member, none⟩ := unread
    obtain ⟨raw, read, _⟩ := inserted.read row member
    cases none.symm.trans read
  · intro sound
    have inserted := Runs.each_step_final _ _ _ _ sound (packedWrite.take 10) _ [] rfl (by decide +kernel)
    obtain ⟨raw, read, _, decided, _⟩ :=
      inserted.external (snapshotRow "low_battery_threshold" 20 (some 20) "external") (by decide +kernel) rfl
    have own : (Runs.final Audit.step packedLimits (packedWrite.take 10)).snapshot =
        .decided "low_battery_threshold" 20 (some 20) "external" .api := by decide +kernel
    cases own.symm.trans decided

end AiriesUps.Api
