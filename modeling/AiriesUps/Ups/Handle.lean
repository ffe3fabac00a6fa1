import AiriesUps.Lib.Runs
import AiriesUps.Hid.ConfigWrite
import AiriesUps.Ups.Data
import AiriesUps.Ups.Registry

set_option autoImplicit false

namespace AiriesUps.Ups

open Hid (ConfigReg ReturnCode)

inductive ConnType where
  | serial
  | usb
  | tcp
  | snmp
deriving DecidableEq, Repr

structure CmdDesc where
  name : String
  flags : BitVec 32
  execute : Bool
  executeOff : Bool
deriving DecidableEq, Repr

def cmdIsShutdown : BitVec 32 := 1#32 <<< 0

structure UpsDriver where
  name : String
  connType : ConnType
  connect : Bool
  disconnect : Bool
  detect : Bool
  configRegs : Option (List ConfigReg)
  resolveConfigRegs : Bool
  readStatus : Bool
  readDynamic : Bool
  readInventory : Bool
  readThresholds : Bool
  readTransferReason : Bool
  commands : Option (List CmdDesc)
  configRead : Bool
  configWrite : Bool
deriving DecidableEq, Repr

inductive ReadKind where
  | status
  | transferReason
  | dynamic
  | inventory
  | thresholds
deriving DecidableEq, Repr

-- A call into a driver's function, or one of the two stores to ups->transport. driver
-- is the position in ups_drivers.
inductive Call where
  | attempt (now : Int)
  | connect (driver transport : Nat)
  | detect (driver transport : Nat) (claims : Bool)
  | disconnect (driver transport : Nat)
  | attach (transport : Nat)
  | detach
  | resolveConfigRegs (transport : Nat) (kept : List ConfigReg)
  | read (kind : ReadKind) (transport : Nat) (rc : Int)
  | command (transport : Nat) (name : String) (off : Bool) (rc : Int)
  | configRead (transport : Nat) (reg : ConfigReg) (rc : Int)
  | configWrite (transport : Nat) (reg : ConfigReg) (value : BitVec 16) (rc : Int)
deriving DecidableEq, Repr

-- A const ups_config_reg_t *: an entry of the driver's array, or of the block that the
-- run of ups_resolve_runtime with that number filled.
structure RegPointer where
  block : Option Nat
  index : Nat
deriving DecidableEq, Repr

-- struct ups_context. table is driver->config_regs, which a resolver may change in
-- place, and resolutions counts the runs of ups_resolve_runtime. nextTransport numbers
-- what the drivers' connect returns, calls are the calls made so far.
structure Handle where
  index : Nat
  driver : UpsDriver
  transport : Option Nat
  table : List ConfigReg
  resolvedRegs : Option (List ConfigReg)
  resolutions : Nat
  consecutiveErrors : Nat
  lastReconnectAttempt : Int
  nextTransport : Nat
  calls : List Call
deriving DecidableEq, Repr

-- What the outside answers during one call of the public functions: the clock, a
-- reconnect's driver functions and allocation, and the function the call is for. fixed
-- are the first entries of the array as the resolver leaves them, and refilled what is
-- read in the memory of a freed block.
structure Answers where
  now : Int
  connects : Bool
  detects : Bool
  allocates : Bool
  keeps : List ConfigReg
  fixed : List ConfigReg
  refilled : ConfigReg
  inventoryRc : Int
  rc : Int
deriving DecidableEq, Repr

def upsErrIo : Int := -1
def upsErrNoDriver : Int := -2
def upsErrNotSupported : Int := -3
def upsErrInvalidValue : Int := -4

def Handle.record (ups : Handle) (call : Call) : Handle := { ups with calls := ups.calls ++ [call] }

def UpsDriver.narrows (driver : UpsDriver) : Bool :=
  driver.resolveConfigRegs &&
    match driver.configRegs with
    | some regs => !regs.isEmpty
    | none => false

def upsResolveRuntime (ups : Handle) (transport : Nat) (answers : Answers) : Handle :=
  let dropped := { ups with resolvedRegs := none, resolutions := ups.resolutions + 1 }
  if ups.driver.narrows && answers.allocates then
    let fixedUp := ups.table.mapIdx fun index reg => answers.fixed.getD index reg
    let asked := { dropped with table := fixedUp }.record (.resolveConfigRegs transport answers.keeps)
    if answers.keeps = [] then asked else { asked with resolvedRegs := some answers.keeps }
  else dropped

def upsClearErrors (ups : Handle) : Handle := { ups with consecutiveErrors := 0 }

def Handle.disconnect (ups : Handle) (transport : Nat) : Handle :=
  if ups.driver.disconnect then ups.record (.disconnect ups.index transport) else ups

def refreshInventory (ups : Handle) (transport : Nat) (rc : Int) : Handle :=
  if ups.driver.readInventory then ups.record (.read .inventory transport rc) else ups

-- The end of ups_try_reconnect, once detect has accepted the transport.
def adopt (ups : Handle) (transport : Nat) (answers : Answers) : Handle :=
  let attached := { ups with transport := some transport, consecutiveErrors := 0 }.record (.attach transport)
  refreshInventory (upsResolveRuntime attached transport answers) transport answers.inventoryRc

def upsTryReconnect (ups : Handle) (answers : Answers) : Handle :=
  if ups.transport.isSome then ups
  else if !ups.driver.connect then ups
  else if answers.now - ups.lastReconnectAttempt < reconnectIntervalSec then ups
  else
    let tried := { ups with lastReconnectAttempt := answers.now }.record (.attempt answers.now)
    if !answers.connects then tried
    else
      let transport := ups.nextTransport
      let opened := { tried with nextTransport := transport + 1 }.record (.connect ups.index transport)
      if ups.driver.detect then
        let probed := opened.record (.detect ups.index transport answers.detects)
        if answers.detects then adopt probed transport answers else probed.disconnect transport
      else adopt opened transport answers

def upsHandleError (ups : Handle) : Handle :=
  let counted := { ups with consecutiveErrors := ups.consecutiveErrors + 1 }
  if counted.consecutiveErrors ≥ maxConsecutiveErrors then
    let closed :=
      match counted.transport with
      | some transport => counted.disconnect transport
      | none => counted
    { closed with transport := none, lastReconnectAttempt := 0 }.record .detach
  else counted

def upsEnsureTransport (ups : Handle) (answers : Answers) : Handle :=
  if ups.transport.isNone then upsTryReconnect ups answers else ups

-- What the dispatchers share: check the driver's function, take the lock, ensure the
-- transport, call. Only the counted reads look at the return code.
def dispatch (ups : Handle) (present : Bool) (call : Nat → Int → Call) (counted : Bool) (answers : Answers) :
    Handle × Int :=
  if !present then (ups, upsErrNotSupported)
  else
    let ensured := upsEnsureTransport ups answers
    match ensured.transport with
    | none => (ensured, upsErrIo)
    | some transport =>
      let called := ensured.record (call transport answers.rc)
      if !counted then (called, answers.rc)
      else if answers.rc ≠ 0 then (upsHandleError called, answers.rc)
      else (upsClearErrors called, answers.rc)

def upsReadStatus (ups : Handle) (answers : Answers) : Handle × Int :=
  dispatch ups ups.driver.readStatus (.read .status) true answers

def upsReadTransferReason (ups : Handle) (answers : Answers) : Handle × Int :=
  dispatch ups ups.driver.readTransferReason (.read .transferReason) true answers

def upsReadDynamic (ups : Handle) (answers : Answers) : Handle × Int :=
  dispatch ups ups.driver.readDynamic (.read .dynamic) true answers

def upsReadInventory (ups : Handle) (answers : Answers) : Handle × Int :=
  dispatch ups ups.driver.readInventory (.read .inventory) false answers

def upsReadThresholds (ups : Handle) (answers : Answers) : Handle × Int :=
  dispatch ups ups.driver.readThresholds (.read .thresholds) false answers

def upsGetCommands (ups : Handle) : List CmdDesc := ups.driver.commands.getD []

def upsFindCommand (ups : Handle) (name : String) : Option CmdDesc :=
  (upsGetCommands ups).find? fun command => command.name == name

def upsFindCommandFlag (ups : Handle) (flag : BitVec 32) : Option CmdDesc :=
  (upsGetCommands ups).find? fun command => has command.flags flag

def upsCmdExecute (ups : Handle) (name : String) (off : Bool) (answers : Answers) : Handle × Int :=
  match upsFindCommand ups name with
  | none => (ups, upsErrNotSupported)
  | some command =>
    dispatch ups (if off then command.executeOff else command.execute)
      (fun transport rc => .command transport command.name off rc) false answers

def upsGetConfigRegs (ups : Handle) : List ConfigReg := ups.resolvedRegs.getD ups.table

def upsFindConfigReg (ups : Handle) (name : String) : Option RegPointer :=
  ((upsGetConfigRegs ups).findIdx? fun reg => reg.name == name).map fun index =>
    { block := if ups.resolvedRegs.isSome then some ups.resolutions else none, index := index }

def Handle.deref (ups : Handle) (refilled : ConfigReg) (pointer : RegPointer) : ConfigReg :=
  match pointer.block with
  | none => ups.table.getD pointer.index refilled
  | some number =>
    if number = ups.resolutions then (ups.resolvedRegs.getD []).getD pointer.index refilled else refilled

-- The descriptor the driver's function reads, after ups_ensure_transport.
def Handle.passed (ups : Handle) (pointer : RegPointer) (answers : Answers) : ConfigReg :=
  (upsEnsureTransport ups answers).deref answers.refilled pointer

def upsConfigRead (ups : Handle) (pointer : RegPointer) (answers : Answers) : Handle × Int :=
  dispatch ups ups.driver.configRead (fun transport rc => .configRead transport (ups.passed pointer answers) rc) true answers

def configWriteRefusal (driver : UpsDriver) (reg : ConfigReg) (value : BitVec 16) : Option Int :=
  if !reg.writable then some upsErrNotSupported
  else if !driver.configWrite then some upsErrNotSupported
  else if Hid.upsConfigValidate reg value ≠ .ok then some upsErrInvalidValue
  else none

-- ups_config_write: the checks find seen at the descriptor, and ups is the handle once
-- the lock is taken.
def configWriteSeen (ups : Handle) (seen : ConfigReg) (pointer : RegPointer) (value : BitVec 16) (answers : Answers) :
    Handle × Int :=
  match configWriteRefusal ups.driver seen value with
  | some code => (ups, code)
  | none =>
    dispatch ups true (fun transport rc => .configWrite transport (ups.passed pointer answers) value rc) false answers

-- Where no other thread comes between the checks and the lock.
def upsConfigWrite (ups : Handle) (pointer : RegPointer) (value : BitVec 16) (answers : Answers) : Handle × Int :=
  configWriteSeen ups (ups.deref answers.refilled pointer) pointer value answers

inductive Request where
  | readStatus
  | readTransferReason
  | readDynamic
  | readInventory
  | readThresholds
  | cmdExecute (name : String) (off : Bool)
  | configRead (pointer : RegPointer)
  | configWrite (pointer : RegPointer) (value : BitVec 16)
deriving DecidableEq, Repr

def serve (ups : Handle) (request : Request) (answers : Answers) : Handle × Int :=
  match request with
  | .readStatus => upsReadStatus ups answers
  | .readTransferReason => upsReadTransferReason ups answers
  | .readDynamic => upsReadDynamic ups answers
  | .readInventory => upsReadInventory ups answers
  | .readThresholds => upsReadThresholds ups answers
  | .cmdExecute name off => upsCmdExecute ups name off answers
  | .configRead pointer => upsConfigRead ups pointer answers
  | .configWrite pointer value => upsConfigWrite ups pointer value answers

-- The calls of any number of threads: cmd_mutex makes each of them one step.
def Handle.step : Runs.Step Handle (Request × Answers) := fun ups taken => some (serve ups taken.1 taken.2).1

-- The answers to one driver of the list in ups_connect; context is calloc of the handle.
structure Probe where
  driver : UpsDriver
  context : Bool
  answers : Answers
deriving DecidableEq, Repr

structure Outcome where
  status : Int
  handle : Option Handle
  calls : List Call
deriving DecidableEq, Repr

def blankContext (index : Nat) (driver : UpsDriver) (transport : Nat) (calls : List Call) : Handle :=
  { index := index, driver := driver, transport := some transport, table := driver.configRegs.getD [], resolvedRegs := none
    resolutions := 0, consecutiveErrors := 0, lastReconnectAttempt := 0, nextTransport := transport + 1
    calls := calls ++ [.attach transport] }

def buildContext (index : Nat) (probe : Probe) (transport : Nat) (calls : List Call) : Handle :=
  (upsReadInventory (upsResolveRuntime (blankContext index probe.driver transport calls) transport probe.answers)
    { probe.answers with rc := probe.answers.inventoryRc }).1

def closeProbe (index : Nat) (driver : UpsDriver) (transport : Nat) : List Call :=
  if driver.disconnect then [.disconnect index transport] else []

def connectResult (matched connected : Bool) (calls : List Call) : Outcome :=
  { status := if !matched then upsErrNoDriver else if !connected then upsErrIo else upsErrNoDriver
    handle := none, calls := calls }

def upsConnectLoop (type : ConnType) :
    (index transport : Nat) → (matched connected : Bool) → (calls : List Call) → List Probe → Outcome
  | _, _, matched, connected, calls, [] => connectResult matched connected calls
  | index, transport, matched, connected, calls, probe :: rest =>
    if probe.driver.connType ≠ type then upsConnectLoop type (index + 1) transport matched connected calls rest
    else if !(probe.driver.connect && probe.driver.detect) || !probe.answers.connects then
      upsConnectLoop type (index + 1) transport true connected calls rest
    else
      let opened := calls ++ [.connect index transport, .detect index transport probe.answers.detects]
      if !probe.answers.detects then
        upsConnectLoop type (index + 1) (transport + 1) true true (opened ++ closeProbe index probe.driver transport) rest
      else if !probe.context then
        { status := upsErrIo, handle := none, calls := opened ++ closeProbe index probe.driver transport }
      else
        let ups := buildContext index probe transport opened
        { status := 0, handle := some ups, calls := ups.calls }

def Handle.upsConnect (type : ConnType) (probes : List Probe) : Outcome := upsConnectLoop type 0 0 false false [] probes

def upsClose (ups : Handle) : List Call :=
  match ups.transport with
  | some transport => (ups.disconnect transport).calls
  | none => ups.calls

def serialDriver (disconnect : Bool) : UpsDriver :=
  { name := "smt", connType := .serial, connect := true, disconnect := disconnect, detect := true, configRegs := none
    resolveConfigRegs := false, readStatus := true, readDynamic := true, readInventory := true, readThresholds := true
    readTransferReason := true, commands := none, configRead := true, configWrite := true }

def answersAt (now rc : Int) : Answers :=
  { now := now, connects := true, detects := true, allocates := true, keeps := [], fixed := []
    refilled := .scalar "" false, inventoryRc := 0, rc := rc }

def serialProbe (disconnect : Bool) : Probe :=
  { driver := serialDriver disconnect, context := true, answers := answersAt 100 0 }

def failingReads (count : Nat) (now : Int) : List (Request × Answers) :=
  List.replicate count (.readStatus, answersAt now (-1))

end AiriesUps.Ups
