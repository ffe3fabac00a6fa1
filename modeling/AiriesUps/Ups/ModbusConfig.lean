import AiriesUps.Ups.ModbusRegs

set_option autoImplicit false

namespace AiriesUps.Ups

open Hid (ReturnCode upsConfigValidate)
open WordStore (Span words ChangedWithin words_apart words_first words_length)

-- A unit on the bus as libmodbus shows it: its holding registers, whether a read is
-- answered, and what a write with FC06 or FC16 replies and does.
structure ModbusUnit (Device : Type) where
  holding : Device → Nat → Register
  answers : Device → Nat → Nat → Bool
  writeRegister : Device → Nat → Register → Bool × Device
  writeRegisters : Device → Nat → List Register → Bool × Device

-- One write request: modbus_write_register or modbus_write_registers.
inductive ModbusWrite where
  | one (addr : Nat) (value : Register)
  | many (addr : Nat) (values : List Register)
deriving DecidableEq, Repr

def ModbusWrite.span : ModbusWrite → Span
  | .one addr _ => { start := addr, count := 1 }
  | .many addr values => { start := addr, count := values.length }

-- The unit and the write requests it was sent.
structure ModbusLine (Device : Type) where
  device : Device
  sent : List ModbusWrite

section

variable {Device : Type}

def upsMbRead (unit : ModbusUnit Device) (line : ModbusLine Device) (addr n : Nat) : Option (List Register) :=
  if unit.answers line.device addr n then some (words (unit.holding line.device) { start := addr, count := n }) else none

def ModbusUnit.perform (unit : ModbusUnit Device) (device : Device) : ModbusWrite → Bool × Device
  | .one addr value => unit.writeRegister device addr value
  | .many addr values => unit.writeRegisters device addr values

def upsMbWrite (unit : ModbusUnit Device) (line : ModbusLine Device) (write : ModbusWrite) : Bool × ModbusLine Device :=
  let (replied, device) := unit.perform line.device write
  (replied, { device := device, sent := line.sent ++ [write] })

-- What config_read stores: raw_value, and str_buf where the caller passes one.
structure ConfigValue where
  raw : BitVec 32
  text : Option (List PackedBits.Byte)
deriving DecidableEq, Repr

def regsRead (entry : ModbusReg) : Nat := min (if entry.regCount > 0 then entry.regCount else 1) 32

def rawValue (entry : ModbusReg) (regs : List Register) : BitVec 32 :=
  if 2 ≤ regsRead entry ∧ entry.isString = false then
    ((regs.getD 0 0).setWidth 32 <<< 16) ||| (regs.getD 1 0).setWidth 32
  else (regs.getD 0 0).setWidth 32

def configRead (decode : List Register → List PackedBits.Byte → Nat → Option Decoding) (unit : ModbusUnit Device)
    (line : ModbusLine Device) (entry : ModbusReg) (strBuf : Option (List PackedBits.Byte)) : Option ConfigValue :=
  (upsMbRead unit line entry.reg.regAddr.toNat (regsRead entry)).map fun regs =>
    { raw := rawValue entry regs
      text := strBuf.bind fun buf =>
        if entry.isString then (decode regs buf buf.length).map Decoding.out else some buf }

def smtConfigRead (unit : ModbusUnit Device) (line : ModbusLine Device) (entry : ModbusReg)
    (strBuf : Option (List PackedBits.Byte)) : Option ConfigValue := configRead smtStrDecode unit line entry strBuf

def srtConfigRead (unit : ModbusUnit Device) (line : ModbusLine Device) (entry : ModbusReg)
    (strBuf : Option (List PackedBits.Byte)) : Option ConfigValue := configRead srtStrDecode unit line entry strBuf

def configWrite (unit : ModbusUnit Device) (line : ModbusLine Device) (entry : ModbusReg) (value : Register) :
    ReturnCode × ModbusLine Device :=
  let (replied, written) := upsMbWrite unit line (.one entry.reg.regAddr.toNat value)
  if replied = false then (.errIo, written)
  else
    match upsMbRead unit written entry.reg.regAddr.toNat 1 with
    | some [readback] => (if readback ≠ value then .errIo else .ok, written)
    | _ => (.errIo, written)

def smtConfigWrite (unit : ModbusUnit Device) (line : ModbusLine Device) (entry : ModbusReg) (value : Register) :
    ReturnCode × ModbusLine Device := configWrite unit line entry value

def srtConfigWrite (unit : ModbusUnit Device) (line : ModbusLine Device) (entry : ModbusReg) (value : Register) :
    ReturnCode × ModbusLine Device := configWrite unit line entry value

end

-- execute and execute_off of a ups_cmd_desc_t, as the write they make.
structure ModbusCommand where
  name : String
  execute : ModbusWrite
  executeOff : Option ModbusWrite
deriving DecidableEq, Repr

-- SMT_REG_CMD_UPS and SRT_REG_CMD_UPS, the first of the command words.
def regCmdUps : Nat := 1536

def regCmdShutdown : Nat := 1540

def regCmdBattest : Nat := 1541

def regCmdRtcal : Nat := 1542

def regCmdUi : Nat := 1543

def smtCommands : List ModbusCommand :=
  [{ name := "shutdown", execute := .one regCmdShutdown 0x0001, executeOff := none },
    { name := "battery_test", execute := .one regCmdBattest 0x0001, executeOff := none },
    { name := "runtime_cal", execute := .one regCmdRtcal 0x0001, executeOff := none },
    { name := "abort_runtime_cal", execute := .one regCmdRtcal 0x0002, executeOff := none },
    { name := "beep_short", execute := .one regCmdUi 0x0001, executeOff := none },
    { name := "beep_continuous", execute := .one regCmdUi 0x0002, executeOff := none },
    { name := "mute", execute := .one regCmdUi 0x0004, executeOff := none },
    { name := "unmute", execute := .one regCmdUi 0x0008, executeOff := none },
    { name := "clear_faults", execute := .many regCmdUps [0x0000, 0x0200], executeOff := none }]

def srtCommands : List ModbusCommand :=
  smtCommands ++
    [{ name := "bypass", execute := .many regCmdUps [0x0000, 0x0010],
       executeOff := some (.many regCmdUps [0x0000, 0x0020]) }]

-- A driver's registers: the names tell them apart, no two share a word, only a text is
-- writable and longer than a word, and none reaches the command words.
structure RegTable where
  regs : List ModbusReg
  names : (regs.map fun entry => entry.reg.name).Nodup
  apart : regs.Pairwise fun one other => one.span.Apart other.span
  filled : ∀ entry ∈ regs, 0 < entry.regCount ∧ entry.regCount ≤ 32
  single : ∀ entry ∈ regs, entry.reg.writable = true → entry.regCount = 1 ∨ entry.isString = true
  below : ∀ entry ∈ regs, entry.reg.regAddr.toNat + entry.regCount ≤ regCmdUps

def RegTable.filter (table : RegTable) (kept : ModbusReg → Bool) : RegTable where
  regs := table.regs.filter kept
  names := table.names.sublist (List.filter_sublist.map _)
  apart := table.apart.filter kept
  filled entry inside := table.filled entry (List.mem_of_mem_filter inside)
  single entry inside := table.single entry (List.mem_of_mem_filter inside)
  below entry inside := table.below entry (List.mem_of_mem_filter inside)

def smtTable : RegTable where
  regs := smtConfigRegs
  names := by decide +kernel
  apart := by decide +kernel
  filled := by decide +kernel
  single := by decide +kernel
  below := by decide +kernel

def srtTable : RegTable where
  regs := srtConfigRegs
  names := by decide +kernel
  apart := by decide +kernel
  filled := by decide +kernel
  single := by decide +kernel
  below := by decide +kernel

-- The two drivers that speak Modbus.
inductive ModbusDriver where
  | smt
  | srt
deriving DecidableEq, Repr

-- ups_get_config_regs once the driver has read register 590, for a driver that resolves.
def ModbusDriver.configRegs (driver : ModbusDriver) (relays : Option Register) : List ModbusReg :=
  match driver with
  | smt => smtResolveConfigRegs smtConfigRegs relays
  | srt => srtConfigRegs

def ModbusDriver.table (driver : ModbusDriver) (relays : Option Register) : RegTable :=
  match driver with
  | smt => smtTable.filter fun entry => entry.presentOn relays
  | srt => srtTable

def ModbusDriver.commands : ModbusDriver → List ModbusCommand
  | smt => smtCommands
  | srt => srtCommands

section

variable {Device : Type}

def ModbusDriver.configRead (driver : ModbusDriver) (unit : ModbusUnit Device) (line : ModbusLine Device)
    (entry : ModbusReg) (strBuf : Option (List PackedBits.Byte)) : Option ConfigValue :=
  match driver with
  | smt => smtConfigRead unit line entry strBuf
  | srt => srtConfigRead unit line entry strBuf

def ModbusDriver.configWrite (driver : ModbusDriver) (unit : ModbusUnit Device) (line : ModbusLine Device)
    (entry : ModbusReg) (value : Register) : ReturnCode × ModbusLine Device :=
  match driver with
  | smt => smtConfigWrite unit line entry value
  | srt => srtConfigWrite unit line entry value

def findConfigReg (regs : List ModbusReg) (name : String) : Option ModbusReg :=
  regs.find? fun entry => entry.reg.name == name

inductive NamedWrite where
  | notFound
  | readOnly
  | returned (rc : ReturnCode)
deriving DecidableEq, Repr

-- handle_config_ups_set up to the write, and ups_config_write.
def writeByName (driver : ModbusDriver) (relays : Option Register) (unit : ModbusUnit Device) (line : ModbusLine Device)
    (name : String) (value : Register) : NamedWrite × ModbusLine Device :=
  match findConfigReg (driver.configRegs relays) name with
  | none => (.notFound, line)
  | some entry =>
    if entry.reg.writable = false then (.readOnly, line)
    else if upsConfigValidate entry.reg value ≠ .ok then (.returned (upsConfigValidate entry.reg value), line)
    else
      let (rc, written) := driver.configWrite unit line entry value
      (.returned rc, written)

-- handle_config_ups_get with a name: the value, or none for 404 and 500.
def readByName (driver : ModbusDriver) (relays : Option Register) (unit : ModbusUnit Device) (line : ModbusLine Device)
    (name : String) : Option ConfigValue :=
  (findConfigReg (driver.configRegs relays) name).bind fun entry =>
    driver.configRead unit line entry (if entry.isString then some (List.replicate 64 0) else none)

def executeByName (driver : ModbusDriver) (unit : ModbusUnit Device) (line : ModbusLine Device) (name : String)
    (off : Bool) : ReturnCode × ModbusLine Device :=
  match driver.commands.find? fun command => command.name == name with
  | none => (.errNotSupported, line)
  | some command =>
    match if off then command.executeOff else some command.execute with
    | none => (.errNotSupported, line)
    | some write =>
      let (replied, written) := upsMbWrite unit line write
      (if replied then .ok else .errIo, written)

inductive ConfigRequest where
  | write (name : String) (value : Register)
  | read (name : String)
  | command (name : String) (off : Bool)
deriving DecidableEq, Repr

def serveConfig (driver : ModbusDriver) (relays : Option Register) (unit : ModbusUnit Device) (line : ModbusLine Device)
    (request : ConfigRequest) : ModbusLine Device :=
  match request with
  | .write name value => (writeByName driver relays unit line name value).2
  | .read _ => line
  | .command name off => (executeByName driver unit line name off).2

def serveAll (driver : ModbusDriver) (relays : Option Register) (unit : ModbusUnit Device) (line : ModbusLine Device)
    (requests : List ConfigRequest) : ModbusLine Device := requests.foldl (serveConfig driver relays unit) line

end

section

variable {Device : Type} (driver : ModbusDriver) (relays : Option Register) (unit : ModbusUnit Device)

theorem config_regs_table : driver.configRegs relays = (driver.table relays).regs := by
  cases driver with
  | smt => exact smt_resolved_present relays
  | srt => rfl

-- A word of a writable register.
def RegTable.Setting (table : RegTable) (address : Nat) : Prop :=
  ∃ entry ∈ table.regs, entry.reg.writable = true ∧ entry.span.start ≤ address ∧ address < entry.span.start + entry.span.count

-- No write changes a setting outside the words it writes; what else moves on the unit,
-- and whether a failed write took effect, is left open.
def KeepsSettings (table : RegTable) : Prop :=
  ∀ device write,
    ChangedWithin table.Setting write.span (unit.holding device) (unit.holding (unit.perform device write).2)

theorem setting_counted (table : RegTable) (entry : ModbusReg) (inside : entry ∈ table.regs)
    (writable : entry.reg.writable = true) : entry.span.Counted table.Setting :=
  fun _ above below => ⟨entry, inside, writable, above, below⟩

theorem found_reg (name : String) (entry : ModbusReg)
    (found : findConfigReg (driver.configRegs relays) name = some entry) :
    entry ∈ (driver.table relays).regs ∧ entry.reg.name = name := by
  rw [config_regs_table, findConfigReg] at found
  have matched := List.find?_some found
  exact ⟨List.mem_of_find?_eq_some found, eq_of_beq matched⟩

def ConfigRequest.Writes (request : ConfigRequest) (name : String) : Prop := ∃ value, request = .write name value

-- The write request an API request is answered with, whatever the unit replies.
def ConfigRequest.sends (request : ConfigRequest) : Option ModbusWrite :=
  match request with
  | .write name value =>
    (findConfigReg (driver.configRegs relays) name).bind fun entry =>
      if entry.reg.writable = true ∧ upsConfigValidate entry.reg value = .ok then some (.one entry.reg.regAddr.toNat value)
      else none
  | .read _ => none
  | .command name off =>
    (driver.commands.find? fun command => command.name == name).bind fun command =>
      if off then command.executeOff else some command.execute

theorem config_write_line (line : ModbusLine Device) (entry : ModbusReg) (value : Register) :
    (driver.configWrite unit line entry value).2 = (upsMbWrite unit line (.one entry.reg.regAddr.toNat value)).2 := by
  have same : driver.configWrite unit line entry value = configWrite unit line entry value := by
    cases driver <;> rfl
  rw [same, configWrite]
  dsimp only
  split
  · rfl
  · split <;> rfl

theorem write_by_name_line (line : ModbusLine Device) (name : String) (value : Register) :
    (writeByName driver relays unit line name value).2 =
      match (ConfigRequest.write name value).sends driver relays with
      | none => line
      | some write => (upsMbWrite unit line write).2 := by
  rw [writeByName, ConfigRequest.sends]
  cases findConfigReg (driver.configRegs relays) name with
  | none => rfl
  | some entry =>
    dsimp only [Option.bind_some]
    cases writable : entry.reg.writable with
    | false => rw [if_pos rfl, if_neg fun both => absurd both.1 (by decide)]
    | true =>
      rw [if_neg (by decide)]
      by_cases valid : upsConfigValidate entry.reg value = .ok
      · rw [if_neg (not_not.mpr valid), if_pos ⟨rfl, valid⟩]
        exact config_write_line driver unit line entry value
      · rw [if_pos valid, if_neg fun both => valid both.2]

-- Each request sends at most one write, and the line changes by nothing else.
theorem serve_line (line : ModbusLine Device) (request : ConfigRequest) :
    serveConfig driver relays unit line request =
      match request.sends driver relays with
      | none => line
      | some write => (upsMbWrite unit line write).2 := by
  cases request with
  | write name value => exact write_by_name_line driver relays unit line name value
  | read name => rfl
  | command name off =>
    rw [serveConfig, executeByName, ConfigRequest.sends]
    cases driver.commands.find? fun command => command.name == name with
    | none => rfl
    | some command =>
      dsimp only [Option.bind_some]
      cases (if off = true then command.executeOff else some command.execute) <;> rfl

theorem sent_exact (line : ModbusLine Device) (requests : List ConfigRequest) :
    (serveAll driver relays unit line requests).sent =
      line.sent ++ requests.filterMap fun request => request.sends driver relays := by
  induction requests generalizing line with
  | nil => exact (List.append_nil _).symm
  | cons request rest ih =>
    rw [serveAll, List.foldl_cons, ← serveAll, ih, serve_line, List.filterMap_cons]
    cases request.sends driver relays with
    | none => rfl
    | some write => exact List.append_assoc _ _ _

theorem commands_above :
    ∀ command ∈ driver.commands, regCmdUps ≤ command.execute.span.start ∧
      ∀ write ∈ command.executeOff, regCmdUps ≤ write.span.start := by
  cases driver <;> decide

-- What is sent for a request that does not write the register stays off its words.
theorem sends_apart (request : ConfigRequest) (write : ModbusWrite) (sent : request.sends driver relays = some write)
    (entry : ModbusReg) (inside : entry ∈ (driver.table relays).regs) (other : ¬request.Writes entry.reg.name) :
    write.span.Apart entry.span := by
  have below := (driver.table relays).below entry inside
  cases request with
  | write name value =>
    obtain ⟨target, found, passed⟩ := Option.bind_eq_some_iff.mp sent
    split at passed
    · cases passed
      obtain ⟨listed, named⟩ := found_reg driver relays name target found
      have different : target ≠ entry := by
        rintro rfl
        exact other ⟨value, by rw [named]⟩
      have apart := WordStore.apart_of_pairwise ModbusReg.span _ (driver.table relays).apart target entry listed inside different
      have filled := ((driver.table relays).filled target listed).1
      rcases apart with before | after
      · exact Or.inl (Nat.le_trans (Nat.add_le_add_left filled _) before)
      · exact Or.inr after
    · cases passed
  | read name => cases sent
  | command name off =>
    obtain ⟨command, found, chosen⟩ := Option.bind_eq_some_iff.mp sent
    obtain ⟨execute, executeOff⟩ := commands_above driver command (List.mem_of_find?_eq_some found)
    refine Or.inr (Nat.le_trans below ?_)
    cases off with
    | false =>
      cases chosen
      exact execute
    | true => exact executeOff write chosen

section

variable (keeps : KeepsSettings unit (driver.table relays))

include keeps

-- One request leaves a setting it does not write as it is.
theorem serve_keeps (line : ModbusLine Device) (request : ConfigRequest) (entry : ModbusReg)
    (inside : entry ∈ (driver.table relays).regs) (writable : entry.reg.writable = true)
    (other : ¬request.Writes entry.reg.name) :
    words (unit.holding (serveConfig driver relays unit line request).device) entry.span =
      words (unit.holding line.device) entry.span := by
  rw [serve_line]
  cases sent : request.sends driver relays with
  | none => rfl
  | some write =>
    exact words_apart _ _ _ _ _ (keeps line.device write) (setting_counted _ entry inside writable)
      (sends_apart driver relays request write sent entry inside other)

-- So does a run without a write to it.
theorem serve_all_keeps (line : ModbusLine Device) (requests : List ConfigRequest) (entry : ModbusReg)
    (inside : entry ∈ (driver.table relays).regs) (writable : entry.reg.writable = true)
    (others : ∀ request ∈ requests, ¬request.Writes entry.reg.name) :
    words (unit.holding (serveAll driver relays unit line requests).device) entry.span =
      words (unit.holding line.device) entry.span := by
  induction requests generalizing line with
  | nil => rfl
  | cons request rest ih =>
    have first := serve_keeps driver relays unit keeps line request entry inside writable (others request List.mem_cons_self)
    have later := ih (serveConfig driver relays unit line request) fun next among => others next (List.mem_cons_of_mem _ among)
    exact later.trans first

omit keeps in
theorem config_write_ok (line : ModbusLine Device) (entry : ModbusReg) (value : Register)
    (ok : (driver.configWrite unit line entry value).1 = .ok) :
    unit.holding (upsMbWrite unit line (.one entry.reg.regAddr.toNat value)).2.device entry.reg.regAddr.toNat = value := by
  have same : driver.configWrite unit line entry value = configWrite unit line entry value := by
    cases driver <;> rfl
  rw [same, configWrite] at ok
  dsimp only at ok
  split at ok
  · cases ok
  split at ok
  · rename_i readback answered
    rw [upsMbRead] at answered
    split at answered
    · have held : [unit.holding (upsMbWrite unit line (.one entry.reg.regAddr.toNat value)).2.device
          entry.reg.regAddr.toNat] = [readback] := Option.some.inj answered
      rw [List.head_eq_of_cons_eq held]
      by_cases equal : readback = value
      · exact equal
      · rw [if_pos equal] at ok
        cases ok
    · cases answered
  · cases ok

omit keeps in
-- A write that is accepted was read back from the word it went to.
theorem accepted_write (line : ModbusLine Device) (name : String) (value : Register)
    (accepted : (writeByName driver relays unit line name value).1 = .returned .ok) :
    ∃ entry, findConfigReg (driver.configRegs relays) name = some entry ∧ entry.reg.writable = true ∧
      (ConfigRequest.write name value).sends driver relays = some (.one entry.reg.regAddr.toNat value) ∧
      unit.holding (upsMbWrite unit line (.one entry.reg.regAddr.toNat value)).2.device entry.reg.regAddr.toNat =
        value := by
  rw [writeByName] at accepted
  cases found : findConfigReg (driver.configRegs relays) name with
  | none =>
    rw [found] at accepted
    cases accepted
  | some entry =>
    rw [found] at accepted
    dsimp only at accepted
    cases writable : entry.reg.writable with
    | false =>
      rw [if_pos writable] at accepted
      cases accepted
    | true =>
      rw [if_neg (by rw [writable]; decide)] at accepted
      by_cases valid : upsConfigValidate entry.reg value = .ok
      · rw [if_neg (not_not.mpr valid)] at accepted
        refine ⟨entry, rfl, writable, ?_, config_write_ok driver unit line entry value (NamedWrite.returned.inj accepted)⟩
        rw [ConfigRequest.sends, found, Option.bind_some, if_pos ⟨writable, valid⟩]
      · rw [if_pos valid] at accepted
        exact absurd (NamedWrite.returned.inj accepted) valid

omit keeps in
theorem raw_of_setting (table : RegTable) (line : ModbusLine Device) (entry : ModbusReg) (inside : entry ∈ table.regs)
    (writable : entry.reg.writable = true) (strBuf : Option (List PackedBits.Byte)) (read : ConfigValue)
    (answered : driver.configRead unit line entry strBuf = some read) :
    read.raw = (unit.holding line.device entry.reg.regAddr.toNat).setWidth 32 := by
  have same : ∃ decode, driver.configRead unit line entry strBuf = configRead decode unit line entry strBuf := by
    cases driver
    · exact ⟨smtStrDecode, rfl⟩
    · exact ⟨srtStrDecode, rfl⟩
  obtain ⟨decode, same⟩ := same
  rw [same, configRead, upsMbRead] at answered
  have filled := (table.filled entry inside).1
  have some_ : ∃ more, regsRead entry = more + 1 := ⟨regsRead entry - 1, by rw [regsRead, if_pos filled]; omega⟩
  have plain : ¬(2 ≤ regsRead entry ∧ entry.isString = false) := by
    rintro ⟨long, number⟩
    rcases table.single entry inside writable with one | text
    · rw [regsRead, if_pos filled, one] at long
      exact absurd long (by decide)
    · rw [number] at text
      cases text
  cases reply : unit.answers line.device entry.reg.regAddr.toNat (regsRead entry) with
  | false =>
    rw [reply, if_neg (by decide)] at answered
    cases answered
  | true =>
    rw [reply, if_pos rfl] at answered
    rw [← Option.some.inj answered]
    dsimp only
    rw [rawValue, if_neg plain]
    obtain ⟨more, count⟩ := some_
    rw [count, words, List.range_succ_eq_map]
    rfl

-- The last accepted write of a setting stays: however many other settings are written,
-- refused or lost and whatever commands are run after it, the register holds the value
-- and is read back as it. Of a longer text only the first word was written.
theorem last_write_kept (line : ModbusLine Device) (before after : List ConfigRequest) (name : String) (value : Register)
    (accepted : (writeByName driver relays unit (serveAll driver relays unit line before) name value).1 = .returned .ok)
    (later : ∀ request ∈ after, ¬request.Writes name) :
    ∃ entry, findConfigReg (driver.configRegs relays) name = some entry ∧
      words (unit.holding (serveAll driver relays unit line (before ++ .write name value :: after)).device) entry.span =
        value :: (words (unit.holding (serveAll driver relays unit line before).device) entry.span).tail ∧
      ∀ read,
        readByName driver relays unit (serveAll driver relays unit line (before ++ .write name value :: after)) name =
          some read → read.raw = value.setWidth 32 := by
  obtain ⟨entry, found, writable, sent, held⟩ := accepted_write driver relays unit _ name value accepted
  obtain ⟨inside, named⟩ := found_reg driver relays name entry found
  have filled := (driver.table relays).filled entry inside
  have split_ : serveAll driver relays unit line (before ++ .write name value :: after) =
      serveAll driver relays unit (upsMbWrite unit (serveAll driver relays unit line before)
        (.one entry.reg.regAddr.toNat value)).2 after := by
    rw [serveAll, List.foldl_append, List.foldl_cons, ← serveAll, ← serveAll, serve_line, sent]
  have kept := serve_all_keeps driver relays unit keeps (upsMbWrite unit (serveAll driver relays unit line before)
    (.one entry.reg.regAddr.toNat value)).2 after entry inside writable (by rwa [named])
  have stored := words_first _ entry.span _ _
    (keeps (serveAll driver relays unit line before).device (.one entry.reg.regAddr.toNat value))
    (setting_counted _ entry inside writable) filled.1
  have block : words (unit.holding (serveAll driver relays unit line (before ++ .write name value :: after)).device)
      entry.span = value :: (words (unit.holding (serveAll driver relays unit line before).device) entry.span).tail := by
    rw [split_, kept]
    exact stored.trans (congrArg (· :: _) held)
  refine ⟨entry, found, block, fun read answered => ?_⟩
  rw [readByName, found, Option.bind_some] at answered
  rw [raw_of_setting driver unit (driver.table relays) _ entry inside writable _ read answered]
  congr 1
  have first := congrArg List.head? block
  rw [words, List.head?_map] at first
  obtain ⟨more, count⟩ := Nat.exists_eq_add_of_lt filled.1
  have positive : entry.span.count = more + 1 := by
    rw [← Nat.zero_add more]
    exact count
  rw [positive, List.range_succ_eq_map] at first
  exact Option.some.inj first

end

end

-- A unit that answers every request and does what it is told.
def storingUnit : ModbusUnit (Nat → Register) where
  holding device := device
  answers _ _ _ := true
  writeRegister device addr value := (true, Function.update device addr value)
  writeRegisters device addr values :=
    (true, fun address => if address < addr then device address else (values[address - addr]?).getD (device address))

theorem storing_keeps (table : RegTable) : KeepsSettings storingUnit table := by
  intro device write address _ outside
  cases write with
  | one addr value =>
    have other : address ≠ addr := by
      rintro rfl
      rcases outside with below | above
      · exact Nat.lt_irrefl _ below
      · exact absurd above (Nat.not_succ_le_self _)
    exact Function.update_of_ne other _ _
  | many addr values =>
    change (if address < addr then device address else (values[address - addr]?).getD (device address)) = device address
    rcases outside with below | above
    · exact if_pos below
    · have past : values.length ≤ address - addr := Nat.le_sub_of_add_le (by rwa [Nat.add_comm])
      rw [List.getElem?_eq_none past, Option.getD_none, ite_self]

theorem battery_date_kept :
    ∃ entry, findConfigReg (ModbusDriver.srt.configRegs none) "battery_date" = some entry ∧
      words (storingUnit.holding (serveAll .srt none storingUnit { device := fun _ => 0, sent := [] }
        ([.command "mute" false] ++ .write "battery_date" 9000 :: [.write "freq_tolerance" 16, .command "bypass" true])).device)
        entry.span = [9000] ∧
      ∀ read, readByName .srt none storingUnit (serveAll .srt none storingUnit { device := fun _ => 0, sent := [] }
        ([.command "mute" false] ++ .write "battery_date" 9000 :: [.write "freq_tolerance" 16, .command "bypass" true]))
          "battery_date" = some read → read.raw = 9000 := by
  obtain ⟨entry, found, block, reads⟩ := last_write_kept .srt none storingUnit (storing_keeps _)
    { device := fun _ => 0, sent := [] } [.command "mute" false] [.write "freq_tolerance" 16, .command "bypass" true]
    "battery_date" 9000 (by decide +kernel) (by
      intro request among written
      obtain ⟨value, rfl⟩ := written
      revert among
      simp)
  have listed : findConfigReg (ModbusDriver.srt.configRegs none) "battery_date" =
      some (ModbusReg.setting "battery_date" 595 (.scalar 0 65535)) := by decide +kernel
  cases Option.some.inj (found.symm.trans listed)
  exact ⟨_, found, block, reads⟩

end AiriesUps.Ups
