import AiriesUps.Shutdown.DryRun
import AiriesUps.Shutdown.SshClient
import AiriesUps.Ups.WriteGate

set_option autoImplicit false

namespace AiriesUps.Shutdown

open Ups (Config Handle CmdDesc upsFindCommand upsFindCommandFlag upsCmdExecute cmdIsShutdown upsErrNotSupported)
open Hid (ConfigReg)
open ShellWords (Word)

-- The real run's phase 2 on the handle. The two refusals that never get as far as
-- the handle have the row's ok for a code.
def upsActionOn (config : Config) (ups : Handle) (answers : Ups.Answers) : Handle × Int :=
  match upsMode config with
  | "command" =>
    match upsFindCommandFlag ups cmdIsShutdown with
    | some command => upsCmdExecute ups command.name false answers
    | none => (ups, 1)
  | "register" =>
    if upsRegister config = "" then (ups, 1)
    else Ups.phase2RegisterWrite ups (upsRegister config) (BitVec.ofNat 16 (registerValue config)) .none answers
  | _ => (ups, 0)

-- A run from the state of this handle: what its tables say, and what its calls return.
def Environment.onHandle (env : Environment) (config : Config) (ups : Handle) (answers : Ups.Answers) : Environment :=
  { env with
    shutdownCommand := (upsFindCommandFlag ups cmdIsShutdown).map CmdDesc.name
    commandRc := (upsActionOn config ups answers).2
    register := fun name => (Ups.findDescriptor ups name).map ConfigReg.writable
    writeRc := (upsActionOn config ups answers).2 }

def probeOutcome (client : SshClient) (files : Word → Option String) (target : Target) (method : SshMethod) : Outcome :=
  client.runShell files (method.probe.built "" target)

-- What run_shell returns for the line of test_target_connectivity; files is what the
-- file system holds.
def probeRc (client : SshClient) (files : Word → Option String) (target : Target) : Int :=
  match sshMethod target with
  | some method => (probeOutcome client files target method).status
  | none => 0

-- The dry run reports the UPS step, or the target, as ok.
def UpsStepOk (config : Config) (env : Environment) : Prop :=
  ∃ row, .row row ∈ upsAction true config env ∧ row.ok = 0

def TargetOk (client : SshClient) (files : Word → Option String) (group : Group) (target : Target) : Prop :=
  ∃ row, .row row ∈ validateTarget group target (probeRc client files target) ∧ row.ok = 0

-- The real run's UPS step gets to the driver: to the handler of a command, or to
-- config_write with the register of the configured name and the configured value.
def UpsStepReached (config : Config) (env : Environment) (ups : Handle) (transport : Nat) (answers : Ups.Answers) : Prop :=
  match upsMode config with
  | "command" =>
    ∃ name, .upsCommand name answers.rc ∈ upsAction false config env ∧
      (upsActionOn config ups answers).1.calls = ups.calls ++ [.command transport name false answers.rc]
  | "register" =>
    ∃ reg value, reg.name = upsRegister config ∧ (value.toNat : Int) = config.getInt "shutdown.ups_value" 0 ∧
      .upsWrite reg.name value.toNat answers.rc ∈ upsAction false config env ∧
      (upsActionOn config ups answers).1.calls = ups.calls ++ [.configWrite transport reg value answers.rc]
  | _ => True

-- The real run runs the target's action. That of an SSH target gets to ssh as it was
-- written, and gets in as its probe did.
def TargetReached (client : SshClient) (files : Word → Option String) (id : TargetId) (target : Target) (cycle : Cycle) :
    Prop :=
  ∃ command, .action id command cycle.actionRc ∈ (fireTargetAction id target cycle).1 ∧
    ∀ method, sshMethod target = some method →
      method.Delivered (cycle.keyPath.getD "") target ∧
        ∃ entry, (probeOutcome client files target method).login = some entry ∧
          (client.runShell (actionFiles files target (cycle.keyPath.getD "") method) command).login = some entry

structure Honest (config : Config) (env : Environment) (ups : Handle) (transport : Nat) (answers : Ups.Answers)
    (client : SshClient) (files : Word → Option String) (group : Group) (id : TargetId) (target : Target) (cycle : Cycle) :
    Prop where
  ups : UpsStepOk config (env.onHandle config ups answers) →
    UpsStepReached config (env.onHandle config ups answers) ups transport answers
  target : TargetOk client files group target → TargetReached client files id target cycle

-- The first command of the shutdown command's name has a handler; or the register
-- exists, is writable, and takes the configured value, which fits its 16 bits.
def UpsStepReady (config : Config) (ups : Handle) : Prop :=
  match upsMode config with
  | "command" =>
    ∀ shutdown, upsFindCommandFlag ups cmdIsShutdown = some shutdown →
      ∃ command, upsFindCommand ups shutdown.name = some command ∧ command.execute = true
  | "register" =>
    upsRegister config = "" ∨
      ∃ reg, Ups.findDescriptor ups (upsRegister config) = some reg ∧ reg.writable = true ∧ ups.driver.configWrite = true ∧
        Hid.upsConfigValidate reg (BitVec.ofNat 16 (registerValue config)) = .ok ∧
        0 ≤ config.getInt "shutdown.ups_value" 0 ∧ config.getInt "shutdown.ups_value" 0 < 65536
  | _ => True

-- There is a place to write the key to, the line of the action is plain and without
-- words that begin like an option, and what let the probe in is the first of what that
-- line offers that the server lets in.
structure ActionReady (client : SshClient) (files : Word → Option String) (target : Target) (cycle : Cycle)
    (method : SshMethod) : Prop where
  written : method = .key → cycle.keyPath.isSome = true
  plain : method.action.Plain (cycle.keyPath.getD "") target
  address : optionLike (address target) = false
  command : optionLike (firstWord target.command.toList) = false
  entered : ∃ entry, (probeOutcome client files target method).login = some entry ∧ client.admitted target method = some entry

def TargetReady (client : SshClient) (files : Word → Option String) (target : Target) (cycle : Cycle) : Prop :=
  ∀ method, sshMethod target = some method → (probeOutcome client files target method).status = 0 →
    ActionReady client files target cycle method

theorem dispatch_up (ups : Handle) (transport : Nat) (present : Bool) (call : Nat → Int → Ups.Call) (answers : Ups.Answers)
    (up : ups.transport = some transport) :
    Ups.dispatch ups present call false answers =
      if present then (ups.record (call transport answers.rc), answers.rc) else (ups, upsErrNotSupported) := by
  cases present with
  | false => rfl
  | true =>
    have ensured : Ups.upsEnsureTransport ups answers = ups := by simp [Ups.upsEnsureTransport, up]
    simp [Ups.dispatch, ensured, up]

theorem find_by_own_name (ups : Handle) (flag : BitVec 32) (shutdown : CmdDesc)
    (found : upsFindCommandFlag ups flag = some shutdown) :
    ∃ command, upsFindCommand ups shutdown.name = some command ∧ command.name = shutdown.name := by
  have member : shutdown ∈ Ups.upsGetCommands ups := List.mem_of_find?_eq_some found
  have some : (upsFindCommand ups shutdown.name).isSome = true :=
    List.find?_isSome.mpr ⟨shutdown, member, beq_self_eq_true shutdown.name⟩
  obtain ⟨command, byName⟩ := Option.isSome_iff_exists.mp some
  refine ⟨command, byName, ?_⟩
  have named := List.find?_some byName
  exact beq_iff_eq.mp named

theorem calls_grow (ups : Handle) (call : Ups.Call) : ups.calls ≠ ups.calls ++ [call] := by
  intro same
  exact absurd (List.append_right_eq_self.mp same.symm) (List.cons_ne_nil _ _)

theorem command_step_iff (config : Config) (env : Environment) (ups : Handle) (transport : Nat) (answers : Ups.Answers)
    (up : ups.transport = some transport) (mode : upsMode config = "command") :
    (UpsStepOk config (env.onHandle config ups answers) →
      UpsStepReached config (env.onHandle config ups answers) ups transport answers) ↔ UpsStepReady config ups := by
  simp only [UpsStepOk, UpsStepReached, UpsStepReady, upsAction, upsCommandAction, upsActionOn, Environment.onHandle, mode]
  cases found : upsFindCommandFlag ups cmdIsShutdown with
  | none => simp [upsRow, resultRowFill]
  | some shutdown =>
    obtain ⟨command, byName, sameName⟩ := find_by_own_name ups cmdIsShutdown shutdown found
    have executed : upsCmdExecute ups shutdown.name false answers =
        if command.execute then (ups.record (.command transport shutdown.name false answers.rc), answers.rc)
        else (ups, upsErrNotSupported) := by
      simp only [upsCmdExecute, byName]
      rw [← sameName]
      exact dispatch_up ups transport command.execute _ answers up
    cases handler : command.execute with
    | false => simp [upsRow, resultRowFill, executed, handler, byName]
    | true => simp [upsRow, resultRowFill, executed, handler, byName, Handle.record]

theorem register_value_range (config : Config) : registerValue config < 65536 := by
  rw [registerValue]
  omega

theorem register_value_exact (config : Config) :
    ((BitVec.ofNat 16 (registerValue config)).toNat : Int) = config.getInt "shutdown.ups_value" 0 ↔
      0 ≤ config.getInt "shutdown.ups_value" 0 ∧ config.getInt "shutdown.ups_value" 0 < 65536 := by
  have fits := register_value_range config
  rw [BitVec.toNat_ofNat, Nat.mod_eq_of_lt fits, registerValue]
  omega

-- A write that is stopped before the driver leaves no call behind.
theorem register_write_up (ups : Handle) (transport : Nat) (name : String) (reg : ConfigReg) (value : BitVec 16)
    (answers : Ups.Answers) (up : ups.transport = some transport) (found : Ups.findDescriptor ups name = some reg) :
    ((reg.writable = true ∧ ups.driver.configWrite = true ∧ Hid.upsConfigValidate reg value = .ok) ∧
        Ups.phase2RegisterWrite ups name value .none answers =
          (ups.record (.configWrite transport reg value answers.rc), answers.rc)) ∨
      (¬(reg.writable = true ∧ ups.driver.configWrite = true ∧ Hid.upsConfigValidate reg value = .ok) ∧
        (Ups.phase2RegisterWrite ups name value .none answers).1 = ups) := by
  obtain ⟨pointer, points⟩ := Ups.find_pointer ups name reg found
  have pointed : ∀ refilled, ups.deref refilled pointer = reg := fun refilled =>
    Option.some.inj ((Ups.find_points ups name pointer refilled points).symm.trans found)
  have ensured : Ups.upsEnsureTransport ups answers = ups := by simp [Ups.upsEnsureTransport, up]
  have alone : Ups.Meanwhile.none.locked ups = ups ∧ Ups.Meanwhile.none.checked ups = ups := ⟨rfl, rfl⟩
  rw [Ups.phase2RegisterWrite, Ups.submitFound, points]
  simp only [alone, pointed, Ups.configWriteSeen]
  rw [← Ups.refusal_none]
  cases refused : Ups.configWriteRefusal ups.driver reg value with
  | some code => cases reg.writable <;> simp
  | none =>
    have writable := ((Ups.refusal_none _ _ _).mp refused).1
    have given : Handle.passed ups pointer answers = reg := by rw [Handle.passed, ensured, pointed]
    simpa [writable, given] using dispatch_up ups transport true _ answers up

theorem register_step_iff (config : Config) (env : Environment) (ups : Handle) (transport : Nat) (answers : Ups.Answers)
    (up : ups.transport = some transport) (mode : upsMode config = "register") :
    (UpsStepOk config (env.onHandle config ups answers) →
      UpsStepReached config (env.onHandle config ups answers) ups transport answers) ↔ UpsStepReady config ups := by
  simp only [UpsStepOk, UpsStepReached, UpsStepReady, upsAction, upsRegisterAction, upsActionOn, Environment.onHandle, mode]
  by_cases empty : upsRegister config = ""
  · simp [empty, upsRow, resultRowFill]
  · have reported : ∃ row, Effect.row row ∈ [upsRow 0 ""] ∧ row.ok = 0 := ⟨_, List.mem_singleton.mpr rfl, rfl⟩
    simp only [empty, if_false, false_or, if_true, reported, forall_const, Bool.false_eq_true]
    cases found : Ups.findDescriptor ups (upsRegister config) with
    | none => simp [upsRow]
    | some reg =>
      have named : reg.name = upsRegister config := by
        have matched := List.find?_some found
        exact beq_iff_eq.mp matched
      obtain ⟨⟨writable, driver, valid⟩, written⟩ | ⟨stopped, unchanged⟩ :=
        register_write_up ups transport _ reg (BitVec.ofNat 16 (registerValue config)) answers up found
      · simp only [Option.map_some, writable, written, Handle.record, List.append_cancel_left_eq, List.cons.injEq, and_true]
        constructor
        · rintro ⟨other, value, _, configured, _, same⟩
          cases same
          exact ⟨reg, rfl, writable, driver, valid, (register_value_exact config).mp configured⟩
        · rintro ⟨_, _, _, _, _, range⟩
          refine ⟨reg, _, named, (register_value_exact config).mpr range, ?_, rfl⟩
          rw [BitVec.toNat_ofNat, Nat.mod_eq_of_lt (register_value_range config), named]
          exact List.mem_cons_self
      · apply iff_of_false
        · rintro ⟨other, value, _, _, _, made⟩
          rw [unchanged] at made
          exact calls_grow ups _ made
        · rintro ⟨other, same, writable, driver, valid, _⟩
          cases same
          exact stopped ⟨writable, driver, valid⟩

theorem ups_step_iff (config : Config) (env : Environment) (ups : Handle) (transport : Nat) (answers : Ups.Answers)
    (up : ups.transport = some transport) :
    (UpsStepOk config (env.onHandle config ups answers) →
      UpsStepReached config (env.onHandle config ups answers) ups transport answers) ↔ UpsStepReady config ups := by
  by_cases command : upsMode config = "command"
  · exact command_step_iff config env ups transport answers up command
  · by_cases register : upsMode config = "register"
    · exact register_step_iff config env ups transport answers up register
    · simp [UpsStepReached, UpsStepReady]

theorem delivered_iff (keyPath : String) (target : Target) (method : SshMethod) :
    method.Delivered keyPath target ↔ method.action.Plain keyPath target ∧ optionLike (address target) = false ∧
      optionLike (firstWord target.command.toList) = false := by
  constructor
  · intro delivered
    exact ⟨parsed_plain keyPath target method.action delivered.parsed, delivered.address, delivered.command⟩
  · rintro ⟨plain, address, command⟩
    exact ⟨plain_parsed keyPath target method.action plain, address, command⟩

theorem ssh_method_cases (target : Target) :
    (target.method = "ssh_password" ∧ sshMethod target = some .password) ∨
      (target.method = "ssh_key" ∧ sshMethod target = some .key) ∨
      (target.method ≠ "ssh_password" ∧ target.method ≠ "ssh_key" ∧ sshMethod target = none) := by
  rw [sshMethod]
  split
  · exact Or.inl ⟨‹_›, rfl⟩
  · exact Or.inr (Or.inl ⟨‹_›, rfl⟩)
  · exact Or.inr (Or.inr ⟨‹_›, ‹_›, rfl⟩)

-- The rc of the row is that of the line the probe runs.
theorem target_ok_iff (client : SshClient) (files : Word → Option String) (group : Group) (target : Target) :
    TargetOk client files group target ↔
      target.method = "command" ∨
        ∃ method, sshMethod target = some method ∧ (probeOutcome client files target method).status = 0 := by
  have row : TargetOk client files group target ↔ (testTargetConnectivity target (probeRc client files target)).2 = 0 := by
    rw [TargetOk, validateTarget]
    have quiet : ∀ entry, Effect.row entry ∉ (testTargetConnectivity target (probeRc client files target)).1 := by
      intro entry
      rw [testTargetConnectivity]
      split <;> simp
    split
    · rename_i passed
      simp [passed, quiet, resultRowFill]
    · rename_i failed
      simp [failed, quiet, resultRowFill]
  rw [row]
  rcases ssh_method_cases target with ⟨method, ssh⟩ | ⟨method, ssh⟩ | ⟨_, _, ssh⟩
  · simp [testTargetConnectivity, probeRc, method, ssh, shell_result_zero]
  · simp [testTargetConnectivity, probeRc, method, ssh, shell_result_zero]
  · by_cases command : target.method = "command"
    · simp [testTargetConnectivity, command]
    · simp [testTargetConnectivity, command, ssh]

-- The action of an SSH target is its line, once there is a place for the key.
theorem ssh_action_iff (id : TargetId) (target : Target) (cycle : Cycle) (method : SshMethod) (command : String)
    (ssh : sshMethod target = some method) :
    .action id command cycle.actionRc ∈ (fireTargetAction id target cycle).1 ↔
      (method = .key → cycle.keyPath.isSome = true) ∧ command = method.action.built (cycle.keyPath.getD "") target := by
  rcases ssh_method_cases target with ⟨named, same⟩ | ⟨named, same⟩ | ⟨_, _, same⟩
  · cases ssh.symm.trans same
    simp [fireTargetAction, named, SshMethod.action, SshLine.built]
  · cases ssh.symm.trans same
    cases made : cycle.keyPath <;> simp [fireTargetAction, named, made, SshMethod.action, SshLine.built]
  · cases ssh.symm.trans same

theorem command_action (id : TargetId) (target : Target) (cycle : Cycle) (method : target.method = "command") :
    .action id target.command cycle.actionRc ∈ (fireTargetAction id target cycle).1 := by
  simp [fireTargetAction, method]

theorem ssh_reached_iff (client : SshClient) (files : Word → Option String) (id : TargetId) (target : Target)
    (cycle : Cycle) (method : SshMethod) (ssh : sshMethod target = some method) :
    TargetReached client files id target cycle ↔ ActionReady client files target cycle method := by
  constructor
  · rintro ⟨command, fired, reached⟩
    obtain ⟨written, rfl⟩ := (ssh_action_iff id target cycle method command ssh).mp fired
    obtain ⟨delivered, entry, probed, acted⟩ := reached method ssh
    obtain ⟨plain, noOption, noOptions⟩ := (delivered_iff _ target method).mp delivered
    rw [delivered_login client files _ target method delivered] at acted
    exact ⟨written, plain, noOption, noOptions, entry, probed, acted⟩
  · intro ready
    have delivered := (delivered_iff _ target method).mpr ⟨ready.plain, ready.address, ready.command⟩
    obtain ⟨entry, probed, admitted⟩ := ready.entered
    refine ⟨_, (ssh_action_iff id target cycle method _ ssh).mpr ⟨ready.written, rfl⟩, fun other same => ?_⟩
    cases ssh.symm.trans same
    refine ⟨delivered, entry, probed, ?_⟩
    rw [delivered_login client files _ target method delivered, admitted]

theorem target_step_iff (client : SshClient) (files : Word → Option String) (group : Group) (id : TargetId)
    (target : Target) (cycle : Cycle) :
    (TargetOk client files group target → TargetReached client files id target cycle) ↔
      TargetReady client files target cycle := by
  rw [target_ok_iff]
  constructor
  · intro honest method ssh passed
    exact (ssh_reached_iff client files id target cycle method ssh).mp (honest (Or.inr ⟨method, ssh, passed⟩))
  · rintro ready (command | ⟨method, ssh, passed⟩)
    · refine ⟨target.command, command_action id target cycle command, fun method ssh => ?_⟩
      rw [sshMethod, command] at ssh
      cases ssh
    · exact (ssh_reached_iff client files id target cycle method ssh).mpr (ready method ssh passed)

-- The quoted word and the address of words that spell the line.
def SshLine.reads (line : SshLine) (words : List Word) : Option (Word × Word) :=
  if words.take 2 = line.program ∧ (words.drop 3).take line.options.length = line.options then
    some (words.getD 2 [], words.getD (3 + line.options.length) [])
  else none

theorem reads_vector (line : SshLine) (quoted address : Word) (words : List Word) :
    line.reads (line.vector quoted address words) = some (quoted, address) := by
  cases line <;> exact if_pos ⟨rfl, rfl⟩

theorem key_not_password (quoted address : Word) (words : List Word) :
    SshLine.passwordAction.reads (SshLine.keyAction.vector quoted address words) = none := by
  have different : SshLine.keyAction.program ≠ SshLine.passwordAction.program := by decide
  exact if_neg fun same => different same.1

-- A client without keys of its configuration; unpinned is what other words do, and compound
-- what a line does that is more than a simple command.
def plainClient (accepts : Login → Bool) (unpinned : List Word → Outcome) (compound : List Char → Outcome) : SshClient where
  typed := id
  before := fun _ _ => []
  after := fun _ _ => []
  accepts := fun _ => accepts
  run := fun files words =>
    match SshLine.passwordAction.reads words with
    | some (password, _) => { status := 0, login := (passwordOffers (String.ofList password)).find? accepts }
    | none =>
      match (SshLine.keyAction.reads words).bind fun entry => files entry.1 with
      | some key => { status := 0, login := (keyOffers [] key []).find? accepts }
      | none => unpinned words
  other := fun _ => compound
  passwordPinned := by
    intro files password address words _ _
    simp only [reads_vector, String.ofList_toList, id_eq]
  keyPinned := by
    intro files path key address words holds _ _
    simp only [key_not_password, reads_vector, Option.bind_some, holds]

def serverTarget : Target :=
  { rackTarget with method := "ssh_password", host := "nas", username := "admin", credential := "secret" }

-- A server that knows one password; and one that knows the key the client has of its own,
-- which an open line offers and a pinned one does not.
def passwordClient : SshClient :=
  plainClient (fun entry => entry == ⟨.password, "secret"⟩)
    (fun words =>
      if (SshLine.passwordProbe.reads words).map Prod.fst = some "secret".toList then
        { status := 0, login := some ⟨.password, "secret"⟩ }
      else { status := 5, login := none })
    fun _ => { status := 2, login := none }

def ownKeyClient : SshClient :=
  plainClient (fun entry => entry == ⟨.publickey, "own key"⟩) (fun _ => { status := 0, login := some ⟨.publickey, "own key"⟩ })
    fun _ => { status := 0, login := none }

def shutdownProbe : Ups.Probe :=
  { driver := { Ups.serialDriver true with
      commands := some [{ name := "shutdown", flags := cmdIsShutdown, execute := true, executeOff := false }] }
    context := true, answers := Ups.answersAt 100 0 }

def registerConfig : Config :=
  { str := fun key =>
      if key = "shutdown.ups_mode" then some "register"
      else if key = "shutdown.ups_register" then some "ups_delay" else none
    int := fun key => if key = "shutdown.ups_value" then some 42 else none }

end AiriesUps.Shutdown
