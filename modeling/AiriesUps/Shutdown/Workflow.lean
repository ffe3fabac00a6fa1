import AiriesUps.Ups.Data
import AiriesUps.Shutdown.GroupOrphans

set_option autoImplicit false

namespace AiriesUps.Shutdown

open Ups (Config)

-- The two tables of the workflow; id is the primary key of shutdown_groups.
structure Tables where
  groups : List Group
  targets : List Target
  unique : (groups.map Group.id).Nodup

-- What the queries return: the rows they select, in an order that respects their
-- ORDER BY. Rows with equal keys come in any order.
structure Answers (tables : Tables) where
  groups : List Group
  targets : Nat → List Target
  groupsSelected : groups.Perm tables.groups
  groupsOrdered : groups.Pairwise fun earlier later => earlier.executionOrder ≤ later.executionOrder
  targetsSelected : ∀ id, (targets id).Perm (tables.targets.filter fun target => target.groupId = id)
  targetsOrdered : ∀ id, (targets id).Pairwise fun earlier later => earlier.orderInGroup ≤ later.orderInGroup

-- What the outside does in one workflow. shutdownCommand is the name of the
-- descriptor ups_find_command_flag finds, register the writable flag of the one
-- ups_find_config_reg finds; upsError is the thread's error text after a failed call.
structure Environment where
  runs : Nat → GroupRun
  probes : Nat → Nat → Int
  shutdownCommand : Option String
  commandRc : Int
  register : String → Option Bool
  writeRc : Int
  upsError : String
  dockerBuild : Bool
  canPoweroffRc : Int
  poweroffRc : Int
  elapsed : Int

def resultOf (trace : List TraceEvent) : Result := (rowsOf trace).foldl resultAppendTo Result.empty

def validateTarget (group : Group) (target : Target) (rc : Int) : List Effect :=
  let probe := testTargetConnectivity target rc
  if probe.2 = 0 then
    probe.1 ++ [.report group.name target.name "validated",
      .row (resultRowFill "phase1" (stepTarget group target.name) 0 "")]
  else
    let err := snprintf 256 (target.method ++ " probe to " ++ target.username ++ "@" ++ target.host ++ " failed")
    probe.1 ++ [.report group.name target.name "validation FAILED",
      .row (resultRowFill "phase1" (stepTarget group target.name) 1 err)]

def validateGroup (group : Group) (probes : Nat → Int) (targets : List Target) : List TraceEvent :=
  targets.zipIdx.flatMap fun entry => (validateTarget group entry.1 (probes entry.2)).map .worker

def executeGroup (dryRun : Bool) (env : Environment) (group : Group) (position : Nat) (targets : List Target) :
    List TraceEvent :=
  if targets = [] then []
  else
    (if dryRun then validateGroup group (env.probes position) targets
      else if group.parallel then executeGroupParallel group position (env.runs position) targets
      else executeGroupSequential group position (env.runs position) targets) ++
    if group.postGroupDelay > 0 ∧ dryRun = false then [.worker (.sleep group.postGroupDelay)] else []

def phase1 (dryRun : Bool) (env : Environment) {tables : Tables} (answers : Answers tables) : List TraceEvent :=
  answers.groups.zipIdx.flatMap fun entry => executeGroup dryRun env entry.1 entry.2 (answers.targets entry.1.id)

def phase1Total {tables : Tables} (answers : Answers tables) : Nat :=
  (answers.groups.map fun group => (answers.targets group.id).length).sum

def phase1Summary (total failed : Nat) : List Effect :=
  if total > 0 then
    [.event (if failed > 0 then "error" else "info") "Phase 1 Complete" (.phase1 (total - failed) total)]
  else []

def upsMode (config : Config) : String := config.getStr "shutdown.ups_mode" "command"

def upsRegister (config : Config) : String := config.getStr "shutdown.ups_register" ""

def registerValue (config : Config) : Nat := (config.getInt "shutdown.ups_value" 0 % 65536).toNat

def upsRow (ok : Nat) (err : String) : Effect := .row (resultRowFill "phase2" "ups" ok err)

def upsCommandAction (dryRun : Bool) (env : Environment) : List Effect :=
  match env.shutdownCommand with
  | none =>
    [upsRow 1 (if dryRun then "driver advertises no shutdown command"
      else "UPS shutdown command not supported by driver")]
  | some name =>
    if dryRun then [upsRow 0 ""]
    else [.upsCommand name env.commandRc, upsRow (if env.commandRc = 0 then 0 else 1) env.upsError]

def upsRegisterAction (dryRun : Bool) (config : Config) (env : Environment) : List Effect :=
  let name := upsRegister config
  if name = "" then [upsRow 1 "shutdown.ups_register is empty"]
  else if dryRun then [upsRow 0 ""]
  else
    match env.register name with
    | some true =>
      [.upsWrite name (registerValue config) env.writeRc, upsRow (if env.writeRc = 0 then 0 else 1) env.upsError]
    | _ => [upsRow 1 "register not found or not writable"]

def upsAction (dryRun : Bool) (config : Config) (env : Environment) : List Effect :=
  match upsMode config with
  | "none" => [upsRow 2 ""]
  | "command" => upsCommandAction dryRun env
  | "register" => upsRegisterAction dryRun config env
  | _ => [upsRow 1 "unknown shutdown.ups_mode"]

def upsActionMessage (dryRun : Bool) (mode : String) (failed : Nat) : String :=
  if mode = "none" then "Skipped (mode=none)"
  else if dryRun then
    (if failed > 0 then "Pre-flight FAILED" else "Pre-flight ok") ++ " (dry-run, mode=" ++ mode ++ ")"
  else (if failed > 0 then "FAILED" else "Command accepted") ++ " (mode=" ++ mode ++ ")"

def upsActionEvent (dryRun : Bool) (mode : String) (failed : Nat) : Effect :=
  .event (if failed > 0 then "error" else "info") "UPS Action"
    (.text (snprintf 160 (upsActionMessage dryRun mode failed)))

def upsDelay (dryRun : Bool) (config : Config) : List Effect :=
  let delay := config.getInt "shutdown.ups_delay" 5
  if delay > 0 ∧ upsMode config ≠ "none" ∧ dryRun = false then [.sleep delay] else []

def phase2 (dryRun : Bool) (config : Config) (env : Environment) : List Effect :=
  let action := upsAction dryRun config env
  let failed := (resultOf (action.map .worker)).nFailed
  action ++ [upsActionEvent dryRun (upsMode config) failed] ++ upsDelay dryRun config

def controllerRow (ok : Nat) (err : String) : Effect := .row (resultRowFill "phase3" "controller" ok err)

def poweroffFailed (rc : Int) : String := snprintf 64 ("systemctl poweroff exited " ++ toString rc)

def poweroffIssued (dryRun : Bool) (config : Config) (env : Environment) : Bool :=
  !env.dockerBuild && config.getInt "shutdown.controller_enabled" 1 != 0 && !dryRun

def phase3 (dryRun : Bool) (config : Config) (env : Environment) : List Effect :=
  if env.dockerBuild then [controllerRow 2 ""]
  else if config.getInt "shutdown.controller_enabled" 1 ≠ 0 then
    if dryRun then
      [.canPoweroff env.canPoweroffRc,
        if env.canPoweroffRc = 0 then controllerRow 0 ""
        else controllerRow 1 "logind refused poweroff (polkit grant missing?)"]
    else
      [.event "critical" "Controller Poweroff Initiated" (.text "systemctl poweroff handed off to systemd"),
        .poweroff env.poweroffRc] ++
      if env.poweroffRc ≠ 0 then
        [controllerRow 1 (poweroffFailed env.poweroffRc),
          .event "error" "Controller Poweroff Failed" (.text (poweroffFailed env.poweroffRc))]
      else [controllerRow 0 ""]
  else [controllerRow 2 ""]

def startEvent (dryRun : Bool) : Effect :=
  .event (if dryRun then "warning" else "critical") (if dryRun then "Dry Run Started" else "Shutdown Workflow Started")
    (.text (if dryRun then "Pre-flight validation across all phases" else "Executing shutdown workflow"))

-- The terminal event is left out once systemd has taken the poweroff.
def terminalEvent (dryRun : Bool) (config : Config) (env : Environment) (failed : Nat) : List Effect :=
  let poweroff := poweroffIssued dryRun config env
  if poweroff = true ∧ env.poweroffRc = 0 then []
  else
    let title :=
      if dryRun then "Dry Run Complete" else if poweroff then "Shutdown Workflow Halted" else "Shutdown Workflow Complete"
    let plural := if failed = 1 then "" else "s"
    [.event (if failed > 0 ∨ poweroff = true then "error" else "info") title
      (.text (snprintf 160 ("Elapsed " ++ toString env.elapsed ++ "s, " ++ toString failed ++ " failure" ++ plural)))]

-- The workflow up to the end of phase 1, and up to the end of phase 2.
def throughPhase1 (dryRun : Bool) (env : Environment) {tables : Tables} (answers : Answers tables) : List TraceEvent :=
  [.worker (startEvent dryRun)] ++ phase1 dryRun env answers ++
    (phase1Summary (phase1Total answers) (resultOf (phase1 dryRun env answers)).nFailed).map .worker

def throughPhase2 (dryRun : Bool) (config : Config) (env : Environment) {tables : Tables} (answers : Answers tables) :
    List TraceEvent :=
  throughPhase1 dryRun env answers ++ (phase2 dryRun config env).map .worker

def shutdownExecuteEx (dryRun : Bool) (config : Config) (env : Environment) {tables : Tables}
    (answers : Answers tables) : List TraceEvent :=
  let phases := throughPhase2 dryRun config env answers ++ (phase3 dryRun config env).map .worker
  phases ++ (terminalEvent dryRun config env (resultOf phases).nFailed).map .worker

end AiriesUps.Shutdown
