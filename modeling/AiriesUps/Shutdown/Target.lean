import AiriesUps.Shutdown.Result

set_option autoImplicit false

namespace AiriesUps.Shutdown

-- One row of the query on shutdown_targets, with the two columns it is selected
-- and ordered by. The writers of the table store no NULL in any of these columns.
structure Target where
  groupId : Nat
  orderInGroup : Int
  name : String
  method : String
  host : String
  username : String
  credential : String
  command : String
  timeoutSec : Int
  confirmMethod : String
  confirmPort : Int
  confirmCommand : String
  postConfirmDelay : Int
deriving DecidableEq, Repr

structure TargetId where
  group : Nat
  index : Nat
deriving DecidableEq, Repr

-- phase1 is "%d of %d target%s succeeded", with an s unless the total is 1.
inductive Message where
  | text (text : String)
  | phase1 (ok total : Nat)
deriving DecidableEq, Repr

inductive Check where
  | shell (command : String)
  | connect (host : String) (port : Int)
deriving DecidableEq, Repr

-- What a workflow does to the outside. Every run_shell call is one effect, with
-- the place it is made from; rc is what it returned.
inductive Effect where
  | action (target : TargetId) (command : String) (rc : Int)
  | confirm (check : Check) (up : Bool)
  | probe (command : String) (rc : Int)
  | writeKey (path : Option String)
  | unlinkKey (path : String)
  | sleep (seconds : Int)
  | report (group target status : String)
  | event (severity title : String) (message : Message)
  | row (row : StepResult)
  | upsCommand (name : String) (rc : Int)
  | upsWrite (register : String) (value : Nat) (rc : Int)
  | canPoweroff (rc : Int)
  | poweroff (rc : Int)
deriving DecidableEq, Repr

def Effect.shell : Effect → Bool
  | .action _ _ _ | .confirm (.shell _) _ | .probe _ _ | .canPoweroff _ | .poweroff _ => true
  | _ => false

-- What the outside does in one target cycle: the path write_key_to_tmpfs made (or
-- its failure), the action's return code, the times at which the target was still
-- seen up before it was seen down, and the thread's error text afterwards.
structure Cycle where
  keyPath : Option String
  actionRc : Int
  confirmStart : Int
  stillUp : List Int
  error : String
deriving DecidableEq, Repr

def sshPasswordCommand (target : Target) : String :=
  snprintf 2048 ("sshpass -p '" ++ target.credential ++ "' ssh " ++
    "-o PreferredAuthentications=password " ++
    "-o PubkeyAuthentication=no " ++
    "-o StrictHostKeyChecking=no " ++
    "-o ConnectTimeout=5 " ++ target.username ++ "@" ++ target.host ++ " " ++ target.command)

def sshKeyCommand (keyPath : String) (target : Target) : String :=
  snprintf 2048 ("ssh -i '" ++ keyPath ++ "' " ++
    "-o IdentitiesOnly=yes " ++
    "-o BatchMode=yes " ++
    "-o PreferredAuthentications=publickey " ++
    "-o StrictHostKeyChecking=no " ++
    "-o ConnectTimeout=5 " ++ target.username ++ "@" ++ target.host ++ " " ++ target.command)

def shellResult (rc : Int) : Int := if rc = 0 then 0 else -1

def fireTargetAction (id : TargetId) (target : Target) (cycle : Cycle) : List Effect × Int :=
  match target.method with
  | "ssh_password" =>
    ([.action id (sshPasswordCommand target) cycle.actionRc], shellResult cycle.actionRc)
  | "ssh_key" =>
    match cycle.keyPath with
    | none => ([.writeKey none], -1)
    | some keyPath =>
      ([.writeKey keyPath, .action id (sshKeyCommand keyPath target) cycle.actionRc, .unlinkKey keyPath],
        shellResult cycle.actionRc)
  | "command" => ([.action id target.command cycle.actionRc], shellResult cycle.actionRc)
  | _ => ([], -1)

-- confirm_ping, confirm_tcp_port and confirm_command: check every five seconds
-- until the target is seen down or the timeout has passed.
def waitDown (check : Check) (timeoutSec start : Int) : List Int → List Effect
  | [] => [.confirm check false]
  | now :: rest =>
    if now - start ≥ timeoutSec then [.confirm check true]
    else [.confirm check true, .sleep 5] ++ waitDown check timeoutSec start rest

def pingCommand (host : String) : String := snprintf 512 ("ping -c 1 -W 1 " ++ host ++ " >/dev/null 2>&1")

-- Its result only decides a log line.
def confirmTargetDown (target : Target) (cycle : Cycle) : List Effect :=
  match target.confirmMethod with
  | "none" => []
  | "ping" => waitDown (.shell (pingCommand target.host)) target.timeoutSec cycle.confirmStart cycle.stillUp
  | "tcp_port" =>
    waitDown (.connect target.host target.confirmPort) target.timeoutSec cycle.confirmStart cycle.stillUp
  | "command" => waitDown (.shell target.confirmCommand) target.timeoutSec cycle.confirmStart cycle.stillUp
  | _ => []

def executeTarget (id : TargetId) (target : Target) (cycle : Cycle) : List Effect × Int :=
  let fired := fireTargetAction id target cycle
  if fired.2 ≠ 0 then (fired.1, -1)
  else
    (fired.1 ++ confirmTargetDown target cycle ++
      (if target.postConfirmDelay > 0 then [.sleep target.postConfirmDelay] else []), 0)

def probePasswordCommand (target : Target) : String :=
  snprintf 1024 ("sshpass -p '" ++ target.credential ++ "' ssh -o StrictHostKeyChecking=no " ++
    "-o ConnectTimeout=5 " ++ target.username ++ "@" ++ target.host ++ " 'echo OK'")

def probeKeyCommand (target : Target) : String :=
  snprintf 1024 ("ssh -i '" ++ target.credential ++ "' -o StrictHostKeyChecking=no " ++
    "-o ConnectTimeout=5 " ++ target.username ++ "@" ++ target.host ++ " 'echo OK'")

def testTargetConnectivity (target : Target) (rc : Int) : List Effect × Int :=
  match target.method with
  | "ssh_password" => ([.probe (probePasswordCommand target) rc], shellResult rc)
  | "ssh_key" => ([.probe (probeKeyCommand target) rc], shellResult rc)
  | "command" => ([], 0)
  | _ => ([], -1)

-- The effects a target cycle is made of; an action is that of its own target.
def Effect.OfCycle (id : TargetId) : Effect → Prop
  | .action target _ _ => target = id
  | .confirm _ _ | .writeKey _ | .unlinkKey _ | .sleep _ => True
  | _ => False

theorem shell_result_zero (rc : Int) : shellResult rc = 0 ↔ rc = 0 := by
  rw [shellResult]
  split <;> simp_all

theorem fire_target_action_of_cycle (id : TargetId) (target : Target) (cycle : Cycle) :
    ∀ effect ∈ (fireTargetAction id target cycle).1, effect.OfCycle id := by
  rw [fireTargetAction]
  split
  · simp [Effect.OfCycle]
  · split <;> simp [Effect.OfCycle]
  · simp [Effect.OfCycle]
  · simp

theorem fire_target_action_ran (id : TargetId) (target : Target) (cycle : Cycle)
    (fired : (fireTargetAction id target cycle).2 = 0) :
    ∃ command, .action id command 0 ∈ (fireTargetAction id target cycle).1 := by
  unfold fireTargetAction at *
  split at fired
  · have exited := (shell_result_zero cycle.actionRc).mp fired
    simp_all
  · cases made : cycle.keyPath with
    | none =>
      rw [made] at fired
      cases fired
    | some keyPath =>
      rw [made] at fired
      have exited := (shell_result_zero cycle.actionRc).mp fired
      simp_all
  · have exited := (shell_result_zero cycle.actionRc).mp fired
    simp_all
  · cases fired

theorem wait_down_of_cycle (id : TargetId) (check : Check) (timeoutSec start : Int) (stillUp : List Int) :
    ∀ effect ∈ waitDown check timeoutSec start stillUp, effect.OfCycle id := by
  induction stillUp with
  | nil => simp [waitDown, Effect.OfCycle]
  | cons now rest ih =>
    rw [waitDown]
    split
    · simp [Effect.OfCycle]
    · intro effect member
      rcases List.mem_append.mp member with first | later
      · simp only [List.mem_cons, List.not_mem_nil, or_false] at first
        rcases first with rfl | rfl <;> trivial
      · exact ih effect later

theorem confirm_target_down_of_cycle (id : TargetId) (target : Target) (cycle : Cycle) :
    ∀ effect ∈ confirmTargetDown target cycle, effect.OfCycle id := by
  rw [confirmTargetDown]
  split
  · simp
  · exact wait_down_of_cycle id _ _ _ _
  · exact wait_down_of_cycle id _ _ _ _
  · exact wait_down_of_cycle id _ _ _ _
  · simp

theorem execute_target_of_cycle (id : TargetId) (target : Target) (cycle : Cycle) :
    ∀ effect ∈ (executeTarget id target cycle).1, effect.OfCycle id := by
  intro effect member
  rw [executeTarget] at member
  by_cases failed : (fireTargetAction id target cycle).2 ≠ 0
  · simp only [if_pos failed] at member
    exact fire_target_action_of_cycle id target cycle effect member
  · simp only [if_neg failed, List.mem_append] at member
    rcases member with (fired | confirmed) | delayed
    · exact fire_target_action_of_cycle id target cycle effect fired
    · exact confirm_target_down_of_cycle id target cycle effect confirmed
    · by_cases delay : target.postConfirmDelay > 0
      · rw [if_pos delay, List.mem_singleton] at delayed
        subst delayed
        trivial
      · rw [if_neg delay] at delayed
        cases delayed

theorem execute_target_ran (id : TargetId) (target : Target) (cycle : Cycle)
    (succeeded : (executeTarget id target cycle).2 = 0) :
    ∃ command, .action id command 0 ∈ (executeTarget id target cycle).1 := by
  unfold executeTarget at *
  by_cases failed : (fireTargetAction id target cycle).2 ≠ 0
  · simp only [if_pos failed] at succeeded
    cases succeeded
  · obtain ⟨command, ran⟩ := fire_target_action_ran id target cycle (not_not.mp failed)
    simp only [if_neg failed]
    exact ⟨command, List.mem_append_left _ (List.mem_append_left _ ran)⟩

end AiriesUps.Shutdown
