import AiriesUps.Lib.Tables
import AiriesUps.Shutdown.Target

set_option autoImplicit false

namespace AiriesUps.Shutdown

structure Group where
  id : Nat
  name : String
  executionOrder : Int
  parallel : Bool
  maxTimeoutSec : Int
  postGroupDelay : Int
deriving DecidableEq, Repr

inductive ExitStatus where
  | exited (code : Nat)
  | signalled
deriving DecidableEq, Repr

-- What happens in a workflow, in order. A child is named by its target.
inductive TraceEvent where
  | worker (effect : Effect)
  | child (pid : TargetId) (effect : Effect)
  | forked (pid : TargetId)
  | killed (pid : TargetId)
  | orphaned (pid : TargetId) (shell : Effect)
  | ended (pid : TargetId) (status : ExitStatus)
deriving DecidableEq, Repr

inductive Move where
  | step (index : Nat)
  | signal (index : Nat)
deriving DecidableEq, Repr

def Move.index : Move → Nat
  | .step index | .signal index => index

-- One turn of the wait loop: the moves since the last turn, and the clock after the scan.
structure Poll where
  schedule : List Move
  waitFails : List Nat
  now : Int
deriving DecidableEq, Repr

-- What the outside does while one group executes. now is the clock before each
-- sequential target. After the listed turns of the wait loop every remaining child
-- has run to its end. outlives tells of a child that a signal ends inside run_shell
-- whether the shell it leaves is still running when phase 1 is over.
structure GroupRun where
  start : Int
  now : Nat → Int
  cycles : Nat → Cycle
  forks : Nat → Bool
  polls : List Poll
  reap : List Move
  sigtermKills : Bool
  outlives : Nat → Bool

def stepTarget (group : Group) (name : String) : String := snprintf 96 (group.name ++ "/" ++ name)

def pastCeiling (group : Group) (start now : Int) : Prop := group.maxTimeoutSec > 0 ∧ now - start ≥ group.maxTimeoutSec

instance (group : Group) (start now : Int) : Decidable (pastCeiling group start now) := by
  unfold pastCeiling
  infer_instance

def sequentialTarget (group : Group) (position : Nat) (run : GroupRun) (target : Target) (index : Nat) : List Effect :=
  if pastCeiling group run.start (run.now index) then
    [.row (resultRowFill "phase1" (stepTarget group target.name) 2 "")]
  else
    let executed := executeTarget { group := position, index := index } target (run.cycles index)
    [.report group.name target.name "starting"] ++ executed.1 ++
      [.report group.name target.name (if executed.2 = 0 then "completed" else "failed"),
        .row (resultRowFill "phase1" (stepTarget group target.name) (if executed.2 = 0 then 0 else 1)
          (run.cycles index).error)]

def executeGroupSequential (group : Group) (position : Nat) (run : GroupRun) (targets : List Target) : List TraceEvent :=
  targets.zipIdx.flatMap fun entry => (sequentialTarget group position run entry.1 entry.2).map .worker

-- pids[t], done[t] and outcome[t], and the child itself. A failed fork leaves -1.
structure Slot where
  id : TargetId
  name : String
  forked : Bool
  remaining : List Effect
  status : ExitStatus
  ended : Bool
  done : Bool
  outcome : Nat
deriving DecidableEq, Repr

def forkChild (position : Nat) (run : GroupRun) (target : Target) (index : Nat) : Slot :=
  let id : TargetId := { group := position, index := index }
  let executed := executeTarget id target (run.cycles index)
  { id := id
    name := target.name
    forked := run.forks index
    remaining := executed.1
    status := .exited (if executed.2 = 0 then 0 else 1)
    ended := false
    done := false
    outcome := 0 }

def forkTrace (group : Group) (slot : Slot) : List TraceEvent :=
  .worker (.report group.name slot.name "starting") :: if slot.forked then [.forked slot.id] else []

def childStep (slot : Slot) : Slot × List TraceEvent :=
  if !slot.forked || slot.ended then (slot, [])
  else
    match slot.remaining with
    | effect :: rest => ({ slot with remaining := rest }, [.child slot.id effect])
    | [] => ({ slot with ended := true }, [.ended slot.id slot.status])

def drain (slot : Slot) : Slot × List TraceEvent :=
  if !slot.forked || slot.ended then (slot, [])
  else
    ({ slot with remaining := [], ended := true },
      slot.remaining.map (.child slot.id) ++ [.ended slot.id slot.status])

-- The shell that runs on when a signal ends the child now: run_shell waits for the
-- shell in the child, and the signal goes to the child alone.
def strandedShell (run : GroupRun) (slot : Slot) : Option Effect :=
  if run.outlives slot.id.index then slot.remaining.head?.filter Effect.shell else none

def signalChild (run : GroupRun) (slot : Slot) : Slot × List TraceEvent :=
  if !slot.forked || slot.ended then (slot, [])
  else
    ({ slot with remaining := [], status := .signalled, ended := true },
      ((strandedShell run slot).map (.orphaned slot.id)).toList ++ [.ended slot.id .signalled])

def moveChild (run : GroupRun) (move : Move) (slot : Slot) : Slot × List TraceEvent :=
  match move with
  | .step _ => childStep slot
  | .signal _ => signalChild run slot

def runSchedule (run : GroupRun) : List Slot → List Move → List Slot × List TraceEvent
  | slots, [] => (slots, [])
  | slots, move :: rest =>
    match slots[move.index]? with
    | none => runSchedule run slots rest
    | some slot =>
      let moved := moveChild run move slot
      let later := runSchedule run (slots.set move.index moved.1) rest
      (later.1, moved.2 ++ later.2)

def each (body : Slot → Slot × List TraceEvent) (slots : List Slot) : List Slot × List TraceEvent :=
  (slots.map fun slot => (body slot).1, slots.flatMap fun slot => (body slot).2)

-- waitpid(pids[t], &status, WNOHANG) and what follows it.
def waitChild (group : Group) (waitFails : List Nat) (slot : Slot) : Slot × List TraceEvent :=
  if slot.done || !slot.forked then (slot, [])
  else if slot.ended && !waitFails.contains slot.id.index then
    let ok : Bool := slot.status = .exited 0
    ({ slot with done := true, outcome := if ok then 0 else 1 },
      [.worker (.report group.name slot.name (if ok then "completed" else "failed"))])
  else (slot, [])

-- kill(pids[t], SIGTERM): under the default disposition the child ends, and under
-- an inherited handler its cycle goes on; a sleep it is in is then cut short.
def killStraggler (group : Group) (run : GroupRun) (slot : Slot) : Slot × List TraceEvent :=
  if slot.done || !slot.forked then (slot, [])
  else
    let hit := if run.sigtermKills then signalChild run slot else (slot, [])
    ({ hit.1 with outcome := 2 },
      .killed slot.id :: hit.2 ++ [.worker (.report group.name slot.name "killed (timeout)")])

def reapStraggler (slot : Slot) : Slot × List TraceEvent :=
  if slot.done || !slot.forked then (slot, [])
  else
    let drained := drain slot
    ({ drained.1 with done := true }, drained.2)

def allDone (slots : List Slot) : Bool := slots.all fun slot => slot.done || !slot.forked

def waitLoop (group : Group) (run : GroupRun) : List Poll → List Slot → List Slot × List TraceEvent
  | [], slots =>
    let drained := each drain slots
    let waited := each (waitChild group []) drained.1
    (waited.1, drained.2 ++ waited.2)
  | poll :: rest, slots =>
    let moved := runSchedule run slots poll.schedule
    let waited := each (waitChild group poll.waitFails) moved.1
    if allDone waited.1 then (waited.1, moved.2 ++ waited.2)
    else if pastCeiling group run.start poll.now then
      let killed := each (killStraggler group run) waited.1
      let running := runSchedule run killed.1 run.reap
      let reaped := each reapStraggler running.1
      (reaped.1, moved.2 ++ waited.2 ++ killed.2 ++ running.2 ++ reaped.2)
    else
      let later := waitLoop group run rest waited.1
      (later.1, moved.2 ++ waited.2 ++ [.worker (.sleep 1)] ++ later.2)

def outcomeRow (group : Group) (slot : Slot) : StepResult :=
  if slot.outcome = 0 then resultRowFill "phase1" (stepTarget group slot.name) 0 ""
  else if slot.outcome = 2 then
    resultRowFill "phase1" (stepTarget group slot.name) 1 "killed: group timeout exceeded"
  else resultRowFill "phase1" (stepTarget group slot.name) 1 "step failed (see daemon log)"

def forkAll (position : Nat) (run : GroupRun) (targets : List Target) : List Slot :=
  targets.zipIdx.map fun entry => forkChild position run entry.1 entry.2

-- The three callocs at its start succeed.
def executeGroupParallel (group : Group) (position : Nat) (run : GroupRun) (targets : List Target) : List TraceEvent :=
  let slots := forkAll position run targets
  let waited := waitLoop group run run.polls slots
  slots.flatMap (forkTrace group) ++ waited.2 ++ waited.1.map fun slot => .worker (.row (outcomeRow group slot))

end AiriesUps.Shutdown
