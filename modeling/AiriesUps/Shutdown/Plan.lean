import AiriesUps.Lib.Runs
import AiriesUps.Shutdown.Workflow

set_option autoImplicit false

namespace AiriesUps.Shutdown

-- The columns of shutdown_groups and shutdown_targets a request sets. The port is stored
-- as text, the empty one for a new target without a port, and read back by atoi.
structure GroupValues where
  name : String
  executionOrder : Int
  parallel : Bool
  maxTimeoutSec : Int
  postGroupDelay : Int
deriving DecidableEq, Repr

structure TargetValues where
  groupId : Int
  name : String
  method : String
  host : String
  username : String
  command : String
  timeoutSec : Int
  orderInGroup : Int
  confirmMethod : String
  confirmPort : Int
  confirmCommand : String
  postConfirmDelay : Int
deriving DecidableEq, Repr

structure TargetRow where
  id : Nat
  values : TargetValues
  credential : String
deriving DecidableEq, Repr

def GroupValues.row (id : Nat) (values : GroupValues) : Group :=
  { id := id, name := values.name, executionOrder := values.executionOrder, parallel := values.parallel
    maxTimeoutSec := values.maxTimeoutSec, postGroupDelay := values.postGroupDelay }

-- lastGroup and lastTarget are the counters of AUTOINCREMENT.
structure PlanDb where
  groups : List Group
  lastGroup : Nat
  targets : List TargetRow
  lastTarget : Nat
deriving DecidableEq, Repr

-- The statements of the handlers with their parameters.
inductive PlanStatement where
  | insertGroup (values : GroupValues)
  | updateGroup (id : Int) (values : GroupValues)
  | deleteGroup (id : Int)
  | insertTarget (values : TargetValues) (credential : String)
  | updateTarget (id : Int) (values : TargetValues) (credential : Option String)
  | deleteTarget (id : Int)
deriving DecidableEq, Repr

def PlanDb.hasGroup (db : PlanDb) (id : Int) : Bool := db.groups.any fun group => group.id = id

def TargetRow.update (values : TargetValues) (credential : Option String) (row : TargetRow) : TargetRow :=
  { row with values := values, credential := credential.getD row.credential }

-- What a statement makes of the tables, none where it breaks a constraint. foreignKeys is
-- the setting of the connection.
def PlanDb.execute (foreignKeys : Bool) (db : PlanDb) : PlanStatement → Option PlanDb
  | .insertGroup values =>
    if ∃ group ∈ db.groups, group.name = values.name then none
    else some { db with groups := db.groups ++ [values.row (db.lastGroup + 1)], lastGroup := db.lastGroup + 1 }
  | .updateGroup id values =>
    if db.hasGroup id = true ∧ ∃ group ∈ db.groups, (group.id : Int) ≠ id ∧ group.name = values.name then none
    else some { db with groups := db.groups.map fun group => if (group.id : Int) = id then values.row group.id else group }
  | .deleteGroup id =>
    some
      { db with
        groups := db.groups.filter fun group => (group.id : Int) ≠ id
        targets :=
          if foreignKeys && db.hasGroup id then db.targets.filter fun row => row.values.groupId ≠ id else db.targets }
  | .insertTarget values credential =>
    if foreignKeys && !db.hasGroup values.groupId then none
    else
      some
        { db with
          targets := db.targets ++ [{ id := db.lastTarget + 1, values := values, credential := credential }]
          lastTarget := db.lastTarget + 1 }
  | .updateTarget id values credential =>
    if (foreignKeys && !db.hasGroup values.groupId) = true ∧
        ∃ row ∈ db.targets, (row.id : Int) = id ∧ row.values.groupId ≠ values.groupId then none
    else
      some
        { db with
          targets := db.targets.map fun row => if (row.id : Int) = id then row.update values credential else row }
  | .deleteTarget id => some { db with targets := db.targets.filter fun row => (row.id : Int) ≠ id }

-- A request body; a field is there when the JSON has it with its type.
inductive PlanBody (Fields : Type) where
  | absent
  | invalid
  | fields (fields : Fields)
deriving DecidableEq, Repr

structure GroupFields where
  id : Option Int
  name : Option String
  executionOrder : Option Int
  parallel : Option Bool
  maxTimeoutSec : Option Int
  postGroupDelay : Option Int
deriving DecidableEq, Repr

structure TargetFields where
  id : Option Int
  groupId : Option Int
  name : Option String
  method : Option String
  host : Option String
  username : Option String
  credential : Option String
  command : Option String
  timeoutSec : Option Int
  orderInGroup : Option Int
  confirmMethod : Option String
  confirmPort : Option Int
  confirmCommand : Option String
  postConfirmDelay : Option Int
deriving DecidableEq, Repr

abbrev Checked (Value : Type) := Except (Nat × String) Value

def PlanBody.read {Fields Value : Type} (body : PlanBody Fields) (get : Fields → Checked Value) : Checked Value :=
  match body with
  | .absent => .error (400, "request body required")
  | .invalid => .error (400, "invalid JSON")
  | .fields given => get given

def GroupFields.values (fields : GroupFields) (name : String) : GroupValues :=
  { name := name, executionOrder := fields.executionOrder.getD 0, parallel := fields.parallel.getD true
    maxTimeoutSec := fields.maxTimeoutSec.getD 0, postGroupDelay := fields.postGroupDelay.getD 0 }

def groupsPost (fields : GroupFields) : Checked PlanStatement :=
  match fields.name with
  | none => .error (400, "missing 'name'")
  | some name => .ok (.insertGroup (fields.values name))

def groupsPut (fields : GroupFields) : Checked PlanStatement :=
  match fields.id, fields.name with
  | none, _ => .error (400, "missing 'id'")
  | some _, none => .error (400, "missing 'name'")
  | some id, some name => .ok (.updateGroup id (fields.values name))

def groupsDelete (fields : GroupFields) : Checked PlanStatement :=
  match fields.id with
  | none => .error (400, "missing 'id'")
  | some id => .ok (.deleteGroup id)

def TargetFields.values (fields : TargetFields) (groupId : Int) (name command : String) (order : Int) : TargetValues :=
  { groupId := groupId, name := name, method := fields.method.getD "ssh_password", host := fields.host.getD ""
    username := fields.username.getD "", command := command, timeoutSec := fields.timeoutSec.getD 180
    orderInGroup := order, confirmMethod := fields.confirmMethod.getD "ping", confirmPort := fields.confirmPort.getD 0
    confirmCommand := fields.confirmCommand.getD "", postConfirmDelay := fields.postConfirmDelay.getD 15 }

-- order_in_group is not accepted here.
def targetsPost (fields : TargetFields) : Checked PlanStatement :=
  match fields.groupId, fields.name, fields.command with
  | some groupId, some name, some command =>
    .ok (.insertTarget (fields.values groupId name command 0) (fields.credential.getD ""))
  | _, _, _ => .error (400, "missing required fields: group_id, name, command")

-- A blank credential leaves the stored one alone.
def targetsPut (fields : TargetFields) : Checked PlanStatement :=
  match fields.id, fields.name, fields.command with
  | some id, some name, some command =>
    .ok (.updateTarget id (fields.values (fields.groupId.getD 0) name command (fields.orderInGroup.getD 0))
      (fields.credential.filter fun credential => credential ≠ ""))
  | _, _, _ => .error (400, "missing required fields: id, name, command")

def targetsDelete (fields : TargetFields) : Checked PlanStatement :=
  match fields.id with
  | none => .error (400, "missing 'id'")
  | some id => .ok (.deleteTarget id)

-- A row of the query of handle_shutdown_targets_get; executionOrder is what it is sorted by.
structure ListedTarget where
  id : Nat
  values : TargetValues
  group : String
  executionOrder : Int
deriving DecidableEq, Repr

def PlanDb.joined (db : PlanDb) : List ListedTarget :=
  db.targets.flatMap fun row =>
    (db.groups.filter fun group => (group.id : Int) = row.values.groupId).map fun group =>
      { id := row.id, values := row.values, group := group.name, executionOrder := group.executionOrder }

def ListedTarget.before (earlier later : ListedTarget) : Prop :=
  earlier.executionOrder < later.executionOrder ∨
    earlier.executionOrder = later.executionOrder ∧ earlier.values.orderInGroup ≤ later.values.orderInGroup

instance (earlier later : ListedTarget) : Decidable (earlier.before later) :=
  inferInstanceAs (Decidable (_ ∨ _))

-- The requests on the plan. rows is what the query of a GET returns, its ties in any order.
inductive PlanRequest where
  | groupsGet (rows : List Group)
  | groupsPost (body : PlanBody GroupFields)
  | groupsPut (body : PlanBody GroupFields)
  | groupsDelete (body : PlanBody GroupFields)
  | targetsGet (rows : List ListedTarget)
  | targetsPost (body : PlanBody TargetFields)
  | targetsPut (body : PlanBody TargetFields)
  | targetsDelete (body : PlanBody TargetFields)
deriving DecidableEq, Repr

inductive PlanReply where
  | groups (rows : List Group)
  | targets (rows : List (Nat × TargetValues × String))
  | result (status : Nat) (text : String)
  | error (status : Nat) (text : String)
deriving DecidableEq, Repr

-- succeeds: the database runs the statement. built: the JSON of the reply can be built,
-- otherwise failure is what cutils_get_error says.
structure PlanCall where
  request : PlanRequest
  succeeds : Bool
  built : Bool
  failure : String
deriving DecidableEq, Repr

-- done is the log of the statements that went through.
structure PlanState where
  db : PlanDb
  done : List PlanStatement
  replies : List PlanReply
deriving DecidableEq, Repr

def PlanCall.answer (call : PlanCall) (reply : PlanReply) : PlanReply :=
  if call.built then reply else .error 500 call.failure

def PlanState.reply (state : PlanState) (reply : PlanReply) : PlanState :=
  { state with replies := state.replies ++ [reply] }

def PlanState.write (foreignKeys : Bool) (state : PlanState) (call : PlanCall) (statement : Checked PlanStatement)
    (failed : String) (reply : PlanReply) : PlanState :=
  match statement with
  | .error (status, text) => state.reply (.error status text)
  | .ok statement =>
    match if call.succeeds then state.db.execute foreignKeys statement else none with
    | none => state.reply (.error 500 failed)
    | some db => { db := db, done := state.done ++ [statement], replies := state.replies ++ [call.answer reply] }

-- A GET has a next state only with rows its query may return.
def PlanState.read {Row : Type} [DecidableEq Row] (state : PlanState) (call : PlanCall) (rows stored : List Row)
    (sorted : Bool) (failed : String) (reply : PlanReply) : Option PlanState :=
  if !call.succeeds then some (state.reply (.error 500 failed))
  else if rows.isPerm stored && sorted then some (state.reply (call.answer reply))
  else none

def PlanState.step (foreignKeys : Bool) (state : PlanState) (call : PlanCall) : Option PlanState :=
  match call.request with
  | .groupsGet rows =>
    state.read call rows state.db.groups
      (decide (rows.Pairwise fun earlier later => earlier.executionOrder ≤ later.executionOrder)) "failed to query groups"
      (.groups rows)
  | .groupsPost body =>
    some (state.write foreignKeys call (body.read groupsPost) "failed to create group" (.result 201 "created"))
  | .groupsPut body =>
    some (state.write foreignKeys call (body.read groupsPut) "failed to update group" (.result 200 "updated"))
  | .groupsDelete body =>
    some (state.write foreignKeys call (body.read groupsDelete) "failed to delete group" (.result 200 "deleted"))
  | .targetsGet rows =>
    state.read call rows state.db.joined (decide (rows.Pairwise ListedTarget.before)) "failed to query targets"
      (.targets (rows.map fun row => (row.id, row.values, row.group)))
  | .targetsPost body =>
    some (state.write foreignKeys call (body.read targetsPost) "failed to create target" (.result 201 "created"))
  | .targetsPut body =>
    some (state.write foreignKeys call (body.read targetsPut) "failed to update target" (.result 200 "updated"))
  | .targetsDelete body =>
    some (state.write foreignKeys call (body.read targetsDelete) "failed to delete target" (.result 200 "deleted"))

def PlanState.start (db : PlanDb) : PlanState := { db := db, done := [], replies := [] }

def PlanDb.empty : PlanDb := { groups := [], lastGroup := 0, targets := [], lastTarget := 0 }

-- A row as the workflow's query selects it.
def TargetRow.target (row : TargetRow) : Target :=
  { groupId := row.values.groupId.toNat, orderInGroup := row.values.orderInGroup, name := row.values.name
    method := row.values.method, host := row.values.host, username := row.values.username
    credential := row.credential, command := row.values.command, timeoutSec := row.values.timeoutSec
    confirmMethod := row.values.confirmMethod, confirmPort := row.values.confirmPort
    confirmCommand := row.values.confirmCommand, postConfirmDelay := row.values.postConfirmDelay }

end AiriesUps.Shutdown
