import AiriesUps.Shutdown.Plan

set_option autoImplicit false

namespace AiriesUps.Shutdown

-- Tables, statements and requests without the credentials.
def TargetRow.redacted (row : TargetRow) : TargetRow := { row with credential := "" }

def PlanDb.redacted (db : PlanDb) : PlanDb := { db with targets := db.targets.map TargetRow.redacted }

def PlanStatement.redacted : PlanStatement → PlanStatement
  | .insertTarget values _ => .insertTarget values ""
  | .updateTarget id values _ => .updateTarget id values none
  | statement => statement

def TargetFields.redacted (fields : TargetFields) : TargetFields := { fields with credential := none }

def PlanBody.map {Fields : Type} (change : Fields → Fields) : PlanBody Fields → PlanBody Fields
  | .fields given => .fields (change given)
  | other => other

def PlanRequest.redacted : PlanRequest → PlanRequest
  | .targetsPost body => .targetsPost (body.map TargetFields.redacted)
  | .targetsPut body => .targetsPut (body.map TargetFields.redacted)
  | request => request

def PlanCall.redacted (call : PlanCall) : PlanCall := { call with request := call.request.redacted }

def PlanState.redacted (state : PlanState) : PlanState :=
  { db := state.db.redacted, done := state.done.map PlanStatement.redacted, replies := state.replies }

theorem joined_redacted (db : PlanDb) : db.redacted.joined = db.joined := by
  rw [PlanDb.joined, PlanDb.redacted, List.flatMap_map]
  rfl

theorem filter_redacted (rows : List TargetRow) (kept : TargetRow → Bool) (blind : ∀ row, kept row.redacted = kept row) :
    (rows.map TargetRow.redacted).filter kept = (rows.filter kept).map TargetRow.redacted := by
  rw [List.filter_map]
  exact congrArg (List.map TargetRow.redacted) (List.filter_congr fun row _ => blind row)

theorem execute_redacted (foreignKeys : Bool) (db : PlanDb) (statement : PlanStatement) :
    db.redacted.execute foreignKeys statement.redacted = (db.execute foreignKeys statement).map PlanDb.redacted := by
  cases statement with
  | insertGroup values =>
    simp only [PlanStatement.redacted, PlanDb.execute, apply_ite (Option.map PlanDb.redacted), Option.map_none, Option.map_some]
    rfl
  | updateGroup id values =>
    simp only [PlanStatement.redacted, PlanDb.execute, apply_ite (Option.map PlanDb.redacted), Option.map_none, Option.map_some]
    rfl
  | deleteGroup id =>
    have cascaded : (if (foreignKeys && db.hasGroup id) = true then
          (db.targets.map TargetRow.redacted).filter fun row => row.values.groupId ≠ id
        else db.targets.map TargetRow.redacted) =
        (if (foreignKeys && db.hasGroup id) = true then db.targets.filter fun row => row.values.groupId ≠ id
        else db.targets).map TargetRow.redacted := by
      split
      · exact filter_redacted db.targets _ fun _ => rfl
      · rfl
    exact congrArg
      (fun targets => some { db with groups := db.groups.filter fun group => (group.id : Int) ≠ id, targets := targets })
      cascaded
  | insertTarget values credential =>
    simp only [PlanStatement.redacted, PlanDb.execute, apply_ite (Option.map PlanDb.redacted), Option.map_none, Option.map_some]
    refine if_congr Iff.rfl rfl ?_
    simp only [PlanDb.redacted, List.map_append, List.map_singleton]
    rfl
  | updateTarget id values credential =>
    have matched : (∃ row ∈ db.redacted.targets, (row.id : Int) = id ∧ row.values.groupId ≠ values.groupId) ↔
        ∃ row ∈ db.targets, (row.id : Int) = id ∧ row.values.groupId ≠ values.groupId := by
      simp [PlanDb.redacted, TargetRow.redacted]
    simp only [PlanStatement.redacted, PlanDb.execute, apply_ite (Option.map PlanDb.redacted), Option.map_none, Option.map_some]
    refine if_congr (and_congr_right fun _ => matched) rfl ?_
    simp only [PlanDb.redacted, List.map_map]
    congr 2
    refine List.map_congr_left fun row _ => ?_
    by_cases found : (row.id : Int) = id <;> simp [found, TargetRow.redacted, TargetRow.update]
  | deleteTarget id =>
    simp only [PlanStatement.redacted, PlanDb.execute, Option.map_some, PlanDb.redacted]
    rw [filter_redacted db.targets _ fun row => rfl]

theorem read_redacted (body : PlanBody TargetFields) (get : TargetFields → Checked PlanStatement)
    (reads : ∀ fields, get fields.redacted = (get fields).map PlanStatement.redacted) :
    (body.map TargetFields.redacted).read get = (body.read get).map PlanStatement.redacted := by
  cases body with
  | absent => rfl
  | invalid => rfl
  | fields given => exact reads given

theorem targets_post_redacted (fields : TargetFields) :
    targetsPost fields.redacted = (targetsPost fields).map PlanStatement.redacted := by
  obtain ⟨_, groupId, name, _, _, _, _, command, _, _, _, _, _, _⟩ := fields
  cases groupId <;> cases name <;> cases command <;> rfl

theorem targets_put_redacted (fields : TargetFields) :
    targetsPut fields.redacted = (targetsPut fields).map PlanStatement.redacted := by
  obtain ⟨id, _, name, _, _, _, _, command, _, _, _, _, _, _⟩ := fields
  cases id <;> cases name <;> cases command <;> rfl

theorem write_redacted (foreignKeys : Bool) (state : PlanState) (call other : PlanCall) (statement : Checked PlanStatement)
    (failed : String) (reply : PlanReply) (same : other.succeeds = call.succeeds) (answers : other.answer reply = call.answer reply) :
    state.redacted.write foreignKeys other (statement.map PlanStatement.redacted) failed reply =
      (state.write foreignKeys call statement failed reply).redacted := by
  cases statement with
  | error error => rfl
  | ok statement =>
    simp only [PlanState.write, Except.map, same]
    cases call.succeeds with
    | false => rfl
    | true =>
      simp only [if_true]
      rw [show state.redacted.db = state.db.redacted from rfl, execute_redacted]
      cases state.db.execute foreignKeys statement with
      | none => rfl
      | some db => simp [PlanState.redacted, answers]

theorem reads_redacted {Row : Type} [DecidableEq Row] (state : PlanState) (call : PlanCall) (rows stored : List Row)
    (sorted : Bool) (failed : String) (reply : PlanReply) :
    state.redacted.read call.redacted rows stored sorted failed reply =
      (state.read call rows stored sorted failed reply).map PlanState.redacted := by
  rw [PlanState.read, PlanState.read, show call.redacted.succeeds = call.succeeds from rfl]
  cases call.succeeds with
  | false => rfl
  | true => cases rows.isPerm stored && sorted <;> rfl

theorem step_redacted (foreignKeys : Bool) (state : PlanState) (call : PlanCall) :
    state.redacted.step foreignKeys call.redacted = (state.step foreignKeys call).map PlanState.redacted := by
  obtain ⟨request, succeeds, built, failure⟩ := call
  have unchanged : ∀ (request : PlanRequest) (statement : Checked PlanStatement) (failed : String) (reply : PlanReply),
      statement = statement.map PlanStatement.redacted →
      some (state.redacted.write foreignKeys ⟨request.redacted, succeeds, built, failure⟩ statement failed reply) =
        (some (state.write foreignKeys ⟨request, succeeds, built, failure⟩ statement failed reply)).map PlanState.redacted := by
    intro request statement failed reply blind
    have written := write_redacted foreignKeys state ⟨request, succeeds, built, failure⟩
      ⟨request.redacted, succeeds, built, failure⟩ statement failed reply rfl rfl
    rw [← blind] at written
    exact congrArg some written
  cases request with
  | groupsGet rows => exact reads_redacted state _ rows _ _ _ _
  | groupsPost body =>
    refine unchanged (.groupsPost body) _ _ _ ?_
    cases body with
    | absent => rfl
    | invalid => rfl
    | fields given =>
      simp only [PlanBody.read, groupsPost]
      cases given.name <;> rfl
  | groupsPut body =>
    refine unchanged (.groupsPut body) _ _ _ ?_
    cases body with
    | absent => rfl
    | invalid => rfl
    | fields given =>
      simp only [PlanBody.read, groupsPut]
      cases given.id <;> cases given.name <;> rfl
  | groupsDelete body =>
    refine unchanged (.groupsDelete body) _ _ _ ?_
    cases body with
    | absent => rfl
    | invalid => rfl
    | fields given =>
      simp only [PlanBody.read, groupsDelete]
      cases given.id <;> rfl
  | targetsGet rows =>
    simp only [PlanState.step, PlanCall.redacted, PlanRequest.redacted]
    rw [show state.redacted.db = state.db.redacted from rfl, joined_redacted]
    exact reads_redacted state ⟨.targetsGet rows, succeeds, built, failure⟩ rows _ _ _ _
  | targetsPost body =>
    simp only [PlanState.step, PlanCall.redacted, PlanRequest.redacted, Option.map_some]
    rw [read_redacted body targetsPost targets_post_redacted]
    exact congrArg some (write_redacted foreignKeys state _ _ _ _ _ rfl rfl)
  | targetsPut body =>
    simp only [PlanState.step, PlanCall.redacted, PlanRequest.redacted, Option.map_some]
    rw [read_redacted body targetsPut targets_put_redacted]
    exact congrArg some (write_redacted foreignKeys state _ _ _ _ _ rfl rfl)
  | targetsDelete body =>
    refine unchanged (.targetsDelete body) _ _ _ ?_
    cases body with
    | absent => rfl
    | invalid => rfl
    | fields given =>
      simp only [PlanBody.read, targetsDelete]
      cases given.id <;> rfl

-- What the requests are told is the same whatever the credentials are, those stored and those
-- sent.
theorem credentials_secret (foreignKeys : Bool) (db other : PlanDb) (calls others : List PlanCall)
    (sameDb : db.redacted = other.redacted) (sameCalls : calls.map PlanCall.redacted = others.map PlanCall.redacted) :
    (Runs.run (PlanState.step foreignKeys) (.start db) calls).map PlanState.replies =
      (Runs.run (PlanState.step foreignKeys) (.start other) others).map PlanState.replies := by
  have hidden : ∀ (db : PlanDb) (calls : List PlanCall),
      (Runs.run (PlanState.step foreignKeys) (.start db) calls).map PlanState.replies =
        (Runs.run (PlanState.step foreignKeys) (.start db.redacted) (calls.map PlanCall.redacted)).map PlanState.replies := by
    intro db calls
    have redacted := Runs.run_map (PlanState.step foreignKeys) (PlanState.step foreignKeys) PlanState.redacted PlanCall.redacted
      (step_redacted foreignKeys) (.start db) calls
    rw [show PlanState.start db.redacted = (PlanState.start db).redacted from rfl, redacted, Option.map_map]
    rfl
  rw [hidden db calls, hidden other others, sameDb, sameCalls]

def rackGroupFields : GroupFields :=
  { id := none, name := some "rack", executionOrder := none, parallel := none, maxTimeoutSec := none, postGroupDelay := none }

def nasFields (credential : Option String) : TargetFields :=
  { id := some 1, groupId := some 1, name := some "nas", method := none, host := some "nas.lan", username := some "root"
    credential := credential, command := some "poweroff", timeoutSec := none, orderInGroup := none, confirmMethod := none
    confirmPort := none, confirmCommand := none, postConfirmDelay := none }

def nasValues : TargetValues := (nasFields none).values 1 "nas" "poweroff" 0

def planCall (request : PlanRequest) : PlanCall := { request := request, succeeds := true, built := true, failure := "" }

-- A target is created with a credential, saved again without one and listed.
def savedCalls (credential : String) : List PlanCall :=
  [planCall (.groupsPost (.fields rackGroupFields)), planCall (.targetsPost (.fields (nasFields credential))),
    planCall (.targetsPut (.fields (nasFields none))),
    planCall (.targetsGet [{ id := 1, values := nasValues, group := "rack", executionOrder := 0 }])]

theorem passwords_secret :
    (Runs.run (PlanState.step true) (.start .empty) (savedCalls "hunter2")).map PlanState.replies =
        (Runs.run (PlanState.step true) (.start .empty) (savedCalls "swordfish")).map PlanState.replies ∧
      (Runs.run (PlanState.step true) (.start .empty) (savedCalls "hunter2")).isSome = true :=
  ⟨credentials_secret true .empty .empty (savedCalls "hunter2") (savedCalls "swordfish") rfl rfl, by decide +kernel⟩

end AiriesUps.Shutdown
