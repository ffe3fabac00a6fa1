import AiriesUps.Shutdown.WorkflowRows

set_option autoImplicit false

namespace AiriesUps.Shutdown

open Ups (Config)

def Effect.OfPhase2 : Effect → Prop
  | .upsCommand _ _ | .upsWrite _ _ _ | .row _ | .event _ _ (.text _) | .sleep _ => True
  | _ => False

def Effect.OfPhase3 : Effect → Prop
  | .canPoweroff _ | .poweroff _ | .row _ | .event _ _ (.text _) => True
  | _ => False

theorem late_of_phase2 (effect : Effect) (ofPhase : effect.OfPhase2) : (TraceEvent.worker effect).Late := by
  cases effect with
  | event _ _ message => cases message <;> trivial
  | _ => trivial

theorem late_of_phase3 (effect : Effect) (ofPhase : effect.OfPhase3) :
    (TraceEvent.worker effect).Late ∧ ¬ (TraceEvent.worker effect).UpsCall := by
  cases effect with
  | event _ _ message => cases message <;> first | exact ofPhase.elim | exact ⟨trivial, id⟩
  | _ => first | exact ofPhase.elim | exact ⟨trivial, id⟩

-- The shape of the UPS action: at most one call, and one row.
def ActionShape (issued : Prop) (effects : List Effect) : Prop :=
  ∃ calls ok err, effects = calls ++ [upsRow ok err] ∧ (∀ call ∈ calls, (TraceEvent.worker call).UpsCall) ∧
    (calls ≠ [] ↔ issued)

theorem action_shape_row (issued : Prop) (ok : Nat) (err : String) (never : ¬ issued) :
    ActionShape issued [upsRow ok err] :=
  ⟨[], ok, err, rfl, nofun, iff_of_false (fun none => none rfl) never⟩

theorem action_shape_call (issued : Prop) (call : Effect) (ok : Nat) (err : String) (does : issued)
    (isCall : (TraceEvent.worker call).UpsCall) : ActionShape issued [call, upsRow ok err] := by
  refine ⟨[call], ok, err, rfl, ?_, iff_of_true (List.cons_ne_nil _ _) does⟩
  intro other member
  rw [List.mem_singleton.mp member]
  exact isCall

theorem ups_command_action_shape (dryRun : Bool) (env : Environment) :
    ActionShape (dryRun = false ∧ env.shutdownCommand.isSome) (upsCommandAction dryRun env) := by
  rw [upsCommandAction]
  cases env.shutdownCommand with
  | none => exact action_shape_row _ 1 _ fun issued => Bool.noConfusion issued.2
  | some name =>
    cases dryRun with
    | true => exact action_shape_row _ 0 _ fun issued => Bool.noConfusion issued.1
    | false => exact action_shape_call _ _ _ _ ⟨rfl, rfl⟩ trivial

theorem ups_register_action_shape (dryRun : Bool) (config : Config) (env : Environment) :
    ActionShape (dryRun = false ∧ upsRegister config ≠ "" ∧ env.register (upsRegister config) = some true)
      (upsRegisterAction dryRun config env) := by
  rw [upsRegisterAction]
  by_cases unnamed : upsRegister config = ""
  · rw [if_pos unnamed]
    exact action_shape_row _ 1 _ fun issued => issued.2.1 unnamed
  rw [if_neg unnamed]
  cases dryRun with
  | true => exact action_shape_row _ 0 _ fun issued => Bool.noConfusion issued.1
  | false =>
    rw [if_neg Bool.false_ne_true]
    split
    · rename_i found
      exact action_shape_call _ _ _ _ ⟨rfl, unnamed, found⟩ trivial
    · rename_i missing
      exact action_shape_row _ 1 _ fun issued => missing issued.2.2

theorem ups_action_shape (dryRun : Bool) (config : Config) (env : Environment) :
    ActionShape (UpsIssued dryRun config env) (upsAction dryRun config env) := by
  rw [upsAction]
  split
  · rename_i mode
    refine action_shape_row _ 2 _ fun issued => ?_
    rcases issued.2 with ⟨other, _⟩ | ⟨other, _⟩ <;> exact absurd (mode.symm.trans other) (by decide)
  · rename_i mode
    have same : UpsIssued dryRun config env ↔ dryRun = false ∧ env.shutdownCommand.isSome := by
      simp [UpsIssued, mode]
    rw [same]
    exact ups_command_action_shape dryRun env
  · rename_i mode
    have same : UpsIssued dryRun config env ↔
        dryRun = false ∧ upsRegister config ≠ "" ∧ env.register (upsRegister config) = some true := by
      simp [UpsIssued, mode]
    rw [same]
    exact ups_register_action_shape dryRun config env
  · rename_i notCommand notRegister
    refine action_shape_row _ 1 _ fun issued => ?_
    rcases issued.2 with ⟨other, _⟩ | ⟨other, _⟩
    · exact notCommand other
    · exact notRegister other

theorem ups_row_named (ok : Nat) (err : String) :
    (resultRowFill "phase2" "ups" ok err).phase = "phase2" ∧ (resultRowFill "phase2" "ups" ok err).target = "ups" := by
  have fits : snprintf 16 "phase2" = "phase2" ∧ snprintf 96 "ups" = "ups" := by decide
  exact fits

theorem controller_row_named (ok : Nat) (err : String) :
    (resultRowFill "phase3" "controller" ok err).phase = "phase3" ∧
      (resultRowFill "phase3" "controller" ok err).target = "controller" := by
  have fits : snprintf 16 "phase3" = "phase3" ∧ snprintf 96 "controller" = "controller" := by decide
  exact fits

theorem ups_calls_rowless (calls : List Effect) (areCalls : ∀ call ∈ calls, (TraceEvent.worker call).UpsCall) :
    rowsOf (calls.map .worker) = [] := by
  apply rows_of_none
  intro event member
  obtain ⟨call, present, rfl⟩ := List.mem_map.mp member
  have isCall := areCalls call present
  cases call <;> first | rfl | exact isCall.elim

theorem ups_delay_cases (dryRun : Bool) (config : Config) :
    upsDelay dryRun config = [] ∨ ∃ seconds, upsDelay dryRun config = [.sleep seconds] := by
  unfold upsDelay
  simp only
  split
  · exact Or.inr ⟨_, rfl⟩
  · exact Or.inl rfl

theorem phase2_rows (dryRun : Bool) (config : Config) (env : Environment) :
    ∃ row, rowsOf ((phase2 dryRun config env).map .worker) = [row] ∧ row.phase = "phase2" ∧ row.target = "ups" := by
  obtain ⟨calls, ok, err, shape, areCalls, _⟩ := ups_action_shape dryRun config env
  refine ⟨resultRowFill "phase2" "ups" ok err, ?_, ups_row_named ok err⟩
  simp only [phase2, shape, List.map_append, rows_of_append, ups_calls_rowless calls areCalls]
  rcases ups_delay_cases dryRun config with none | ⟨seconds, some⟩
  · rw [none]
    rfl
  · rw [some]
    rfl

theorem phase2_effects (dryRun : Bool) (config : Config) (env : Environment) :
    ∀ effect ∈ phase2 dryRun config env, effect.OfPhase2 ∧
      ((TraceEvent.worker effect).UpsCall → UpsIssued dryRun config env) := by
  obtain ⟨calls, ok, err, shape, areCalls, issued⟩ := ups_action_shape dryRun config env
  intro effect member
  simp only [phase2, shape] at member
  rcases List.mem_append.mp member with action | delay
  · rcases List.mem_append.mp action with call | row
    · simp only [List.mem_append, List.mem_singleton] at call
      rcases call with called | rfl
      · have isCall := areCalls effect called
        refine ⟨?_, fun _ => issued.mp (List.ne_nil_of_mem called)⟩
        cases effect <;> trivial
      · exact ⟨trivial, False.elim⟩
    · rw [List.mem_singleton.mp row]
      exact ⟨trivial, False.elim⟩
  · rcases ups_delay_cases dryRun config with none | ⟨seconds, some⟩
    · rw [none] at delay
      cases delay
    · rw [some] at delay
      rw [List.mem_singleton.mp delay]
      exact ⟨trivial, False.elim⟩

theorem phase2_calls (dryRun : Bool) (config : Config) (env : Environment) (does : UpsIssued dryRun config env) :
    ∃ call rest, phase2 dryRun config env = call :: rest ∧ (TraceEvent.worker call).UpsCall := by
  obtain ⟨calls, ok, err, shape, areCalls, issued⟩ := ups_action_shape dryRun config env
  obtain ⟨call, others, rfl⟩ := List.exists_cons_of_ne_nil (issued.mpr does)
  have isCall := areCalls call (List.mem_cons_self ..)
  simp only [phase2, shape, List.cons_append]
  exact ⟨call, _, rfl, isCall⟩

theorem phase3_rows (dryRun : Bool) (config : Config) (env : Environment) :
    ∃ row, rowsOf ((phase3 dryRun config env).map .worker) = [row] ∧ row.phase = "phase3" ∧ row.target = "controller" := by
  rw [phase3]
  split
  · exact ⟨_, rfl, controller_row_named 2 ""⟩
  split
  · split
    · split
      · exact ⟨_, rfl, controller_row_named 0 ""⟩
      · exact ⟨_, rfl, controller_row_named 1 _⟩
    · split
      · exact ⟨_, rfl, controller_row_named 1 _⟩
      · exact ⟨_, rfl, controller_row_named 0 ""⟩
  · exact ⟨_, rfl, controller_row_named 2 ""⟩

theorem phase3_effects (dryRun : Bool) (config : Config) (env : Environment) :
    ∀ effect ∈ phase3 dryRun config env, effect.OfPhase3 := by
  rw [phase3]
  split
  · simp [controllerRow, Effect.OfPhase3]
  split
  · split
    · split <;> simp [controllerRow, Effect.OfPhase3]
    · split <;> simp [controllerRow, Effect.OfPhase3]
  · simp [controllerRow, Effect.OfPhase3]

theorem terminal_event_effects (dryRun : Bool) (config : Config) (env : Environment) (failed : Nat) :
    ∀ effect ∈ terminalEvent dryRun config env failed, effect.OfPhase3 ∧
      ∃ severity title message, effect = .event severity title message := by
  by_cases taken : poweroffIssued dryRun config env = true ∧ env.poweroffRc = 0
  · simp only [terminalEvent, if_pos taken]
    exact fun _ member => absurd member List.not_mem_nil
  · simp only [terminalEvent, if_neg taken, List.mem_singleton]
    rintro _ rfl
    exact ⟨trivial, _, _, _, rfl⟩

theorem phase1_summary_effects (total failed : Nat) :
    ∀ effect ∈ phase1Summary total failed, ∃ severity title message, effect = .event severity title message := by
  rw [phase1Summary]
  split
  · intro effect member
    exact ⟨_, _, _, List.mem_singleton.mp member⟩
  · exact fun _ member => absurd member List.not_mem_nil

theorem events_rowless (effects : List Effect)
    (events : ∀ effect ∈ effects, ∃ severity title message, effect = .event severity title message) :
    rowsOf (effects.map .worker) = [] := by
  apply rows_of_none
  intro event member
  obtain ⟨effect, present, rfl⟩ := List.mem_map.mp member
  obtain ⟨severity, title, message, rfl⟩ := events effect present
  rfl

theorem phase1_member (dryRun : Bool) (env : Environment) {tables : Tables} (answers : Answers tables) (event : TraceEvent) :
    event ∈ phase1 dryRun env answers ↔
      ∃ placed ∈ answers.groups.zipIdx, event ∈ executeGroup dryRun env placed.1 placed.2 (answers.targets placed.1.id) :=
  List.mem_flatMap

theorem phase1_rows {tables : Tables} (dryRun : Bool) (env : Environment) (answers : Answers tables)
    (Related : Entry → StepResult → Prop)
    (inGroup : ∀ placed ∈ answers.groups.zipIdx,
      List.Forall₂ (fun read row => Related { group := placed.1, position := placed.2, target := read.1, index := read.2 } row)
        (answers.targets placed.1.id).zipIdx
        (rowsOf (executeGroup dryRun env placed.1 placed.2 (answers.targets placed.1.id)))) :
    List.Forall₂ Related (entriesOf answers) (rowsOf (phase1 dryRun env answers)) := by
  unfold entriesOf phase1
  generalize answers.groups.zipIdx = placements at inGroup ⊢
  induction placements with
  | nil => exact List.Forall₂.nil
  | cons placed rest ih =>
    rw [List.flatMap_cons, List.flatMap_cons, rows_of_append]
    apply List.rel_append
    · rw [List.forall₂_map_left_iff]
      exact inGroup placed (List.mem_cons_self ..)
    · exact ih fun other member => inGroup other (List.mem_cons_of_mem _ member)

theorem workflow_rows (dryRun : Bool) (config : Config) (env : Environment) {tables : Tables} (answers : Answers tables) :
    ∃ ups controller, rowsOf (shutdownExecuteEx dryRun config env answers) =
        rowsOf (phase1 dryRun env answers) ++ [ups, controller] ∧
      (ups.phase = "phase2" ∧ ups.target = "ups") ∧ (controller.phase = "phase3" ∧ controller.target = "controller") := by
  obtain ⟨ups, upsRows, upsNamed⟩ := phase2_rows dryRun config env
  obtain ⟨controller, controllerRows, controllerNamed⟩ := phase3_rows dryRun config env
  refine ⟨ups, controller, ?_, upsNamed, controllerNamed⟩
  have start : rowsOf [.worker (startEvent dryRun)] = [] := rfl
  simp only [shutdownExecuteEx, throughPhase2, throughPhase1, rows_of_append, start, upsRows, controllerRows,
    events_rowless _ (phase1_summary_effects _ _), events_rowless _ fun effect member => (terminal_event_effects dryRun config env _ effect member).2,
    List.nil_append, List.append_nil, List.append_assoc]
  rfl

theorem count_disjoint {α : Type} (items : List α) (first second : α → Bool)
    (disjoint : ∀ item, first item = true → second item = false) :
    items.countP (fun item => first item || second item) = items.countP first + items.countP second := by
  induction items with
  | nil => rfl
  | cons item rest ih =>
    simp only [List.countP_cons, ih]
    cases isFirst : first item with
    | true => simp [disjoint item isFirst]; omega
    | false => simp; omega

theorem count_by_group (targets : List Target) (ids : List Nat) (unique : ids.Nodup) :
    (ids.map fun id => targets.countP fun target => target.groupId = id).sum =
      targets.countP fun target => target.groupId ∈ ids := by
  induction ids with
  | nil => simp
  | cons id rest ih =>
    obtain ⟨fresh, restUnique⟩ := List.nodup_cons.mp unique
    have split := count_disjoint targets (fun target => target.groupId = id) (fun target => target.groupId ∈ rest)
      (fun target same => by
        have isId : target.groupId = id := of_decide_eq_true same
        simp [isId, fresh])
    rw [List.map_cons, List.sum_cons, ih restUnique, ← split]
    congr 1
    funext target
    simp [List.mem_cons]

theorem phase1_total_existing {tables : Tables} (answers : Answers tables) :
    phase1Total answers = existingTargets tables := by
  have reads : ∀ id, (answers.targets id).length = tables.targets.countP fun target => target.groupId = id := by
    intro id
    rw [(answers.targetsSelected id).length_eq, List.countP_eq_length_filter]
  have grouped : phase1Total answers =
      (answers.groups.map fun group => tables.targets.countP fun target => target.groupId = group.id).sum := by
    simp only [phase1Total, reads]
  rw [grouped, (answers.groupsSelected.map _).sum_eq, existingTargets, ← count_by_group _ _ tables.unique, List.map_map]
  rfl

theorem entries_length {tables : Tables} (answers : Answers tables) :
    (entriesOf answers).length = phase1Total answers := by
  have total : ∀ placements : List (Group × Nat),
      (placements.flatMap fun placed => (answers.targets placed.1.id).zipIdx.map fun read =>
        ({ group := placed.1, position := placed.2, target := read.1, index := read.2 } : Entry)).length =
      ((placements.map Prod.fst).map fun group => (answers.targets group.id).length).sum := by
    intro placements
    induction placements with
    | nil => rfl
    | cons placed rest ih => simp [List.flatMap_cons, ih]
  rw [entriesOf, total, List.zipIdx_map_fst, phase1Total]

theorem split_after (Kind : TraceEvent → Prop) (first rest before after : List TraceEvent) (event : TraceEvent)
    (split : first ++ rest = before ++ event :: after) (none : ∀ other ∈ first, ¬ Kind other) (kind : Kind event) :
    ∃ middle, before = first ++ middle ∧ rest = middle ++ event :: after := by
  rcases List.append_eq_append_iff.mp split with ⟨middle, same, rest⟩ | ⟨middle, same, rest⟩
  · exact ⟨middle, same, rest⟩
  · cases middle with
    | nil => exact ⟨[], by simpa using same.symm, by simpa using rest.symm⟩
    | cons other others =>
      obtain ⟨rfl, _⟩ := List.cons.inj rest
      exact absurd kind (none event (by rw [same]; exact List.mem_append_right _ (List.mem_cons_self ..)))

theorem event_effect_no_call (effect : Effect)
    (isEvent : ∃ severity title message, effect = .event severity title message) :
    ¬ (TraceEvent.worker effect).UpsCall ∧ ∀ rc, TraceEvent.worker effect ≠ .worker (.poweroff rc) := by
  obtain ⟨severity, title, message, rfl⟩ := isEvent
  exact ⟨id, nofun⟩

theorem through_phase1_events (dryRun : Bool) (env : Environment) {tables : Tables} (answers : Answers tables) :
    ∀ event ∈ throughPhase1 dryRun env answers, ¬ event.UpsCall ∧ ∀ rc, event ≠ .worker (.poweroff rc) := by
  intro event member
  rcases List.mem_append.mp member with early | summary
  · rcases List.mem_append.mp early with start | inPhase
    · rw [List.mem_singleton.mp start]
      exact event_effect_no_call _ ⟨_, _, _, rfl⟩
    · obtain ⟨placed, _, emitted⟩ := (phase1_member dryRun env answers event).mp inPhase
      have ofGroup := execute_group_events dryRun env placed.1 placed.2 _ event emitted
      constructor
      · intro isCall
        cases event with
        | worker effect => cases effect <;> first | exact isCall.elim | exact ofGroup.elim
        | _ => exact isCall.elim
      · rintro rc rfl
        exact ofGroup.elim
  · obtain ⟨effect, present, rfl⟩ := List.mem_map.mp summary
    exact event_effect_no_call effect (phase1_summary_effects _ _ effect present)

theorem after_phase1 (dryRun : Bool) (config : Config) (env : Environment) {tables : Tables} (answers : Answers tables) :
    ∃ rest, shutdownExecuteEx dryRun config env answers = throughPhase1 dryRun env answers ++
        ((phase2 dryRun config env).map .worker ++ rest) ∧
      (∀ event ∈ (phase2 dryRun config env).map TraceEvent.worker ++ rest, event.Late) ∧
      ∀ event ∈ rest, ¬ event.UpsCall := by
  refine ⟨(phase3 dryRun config env).map .worker ++ (terminalEvent dryRun config env
    (resultOf (throughPhase2 dryRun config env answers ++ (phase3 dryRun config env).map .worker)).nFailed).map .worker,
    ?_, ?_, ?_⟩
  · simp only [shutdownExecuteEx, throughPhase2, List.append_assoc]
  · intro event member
    simp only [List.mem_append, List.mem_map] at member
    rcases member with ⟨effect, present, rfl⟩ | ⟨effect, present, rfl⟩ | ⟨effect, present, rfl⟩
    · exact late_of_phase2 effect (phase2_effects dryRun config env effect present).1
    · exact (late_of_phase3 effect (phase3_effects dryRun config env effect present)).1
    · exact (late_of_phase3 effect (terminal_event_effects _ _ _ _ effect present).1).1
  · intro event member
    simp only [List.mem_append, List.mem_map] at member
    rcases member with ⟨effect, present, rfl⟩ | ⟨effect, present, rfl⟩
    · exact (late_of_phase3 effect (phase3_effects dryRun config env effect present)).2
    · exact (late_of_phase3 effect (terminal_event_effects _ _ _ _ effect present).1).2

theorem late_worker (event : TraceEvent) (late : event.Late) : ∃ effect, event = .worker effect := by
  cases event with
  | worker effect => exact ⟨effect, rfl⟩
  | _ => exact late.elim

theorem through_phase1_member (dryRun : Bool) (env : Environment) {tables : Tables} (answers : Answers tables)
    (event : TraceEvent) (member : event ∈ throughPhase1 dryRun env answers) :
    event ∈ phase1 dryRun env answers ∨ event = .worker (startEvent dryRun) ∨
      ∃ effect ∈ phase1Summary (phase1Total answers) (resultOf (phase1 dryRun env answers)).nFailed, event = .worker effect := by
  rcases List.mem_append.mp member with early | summary
  · rcases List.mem_append.mp early with start | inPhase
    · exact Or.inr (Or.inl (List.mem_singleton.mp start))
    · exact Or.inl inPhase
  · obtain ⟨effect, present, same⟩ := List.mem_map.mp summary
    exact Or.inr (Or.inr ⟨effect, present, same.symm⟩)

theorem phase1_in_through (dryRun : Bool) (env : Environment) {tables : Tables} (answers : Answers tables) :
    phase1 dryRun env answers ⊆ throughPhase1 dryRun env answers :=
  fun _ member => List.mem_append_left _ (List.mem_append_right _ member)

theorem phase1_children_ended (dryRun : Bool) (env : Environment) {tables : Tables} (answers : Answers tables) (pid : TargetId)
    (forked : .forked pid ∈ phase1 dryRun env answers) : ∃ status, .ended pid status ∈ phase1 dryRun env answers := by
  obtain ⟨placed, present, emitted⟩ := (phase1_member dryRun env answers _).mp forked
  obtain ⟨status, ended⟩ := execute_group_ended dryRun env placed.1 placed.2 _ pid emitted
  exact ⟨status, (phase1_member dryRun env answers _).mpr ⟨placed, present, ended⟩⟩

theorem phase1_orphanless (env : Environment) {tables : Tables} (answers : Answers tables) :
    Orphanless (phase1 false env answers) ↔ ∀ placed ∈ answers.groups.zipIdx,
      GroupClean placed.1 placed.2 (env.runs placed.2) (answers.targets placed.1.id) := by
  have grouped : Orphanless (phase1 false env answers) ↔ ∀ placed ∈ answers.groups.zipIdx,
      Orphanless (executeGroup false env placed.1 placed.2 (answers.targets placed.1.id)) := by
    simp only [Orphanless, phase1_member, not_exists, not_and]
    constructor
    · exact fun none placed present pid shell => none pid shell placed present
    · exact fun none pid shell placed present => none placed present pid shell
  rw [grouped]
  exact forall₂_congr fun placed _ => execute_group_orphanless env placed.1 placed.2 (answers.targets placed.1.id)

-- A prefix of the trace that reaches past phase 1 has every child ended, and has
-- just the orphans of phase 1.
theorem phase1_over (dryRun : Bool) (env : Environment) {tables : Tables} (answers : Answers tables)
    (middle after : List TraceEvent) (lateMiddle : ∀ event ∈ middle, event.Late) (lateAfter : ∀ event ∈ after, event.Late) :
    Phase1Over (throughPhase1 dryRun env answers ++ middle) after ↔ Orphanless (phase1 dryRun env answers) := by
  have inPhase1 : ∀ event ∈ throughPhase1 dryRun env answers ++ middle,
      event ∈ phase1 dryRun env answers ∨ ∃ effect, event = .worker effect := by
    intro event member
    rcases List.mem_append.mp member with first | second
    · rcases through_phase1_member dryRun env answers event first with inside | start | ⟨effect, _, summary⟩
      · exact Or.inl inside
      · exact Or.inr ⟨_, start⟩
      · exact Or.inr ⟨effect, summary⟩
    · exact Or.inr (late_worker event (lateMiddle event second))
  have included : phase1 dryRun env answers ⊆ throughPhase1 dryRun env answers ++ middle := fun event member =>
    List.mem_append_left _ (phase1_in_through dryRun env answers member)
  constructor
  · exact fun ended pid shell member => ended.orphanless pid shell (included member)
  · intro orphanless
    refine ⟨?_, ?_, lateAfter⟩
    · intro pid member
      rcases inPhase1 _ member with forked | ⟨_, same⟩
      · obtain ⟨status, ended⟩ := phase1_children_ended dryRun env answers pid forked
        exact ⟨status, included ended⟩
      · cases same
    · intro pid shell member
      rcases inPhase1 _ member with orphaned | ⟨_, same⟩
      · exact orphanless pid shell orphaned
      · cases same

theorem poweroff_after_phase2 (dryRun : Bool) (config : Config) (env : Environment) {tables : Tables}
    (answers : Answers tables) (before after : List TraceEvent) (rc : Int)
    (split : shutdownExecuteEx dryRun config env answers = before ++ .worker (.poweroff rc) :: after) :
    throughPhase2 dryRun config env answers <+: before := by
  rw [shutdownExecuteEx, List.append_assoc] at split
  obtain ⟨middle, same, _⟩ := split_after (fun event => ∃ rc, event = .worker (.poweroff rc)) _ _ before after _ split
    (by
      rintro event member ⟨rc, rfl⟩
      rcases List.mem_append.mp member with early | inPhase2
      · exact (through_phase1_events dryRun env answers _ early).2 rc rfl
      · obtain ⟨effect, present, isPoweroff⟩ := List.mem_map.mp inPhase2
        have ofPhase := (phase2_effects dryRun config env effect present).1
        cases isPoweroff
        exact ofPhase)
    ⟨rc, rfl⟩
  exact ⟨middle, same.symm⟩

theorem ups_call_after_phase1 (dryRun : Bool) (config : Config) (env : Environment) {tables : Tables}
    (answers : Answers tables) :
    (∀ before event after, shutdownExecuteEx dryRun config env answers = before ++ event :: after →
        event.UpsCall → Phase1Over before after) ↔
      (UpsIssued dryRun config env → Orphanless (phase1 dryRun env answers)) := by
  obtain ⟨rest, shape, late, noCall⟩ := after_phase1 dryRun config env answers
  constructor
  · intro ended does
    obtain ⟨call, others, phase, isCall⟩ := phase2_calls dryRun config env does
    rw [phase, List.map_cons, List.cons_append] at shape
    have atCall := ended _ (.worker call) _ shape isCall
    intro pid shell member
    exact atCall.orphanless pid shell (phase1_in_through dryRun env answers member)
  · intro orphanless before event after split isCall
    rw [shape] at split
    obtain ⟨middle, rfl, later⟩ := split_after TraceEvent.UpsCall _ _ before after event split
      (fun other member => (through_phase1_events dryRun env answers other member).1) isCall
    have lateMiddle : ∀ other ∈ middle, other.Late := fun other member =>
      late other (by rw [later]; exact List.mem_append_left _ member)
    have lateAfter : ∀ other ∈ after, other.Late := fun other member =>
      late other (by rw [later]; exact List.mem_append_right _ (List.mem_cons_of_mem _ member))
    have inRest : event ∈ (phase2 dryRun config env).map TraceEvent.worker ++ rest := by
      rw [later]
      exact List.mem_append_right _ (List.mem_cons_self ..)
    have issued : UpsIssued dryRun config env := by
      rcases List.mem_append.mp inRest with inPhase2 | elsewhere
      · obtain ⟨effect, present, rfl⟩ := List.mem_map.mp inPhase2
        exact (phase2_effects dryRun config env effect present).2 isCall
      · exact absurd isCall (noCall event elsewhere)
    exact (phase1_over dryRun env answers middle after lateMiddle lateAfter).mpr (orphanless issued)

-- The rows are in order in every run. The UPS action waits for every process of
-- phase 1 exactly when no signal leaves a shell of a child running.
theorem workflow_disciplined (dryRun : Bool) (config : Config) (env : Environment) {tables : Tables}
    (answers : Answers tables) :
    Disciplined dryRun config env answers ↔
      (UpsIssued dryRun config env → ∀ placed ∈ answers.groups.zipIdx,
        GroupClean placed.1 placed.2 (env.runs placed.2) (answers.targets placed.1.id)) := by
  have order := ups_call_after_phase1 dryRun config env answers
  have clean : (UpsIssued dryRun config env → Orphanless (phase1 dryRun env answers)) ↔
      (UpsIssued dryRun config env → ∀ placed ∈ answers.groups.zipIdx,
        GroupClean placed.1 placed.2 (env.runs placed.2) (answers.targets placed.1.id)) := by
    refine imp_congr_right fun does => ?_
    rw [does.1]
    exact phase1_orphanless env answers
  rw [← clean, ← order]
  constructor
  · exact fun disciplined => disciplined.ups
  · intro ups
    obtain ⟨upsRow, controllerRow, rows, upsNamed, controllerNamed⟩ := workflow_rows dryRun config env answers
    have targetRows := phase1_rows dryRun env answers
      (fun entry row => row.phase = "phase1" ∧ row.target = stepTarget entry.group entry.target.name)
      fun placed _ => execute_group_named dryRun env placed.1 placed.2 (answers.targets placed.1.id)
    refine ⟨?_, ?_, ?_, ups, fun before rc after => poweroff_after_phase2 dryRun config env answers before after rc⟩
    · rw [result_of_steps, rows]
      exact ⟨_, upsRow, controllerRow, rfl, targetRows, upsNamed, controllerNamed⟩
    · rw [result_of_steps, rows, List.length_append, ← targetRows.length_eq, entries_length, phase1_total_existing]
      rfl
    · rw [result_of_counted, result_of_steps]

-- A straggler of a parallel group is in the shell of its action when the ceiling of
-- one second comes: the SIGTERM ends the child, and the shell is still running when
-- the UPS command goes out.
def stragglerGroup : Group :=
  { id := 1, name := "slow", executionOrder := 1, parallel := true, maxTimeoutSec := 1, postGroupDelay := 0 }

def stragglerTarget : Target :=
  { groupId := 1, orderInGroup := 0, name := "slow", method := "command", host := "", username := "", credential := ""
    command := "sleep 5", timeoutSec := 180, confirmMethod := "none", confirmPort := 0, confirmCommand := ""
    postConfirmDelay := 0 }

def stragglerTables : Tables := { groups := [stragglerGroup], targets := [stragglerTarget], unique := by decide }

def stragglerAnswers : Answers stragglerTables :=
  { groups := [stragglerGroup]
    targets := fun id => [stragglerTarget].filter fun target => target.groupId = id
    groupsSelected := List.Perm.refl _
    groupsOrdered := List.pairwise_singleton _ _
    targetsSelected := fun _ => List.Perm.refl _
    targetsOrdered := fun _ => (List.pairwise_singleton _ stragglerTarget).filter _ }

def stragglerRun : GroupRun :=
  { start := 100, now := fun _ => 100
    cycles := fun _ => { keyPath := none, actionRc := 0, confirmStart := 0, stillUp := [], error := "" }
    forks := fun _ => true, polls := [{ schedule := [], waitFails := [], now := 101 }], reap := []
    sigtermKills := true, outlives := fun _ => true }

def stragglerEnvironment : Environment :=
  { runs := fun _ => stragglerRun, probes := fun _ _ => 0, shutdownCommand := some "shutdown", commandRc := 0
    register := fun _ => none, writeRc := 0, upsError := "", dockerBuild := false, canPoweroffRc := 0, poweroffRc := 0
    elapsed := 1 }

theorem straggler_shell_outlives_phase1 :
    ¬ Disciplined false .unset stragglerEnvironment stragglerAnswers := by
  intro disciplined
  have ended := disciplined.ups
    ((shutdownExecuteEx false .unset stragglerEnvironment stragglerAnswers).take 9)
    (.worker (.upsCommand "shutdown" 0))
    ((shutdownExecuteEx false .unset stragglerEnvironment stragglerAnswers).drop 10)
    (by decide +kernel) trivial
  exact ended.orphanless { group := 0, index := 0 } (.action { group := 0, index := 0 } "sleep 5" 0) (by decide +kernel)

end AiriesUps.Shutdown
