import AiriesUps.Shutdown.WorkflowOrder

set_option autoImplicit false

namespace AiriesUps.Shutdown

open Ups (Config)

def phase1Rows (trace : List TraceEvent) : List StepResult := (rowsOf trace).filter fun row => row.phase = "phase1"

def okRows (rows : List StepResult) : Nat := rows.countP fun row => row.ok == 0

-- What a real run reports of phase 1: a target with an ok row was acted on with
-- success, and the summary counts the ok rows and the targets.
structure Phase1Reported (config : Config) (env : Environment) {tables : Tables} (answers : Answers tables) : Prop where
  truthful : List.Forall₂ (fun entry row => row.ok = 0 → ActionRan (shutdownExecuteEx false config env answers) entry.id)
    (entriesOf answers) (phase1Rows (shutdownExecuteEx false config env answers))
  summary : ∀ severity ok total,
    .worker (.event severity "Phase 1 Complete" (.phase1 ok total)) ∈ shutdownExecuteEx false config env answers →
    ok = okRows (phase1Rows (shutdownExecuteEx false config env answers)) ∧ total = existingTargets tables

def EntryStarted (env : Environment) (entry : Entry) : Prop :=
  TargetStarted entry.group (env.runs entry.position) entry.index

theorem real_phase1_rows (env : Environment) {tables : Tables} (answers : Answers tables) :
    List.Forall₂ (fun entry row =>
        RowOf (phase1 false env answers) entry.group (env.runs entry.position) entry.id entry.target row)
      (entriesOf answers) (rowsOf (phase1 false env answers)) := by
  apply phase1_rows false env answers
    (fun entry row => RowOf (phase1 false env answers) entry.group (env.runs entry.position) entry.id entry.target row)
  intro placed member
  refine (execute_group_executed env placed.1 placed.2 (answers.targets placed.1.id)).rows.imp fun read row rowOf => ?_
  refine row_of_mono _ _ _ _ _ _ _ rowOf fun event emitted => ?_
  exact (phase1_member false env answers event).mpr ⟨placed, member, emitted⟩

theorem phase1_rows_of_workflow (config : Config) (env : Environment) {tables : Tables} (answers : Answers tables) :
    phase1Rows (shutdownExecuteEx false config env answers) = rowsOf (phase1 false env answers) := by
  obtain ⟨ups, controller, rows, upsNamed, controllerNamed⟩ := workflow_rows false config env answers
  have own : ∀ row ∈ rowsOf (phase1 false env answers), row.phase = "phase1" := by
    intro row member
    obtain ⟨entry, _, rowOf⟩ := Aligned.related_right (real_phase1_rows env answers) row member
    exact rowOf.phase
  rw [phase1Rows, rows, List.filter_append, List.filter_eq_self.mpr (by simpa using own)]
  simp [upsNamed.1, controllerNamed.1]

theorem ok_and_failed_rows (rows : List StepResult) :
    okRows rows + failedRows rows = rows.countP fun row => row.ok == 0 || row.ok == 1 := by
  refine (count_disjoint rows (fun row => row.ok == 0) (fun row => row.ok == 1) ?_).symm
  intro row zero
  rw [eq_of_beq zero]
  rfl

-- The subtraction counts the ok rows exactly when no row is skipped.
theorem subtraction_counts_ok (rows : List StepResult) :
    rows.length - failedRows rows = okRows rows ↔ ∀ row ∈ rows, row.ok = 0 ∨ row.ok = 1 := by
  have bounded : failedRows rows ≤ rows.length := List.countP_le_length
  have both := ok_and_failed_rows rows
  have decided : rows.countP (fun row => row.ok == 0 || row.ok == 1) = rows.length ↔
      ∀ row ∈ rows, row.ok = 0 ∨ row.ok = 1 := by
    rw [List.countP_eq_length]
    simp
  rw [← decided, ← both]
  omega

theorem summary_event_member (config : Config) (env : Environment) {tables : Tables} (answers : Answers tables)
    (severity : String) (ok total : Nat) :
    .worker (.event severity "Phase 1 Complete" (.phase1 ok total)) ∈ shutdownExecuteEx false config env answers ↔
      .event severity "Phase 1 Complete" (.phase1 ok total) ∈
        phase1Summary (phase1Total answers) (resultOf (phase1 false env answers)).nFailed := by
  obtain ⟨rest, shape, late, _⟩ := after_phase1 false config env answers
  rw [shape]
  constructor
  · intro member
    rcases List.mem_append.mp member with first | second
    · rcases through_phase1_member false env answers _ first with inside | start | ⟨effect, present, same⟩
      · obtain ⟨placed, _, emitted⟩ := (phase1_member false env answers _).mp inside
        exact (execute_group_events false env placed.1 placed.2 _ _ emitted).elim
      · simp [startEvent] at start
      · cases same
        exact present
    · exact (late _ second).elim
  · exact fun present => List.mem_append_left _ (List.mem_append_right _ (List.mem_map_of_mem present))

theorem summary_right (config : Config) (env : Environment) {tables : Tables} (answers : Answers tables) :
    (∀ severity ok total,
      .worker (.event severity "Phase 1 Complete" (.phase1 ok total)) ∈ shutdownExecuteEx false config env answers →
      ok = okRows (rowsOf (phase1 false env answers)) ∧ total = existingTargets tables) ↔
      ∀ row ∈ rowsOf (phase1 false env answers), row.ok = 0 ∨ row.ok = 1 := by
  have length : (rowsOf (phase1 false env answers)).length = phase1Total answers := by
    rw [← (real_phase1_rows env answers).length_eq, entries_length]
  rw [← subtraction_counts_ok, length, ← result_of_counted]
  simp only [summary_event_member, phase1Summary, phase1_total_existing] at *
  by_cases some : existingTargets tables > 0
  · simp only [if_pos some, List.mem_singleton, Effect.event.injEq, Message.phase1.injEq, true_and]
    constructor
    · intro right
      exact (right _ _ _ ⟨rfl, rfl, rfl⟩).1
    · rintro right severity ok total ⟨_, rfl, rfl⟩
      exact ⟨right, rfl⟩
  · have none : existingTargets tables = 0 := by omega
    have empty := List.length_eq_zero_iff.mp (length.trans none)
    simp [none, empty, okRows]

theorem placed_once {tables : Tables} (answers : Answers tables) (first second : Group × Nat)
    (firstPlaced : first ∈ answers.groups.zipIdx) (secondPlaced : second ∈ answers.groups.zipIdx)
    (same : first.2 = second.2) : first = second := by
  have firstFound := List.mem_zipIdx_iff_getElem?.mp firstPlaced
  have secondFound := List.mem_zipIdx_iff_getElem?.mp secondPlaced
  rw [same] at firstFound
  exact Prod.ext (Option.some.inj (firstFound.symm.trans secondFound)) same

theorem entry_placed {tables : Tables} (answers : Answers tables) (entry : Entry) (member : entry ∈ entriesOf answers) :
    (entry.group, entry.position) ∈ answers.groups.zipIdx := by
  obtain ⟨placed, present, inGroup⟩ := List.mem_flatMap.mp member
  obtain ⟨read, _, rfl⟩ := List.mem_map.mp inGroup
  exact present

theorem action_ran_started (config : Config) (env : Environment) {tables : Tables} (answers : Answers tables)
    (entry : Entry) (member : entry ∈ entriesOf answers)
    (ran : ActionRan (shutdownExecuteEx false config env answers) entry.id) : EntryStarted env entry := by
  obtain ⟨rest, shape, late, _⟩ := after_phase1 false config env answers
  have inPhase1 : ∀ event ∈ shutdownExecuteEx false config env answers, ¬ event.Late →
      (∀ severity title message, event ≠ .worker (.event severity title message)) → event ∈ phase1 false env answers := by
    intro event present early silent
    rw [shape] at present
    rcases List.mem_append.mp present with first | second
    · rcases through_phase1_member false env answers event first with inside | start | ⟨effect, summary, rfl⟩
      · exact inside
      · exact absurd start (silent _ _ _)
      · obtain ⟨_, _, _, rfl⟩ := phase1_summary_effects _ _ effect summary
        exact absurd rfl (silent _ _ _)
    · exact absurd (late event second) early
  have started : ∀ placed ∈ answers.groups.zipIdx, entry.id.group = placed.2 →
      TargetStarted placed.1 (env.runs placed.2) entry.id.index → EntryStarted env entry := by
    intro placed present same begun
    have unique := placed_once answers (entry.group, entry.position) placed (entry_placed answers entry member) present same
    subst unique
    exact begun
  obtain ⟨command, byWorker | byChild⟩ := ran
  · have inside := inPhase1 _ byWorker id nofun
    obtain ⟨placed, present, emitted⟩ := (phase1_member false env answers _).mp inside
    obtain ⟨group, begun⟩ := execute_group_events false env placed.1 placed.2 _ _ emitted
    exact started placed present group begun
  · have inside := inPhase1 _ byChild id nofun
    obtain ⟨placed, present, emitted⟩ := (phase1_member false env answers _).mp inside
    obtain ⟨group, begun, _⟩ := execute_group_events false env placed.1 placed.2 _ _ emitted
    exact started placed present group begun

-- The report of phase 1 is right exactly when every target was started: the row of
-- a failed fork stays ok, and the rows of skipped targets are counted as ok.
theorem phase1_reported_iff_all_started (config : Config) (env : Environment) {tables : Tables} (answers : Answers tables) :
    Phase1Reported config env answers ↔ ∀ entry ∈ entriesOf answers, EntryStarted env entry := by
  have rows := real_phase1_rows env answers
  have named := phase1_rows_of_workflow config env answers
  have included : phase1 false env answers ⊆ shutdownExecuteEx false config env answers := by
    obtain ⟨rest, shape, _⟩ := after_phase1 false config env answers
    rw [shape]
    exact fun event member => List.mem_append_left _ (phase1_in_through false env answers member)
  constructor
  · intro reported entry member
    by_contra unstarted
    have decided : ∀ row ∈ rowsOf (phase1 false env answers), row.ok = 0 ∨ row.ok = 1 := by
      rw [← summary_right config env answers, ← named]
      exact reported.summary
    have truthful := reported.truthful
    rw [named] at truthful
    obtain ⟨row, present, rowOf, honest⟩ := Aligned.related_left (Aligned.related_and rows truthful) entry member
    have ok := rowOf.unstarted unstarted
    by_cases parallel : entry.group.parallel = true
    · rw [if_pos parallel] at ok
      exact unstarted (action_ran_started config env answers entry member (honest ok))
    · rw [if_neg parallel] at ok
      rcases decided row present with zero | one
      · exact absurd (ok.symm.trans zero) (by decide)
      · exact absurd (ok.symm.trans one) (by decide)
  · intro started
    have settled : List.Forall₂ (fun entry row => row.ok = 0 → ActionRan (shutdownExecuteEx false config env answers) entry.id)
        (entriesOf answers) (rowsOf (phase1 false env answers)) := by
      refine (Aligned.related_member rows).imp fun entry row ⟨member, rowOf⟩ ok => ?_
      exact action_ran_mono _ _ entry.id (rowOf.ran (started entry member) ok) included
    have decided : ∀ row ∈ rowsOf (phase1 false env answers), row.ok = 0 ∨ row.ok = 1 := by
      intro row present
      obtain ⟨entry, member, rowOf⟩ := Aligned.related_right rows row present
      exact rowOf.decided (started entry member)
    constructor
    · rw [named]
      exact settled
    · rw [named]
      exact (summary_right config env answers).mpr decided

def refusedForkEnvironment : Environment :=
  { stragglerEnvironment with runs := fun _ => { stragglerRun with forks := fun _ => false } }

def TraceEvent.isAction : TraceEvent → Bool
  | .worker (.action _ _ _) | .child _ (.action _ _ _) => true
  | _ => false

theorem failed_fork_reported_ok : ¬ Phase1Reported .unset refusedForkEnvironment stragglerAnswers := by
  intro reported
  have listed : (⟨stragglerGroup, 0, stragglerTarget, 0⟩ : Entry) ∈ entriesOf stragglerAnswers := by decide +kernel
  obtain ⟨row, present, honest⟩ := Aligned.related_left reported.truthful _ listed
  have ok : ∀ row ∈ phase1Rows (shutdownExecuteEx false .unset refusedForkEnvironment stragglerAnswers), row.ok = 0 := by
    decide +kernel
  have idle : ∀ event ∈ shutdownExecuteEx false .unset refusedForkEnvironment stragglerAnswers, event.isAction = false := by
    decide +kernel
  obtain ⟨command, ran | ran⟩ := honest (ok row present)
  · exact Bool.noConfusion (idle _ ran)
  · exact Bool.noConfusion (idle _ ran)

end AiriesUps.Shutdown
