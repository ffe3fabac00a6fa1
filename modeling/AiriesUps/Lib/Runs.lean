import Mathlib.Data.List.Induction

set_option autoImplicit false

namespace Runs

-- A labelled transition system is its partial step function: `step state label`
-- is none where the label is not enabled. Runs are lists of labels, so a run is
-- data that can be evaluated, and every interleaving of threads is one list.
abbrev Step (State Label : Type) := State → Label → Option State

def run {State Label : Type} (step : Step State Label) : State → List Label → Option State
  | state, [] => some state
  | state, label :: rest =>
    match step state label with
    | some next => run step next rest
    | none => none

-- Every step of the run is taken from a state in which the guard admits it.
def Admitted {State Label : Type} (step : Step State Label) (guard : State → Label → Prop) :
    State → List Label → Prop
  | _, [] => True
  | state, label :: rest =>
    guard state label ∧
      match step state label with
      | some next => Admitted step guard next rest
      | none => True

instance decidableAdmitted {State Label : Type} (step : Step State Label) (guard : State → Label → Prop)
    [∀ state label, Decidable (guard state label)] :
    ∀ state labels, Decidable (Admitted step guard state labels)
  | _, [] => inferInstanceAs (Decidable True)
  | state, label :: rest =>
    match next : step state label with
    | some after =>
      have : Decidable (Admitted step guard after rest) := decidableAdmitted step guard after rest
      decidable_of_iff (guard state label ∧ Admitted step guard after rest) (by simp only [Admitted, next])
    | none => decidable_of_iff (guard state label) (by simp only [Admitted, next, and_true])

@[simp] theorem run_nil {State Label : Type} (step : Step State Label) (state : State) :
    run step state [] = some state := rfl

theorem run_cons {State Label : Type} (step : Step State Label) (state : State) (label : Label) (rest : List Label) :
    run step state (label :: rest) = (step state label).bind fun next => run step next rest := by
  cases next : step state label with
  | none => simp only [run, next, Option.bind_none]
  | some after => simp only [run, next, Option.bind_some]

theorem run_append {State Label : Type} (step : Step State Label) (state : State) (before after : List Label) :
    run step state (before ++ after) = (run step state before).bind fun middle => run step middle after := by
  induction before generalizing state with
  | nil => rfl
  | cons label rest ih =>
    rw [List.cons_append, run_cons, run_cons]
    cases step state label with
    | none => rfl
    | some next => exact ih next

theorem run_concat {State Label : Type} (step : Step State Label) (state final : State)
    (before : List Label) (label : Label) :
    run step state (before ++ [label]) = some final ↔
      ∃ middle, run step state before = some middle ∧ step middle label = some final := by
  simp only [run_append, Option.bind_eq_some_iff, run_cons, run_nil]
  simp only [Option.some.injEq, exists_eq_right]

-- What forgets part of the state and of the labels, and is forgotten again after the step,
-- forgets along a whole run.
theorem run_map {State Label Coarse Act : Type} (step : Step State Label) (view : Step Coarse Act) (forget : State → Coarse)
    (erase : Label → Act) (commutes : ∀ state label, view (forget state) (erase label) = (step state label).map forget)
    (state : State) (labels : List Label) :
    run view (forget state) (labels.map erase) = (run step state labels).map forget := by
  induction labels generalizing state with
  | nil => rfl
  | cons label rest ih =>
    rw [List.map_cons, run_cons, run_cons, commutes]
    cases step state label with
    | none => rfl
    | some next => exact ih next

-- One part of an interleaved system runs by the labels that are its own.
theorem run_project {State Label Part Act : Type} (step : Step State Label) (view : Step Part Act) (part : State → Part)
    (own : Label → Option Act)
    (follows : ∀ state label next act, own label = some act → step state label = some next →
      view (part state) act = some (part next))
    (stays : ∀ state label next, own label = none → step state label = some next → part next = part state)
    (labels : List Label) (state final : State) (reached : run step state labels = some final) :
    run view (part state) (labels.filterMap own) = some (part final) := by
  induction labels generalizing state with
  | nil =>
    rw [run_nil, Option.some.injEq] at reached
    rw [List.filterMap_nil, run_nil, reached]
  | cons label rest ih =>
    rw [run_cons, Option.bind_eq_some_iff] at reached
    obtain ⟨next, taken, later⟩ := reached
    cases mine : own label with
    | none => rw [List.filterMap_cons_none mine, ← stays state label next mine taken, ih next later]
    | some act =>
      rw [List.filterMap_cons_some mine, run_cons, follows state label next act mine taken, Option.bind_some, ih next later]

theorem admitted_project {State Label Part Act : Type} (step : Step State Label) (view : Step Part Act) (part : State → Part)
    (own : Label → Option Act) (guard : State → Label → Prop) (viewed : Part → Act → Prop)
    (follows : ∀ state label next act, own label = some act → step state label = some next →
      view (part state) act = some (part next))
    (stays : ∀ state label next, own label = none → step state label = some next → part next = part state)
    (guarded : ∀ state label act, own label = some act → guard state label → viewed (part state) act)
    (labels : List Label) (state final : State) (reached : run step state labels = some final)
    (admitted : Admitted step guard state labels) : Admitted view viewed (part state) (labels.filterMap own) := by
  induction labels generalizing state with
  | nil => trivial
  | cons label rest ih =>
    rw [run_cons, Option.bind_eq_some_iff] at reached
    obtain ⟨next, taken, later⟩ := reached
    obtain ⟨here, further⟩ := admitted
    rw [taken] at further
    cases mine : own label with
    | none =>
      rw [List.filterMap_cons_none mine, ← stays state label next mine taken]
      exact ih next later further
    | some act =>
      rw [List.filterMap_cons_some mine]
      refine ⟨guarded state label act mine here, ?_⟩
      rw [follows state label next act mine taken]
      exact ih next later further

theorem admitted_append {State Label : Type} (step : Step State Label) (guard : State → Label → Prop)
    (state : State) (before after : List Label) :
    Admitted step guard state (before ++ after) ↔
      Admitted step guard state before ∧
        ∀ middle, run step state before = some middle → Admitted step guard middle after := by
  induction before generalizing state with
  | nil => simp only [List.nil_append, Admitted, run_nil, Option.some.injEq, forall_eq', true_and]
  | cons label rest ih =>
    cases next : step state label with
    | none =>
      simp only [List.cons_append, Admitted, next, run_cons, Option.bind_none, reduceCtorEq,
        IsEmpty.forall_iff, implies_true, and_true]
    | some after =>
      simp only [List.cons_append, Admitted, next, run_cons, Option.bind_some, ih after, and_assoc]

theorem admitted_concat {State Label : Type} (step : Step State Label) (guard : State → Label → Prop)
    (state : State) (before : List Label) (label : Label) :
    Admitted step guard state (before ++ [label]) ↔
      Admitted step guard state before ∧
        ∀ middle, run step state before = some middle → guard middle label := by
  rw [admitted_append]
  apply and_congr_right
  intro _
  apply forall_congr'
  intro middle
  apply imp_congr_right
  intro _
  cases next : step middle label <;> simp only [Admitted, next, and_true]

theorem admitted_of_forall {State Label : Type} (step : Step State Label) (guard : State → Label → Prop)
    (state : State) (labels : List Label) (every : ∀ state, ∀ label ∈ labels, guard state label) :
    Admitted step guard state labels := by
  induction labels generalizing state with
  | nil => trivial
  | cons label rest ih =>
    refine ⟨every state label List.mem_cons_self, ?_⟩
    cases step state label with
    | none => trivial
    | some next => exact ih next fun state label member => every state label (List.mem_cons_of_mem _ member)

theorem admitted_congr {State Label : Type} (step : Step State Label) (guard other : State → Label → Prop)
    (same : ∀ state label, guard state label ↔ other state label) (state : State) (labels : List Label) :
    Admitted step guard state labels ↔ Admitted step other state labels := by
  induction labels generalizing state with
  | nil => rfl
  | cons label rest ih =>
    cases next : step state label with
    | none => simp only [Admitted, next, same]
    | some after => simp only [Admitted, next, same, ih after]

-- The induction over runs, said once. The invariant may speak of the labels
-- already taken, which is how a property of a whole history is carried.
theorem history_invariant {State Label : Type} (step : Step State Label) (guard : State → Label → Prop)
    (start : State) (Inv : List Label → State → Prop) (base : Inv [] start)
    (preserve : ∀ past state label next, Inv past state → guard state label →
      step state label = some next → Inv (past ++ [label]) next)
    (labels : List Label) (final : State)
    (reached : run step start labels = some final) (admitted : Admitted step guard start labels) :
    Inv labels final := by
  induction labels using List.reverseRecOn generalizing final with
  | nil =>
    rw [run_nil, Option.some.injEq] at reached
    exact reached ▸ base
  | append_singleton before label ih =>
    obtain ⟨middle, reachedMiddle, last⟩ := (run_concat step start final before label).mp reached
    obtain ⟨admittedBefore, admittedLast⟩ := (admitted_concat step guard start before label).mp admitted
    exact preserve before middle label final (ih middle reachedMiddle admittedBefore)
      (admittedLast middle reachedMiddle) last

theorem guarded_invariant {State Label : Type} (step : Step State Label) (guard : State → Label → Prop)
    (start : State) (Inv : State → Prop) (base : Inv start)
    (preserve : ∀ state label next, Inv state → guard state label → step state label = some next → Inv next)
    (labels : List Label) (final : State)
    (reached : run step start labels = some final) (admitted : Admitted step guard start labels) :
    Inv final :=
  history_invariant step guard start (fun _ state => Inv state) base
    (fun _ state label next inv allowed taken => preserve state label next inv allowed taken)
    labels final reached admitted

theorem admitted_always {State Label : Type} (step : Step State Label) (state : State) (labels : List Label) :
    Admitted step (fun _ _ => True) state labels :=
  admitted_of_forall step _ state labels fun _ _ _ => trivial

theorem run_invariant {State Label : Type} (step : Step State Label) (start : State)
    (Inv : List Label → State → Prop) (base : Inv [] start)
    (preserve : ∀ past state label next, Inv past state → step state label = some next → Inv (past ++ [label]) next)
    (labels : List Label) (final : State) (reached : run step start labels = some final) : Inv labels final :=
  history_invariant step (fun _ _ => True) start Inv base
    (fun past state label next inv _ taken => preserve past state label next inv taken)
    labels final reached (admitted_always step start labels)

-- A preorder that every step moves up in relates the two ends of every run.
theorem run_relation {State Label : Type} (step : Step State Label) (Inv : State → Prop)
    (related : State → State → Prop) (refl : ∀ state, related state state)
    (trans : ∀ first second third, related first second → related second third → related first third)
    (preserve : ∀ state label next, Inv state → step state label = some next → Inv next)
    (advance : ∀ state label next, Inv state → step state label = some next → related state next)
    (labels : List Label) (state final : State) (inv : Inv state) (reached : run step state labels = some final) :
    related state final := by
  induction labels generalizing state with
  | nil =>
    rw [run_nil, Option.some.injEq] at reached
    exact reached ▸ refl state
  | cons label rest ih =>
    rw [run_cons, Option.bind_eq_some_iff] at reached
    obtain ⟨next, taken, later⟩ := reached
    exact trans state next final (advance state label next inv taken) (ih next (preserve state label next inv taken) later)

-- A property of every step a run takes, which may speak of the labels taken before it.
def EachStep {State Label : Type} (step : Step State Label) (start : State) (labels : List Label)
    (property : List Label → State → Label → State → Prop) : Prop :=
  ∀ earlier label later before after, labels = earlier ++ label :: later → run step start earlier = some before →
    step before label = some after → property earlier before label after

theorem each_step_congr {State Label : Type} (step : Step State Label) (start : State) (Inv : List Label → State → Prop)
    (base : Inv [] start)
    (preserve : ∀ past state label next, Inv past state → step state label = some next → Inv (past ++ [label]) next)
    (property other : List Label → State → Label → State → Prop)
    (same : ∀ past state label next, Inv past state → step state label = some next →
      (property past state label next ↔ other past state label next))
    (labels : List Label) : EachStep step start labels property ↔ EachStep step start labels other := by
  refine forall_congr' fun earlier => forall_congr' fun label => forall_congr' fun later => forall_congr' fun before =>
    forall_congr' fun after => imp_congr_right fun _ => ?_
  refine imp_congr_right fun reached => imp_congr_right fun taken => ?_
  exact same earlier before label after (run_invariant step start Inv base preserve earlier before reached) taken

theorem each_step_invariant {State Label : Type} (step : Step State Label) (start : State)
    (property : List Label → State → Label → State → Prop) (Inv : List Label → State → Prop) (base : Inv [] start)
    (preserve : ∀ past state label next, Inv past state → property past state label next →
      step state label = some next → Inv (past ++ [label]) next)
    (labels : List Label) (each : EachStep step start labels property) (earlier later : List Label) (state : State)
    (split : labels = earlier ++ later) (reached : run step start earlier = some state) : Inv earlier state := by
  induction earlier using List.reverseRecOn generalizing later state with
  | nil =>
    rw [run_nil, Option.some.injEq] at reached
    exact reached ▸ base
  | append_singleton before label ih =>
    obtain ⟨middle, reachedMiddle, last⟩ := (run_concat step start state before label).mp reached
    rw [List.append_assoc] at split
    exact preserve before middle label state (ih _ middle split reachedMiddle)
      (each before label later middle state split reachedMiddle last) last

-- A property of each step that carries an invariant along gives another one.
theorem each_step_imp {State Label : Type} (step : Step State Label) (start : State)
    (property other : List Label → State → Label → State → Prop) (Inv : List Label → State → Prop) (base : Inv [] start)
    (preserve : ∀ past state label next, Inv past state → property past state label next →
      step state label = some next → Inv (past ++ [label]) next)
    (implied : ∀ past state label next, Inv past state → property past state label next →
      step state label = some next → other past state label next)
    (labels : List Label) (each : EachStep step start labels property) : EachStep step start labels other := by
  intro earlier label later before after split reached taken
  have inv := each_step_invariant step start property Inv base preserve labels each earlier (label :: later) before
    split reached
  exact implied earlier before label after inv (each earlier label later before after split reached taken) taken

theorem each_step_admitted {State Label : Type} (step : Step State Label) (guard : State → Label → Prop) (start : State)
    (labels : List Label) (admitted : Admitted step guard start labels) :
    EachStep step start labels fun _ state label _ => guard state label := by
  intro earlier label later before after split reached _
  rw [split] at admitted
  exact (((admitted_append step guard start earlier (label :: later)).mp admitted).2 before reached).1

def Throughout {State Label : Type} (step : Step State Label) (start : State) (labels : List Label)
    (property : State → Prop) : Prop :=
  ∀ before after state, labels = before ++ after → run step start before = some state → property state

theorem throughout_nil {State Label : Type} (step : Step State Label) (start : State) (property : State → Prop)
    (holds : property start) : Throughout step start [] property := by
  intro before after state split reached
  obtain ⟨rfl, rfl⟩ := List.nil_eq_append_iff.mp split
  rw [run_nil, Option.some.injEq] at reached
  exact reached ▸ holds

theorem throughout_concat {State Label : Type} (step : Step State Label) (start next : State) (labels : List Label)
    (label : Label) (property : State → Prop) (earlier : Throughout step start labels property)
    (taken : run step start (labels ++ [label]) = some next) (holds : property next) :
    Throughout step start (labels ++ [label]) property := by
  intro before after state split reached
  cases after using List.reverseRecOn with
  | nil =>
    rw [List.append_nil] at split
    rw [← split, taken, Option.some.injEq] at reached
    exact reached ▸ holds
  | append_singleton after last =>
    rw [← List.append_assoc] at split
    exact earlier before after state (List.append_inj_left' split rfl) reached

theorem throughout_of_admitted {State Label : Type} (step : Step State Label) (guard : State → Label → Prop)
    (start : State) (Inv property : State → Prop) (base : Inv start)
    (preserve : ∀ state label next, Inv state → guard state label → step state label = some next → Inv next)
    (implied : ∀ state, Inv state → property state) (labels : List Label) (admitted : Admitted step guard start labels) :
    Throughout step start labels property := by
  intro before after state split reached
  rw [split] at admitted
  have admittedBefore := ((admitted_append step guard start before after).mp admitted).1
  exact implied state (guarded_invariant step guard start Inv base preserve before state reached admittedBefore)

-- A run that keeps the property throughout never leaves the guard, when every
-- step outside the guard breaks the property.
theorem admitted_of_throughout {State Label : Type} (step : Step State Label) (guard : State → Label → Prop)
    (start : State) (property : State → Prop)
    (breaks : ∀ state label next, step state label = some next → property next → guard state label)
    (labels : List Label) (final : State) (reached : run step start labels = some final)
    (kept : Throughout step start labels property) : Admitted step guard start labels := by
  induction labels using List.reverseRecOn generalizing final with
  | nil => trivial
  | append_singleton earlier label ih =>
    obtain ⟨middle, reachedMiddle, last⟩ := (run_concat step start final earlier label).mp reached
    have keptEarlier : Throughout step start earlier property := fun before after state split reachedState =>
      kept before (after ++ [label]) state (by rw [split, List.append_assoc]) reachedState
    refine (admitted_concat step guard start earlier label).mpr ⟨ih middle reachedMiddle keptEarlier, ?_⟩
    intro other reachedOther
    rw [reachedMiddle, Option.some.injEq] at reachedOther
    subst reachedOther
    exact breaks middle label final last (kept _ [] final (List.append_nil _).symm reached)

def final {State Label : Type} (step : Step State Label) (start : State) (labels : List Label) : State :=
  (run step start labels).getD start

theorem run_final {State Label : Type} (step : Step State Label) (start : State) (labels : List Label)
    (completes : (run step start labels).isSome = true) : run step start labels = some (final step start labels) := by
  obtain ⟨state, reached⟩ := Option.isSome_iff_exists.mp completes
  rw [final, reached, Option.getD_some]

theorem each_step_final {State Label : Type} (step : Step State Label) (start : State) (labels : List Label)
    (property : List Label → State → Label → State → Prop) (each : EachStep step start labels property)
    (earlier : List Label) (label : Label) (later : List Label) (split : labels = earlier ++ label :: later)
    (completes : (run step start (earlier ++ [label])).isSome = true) :
    property earlier (final step start earlier) label (final step start (earlier ++ [label])) := by
  have ended := run_final step start (earlier ++ [label]) completes
  obtain ⟨middle, reached, taken⟩ := (run_concat step start _ earlier label).mp ended
  have before : final step start earlier = middle := by rw [final, reached, Option.getD_some]
  rw [before]
  exact each earlier label later middle _ split reached taken

-- The condition holds at every element of the history from the given position
-- to its end, and the position is one of the history.
def HeldSince {Item : Type} (condition : Item → Prop) (history : List Item) (start : Nat) : Prop :=
  start < history.length ∧
    ∀ index (inside : index < history.length), start ≤ index → condition history[index]

theorem held_since_last {Item : Type} (condition : Item → Prop) (history : List Item) (item : Item)
    (holds : condition item) : HeldSince condition (history ++ [item]) history.length := by
  refine ⟨by simp, ?_⟩
  intro index inside later
  have last : index = history.length := by
    rw [List.length_append, List.length_singleton] at inside
    omega
  simpa only [last, List.getElem_concat_length] using holds

theorem held_since_concat {Item : Type} (condition : Item → Prop) (history : List Item) (item : Item)
    (start : Nat) (held : HeldSince condition history start) (holds : condition item) :
    HeldSince condition (history ++ [item]) start := by
  obtain ⟨startInside, everywhere⟩ := held
  refine ⟨by rw [List.length_append]; omega, ?_⟩
  intro index inside later
  by_cases earlier : index < history.length
  · rw [List.getElem_append_left earlier]
    exact everywhere index earlier later
  · exact (held_since_last condition history item holds).2 index inside (by omega)

end Runs
