import AiriesUps.Lib.Runs
import Mathlib.Data.List.Chain
import Mathlib.Logic.Function.Iterate

set_option autoImplicit false

namespace Alternation

-- What is reported of a flag: it rose, or it fell.
inductive Edge where
  | rise
  | fall
deriving DecidableEq, Repr

-- Taken one after the other from a flag that is before, every edge changes it, and
-- the last one leaves it after.
def Alternates : Bool → List Edge → Bool → Prop
  | before, [], after => before = after
  | before, .rise :: rest, after => before = false ∧ Alternates true rest after
  | before, .fall :: rest, after => before = true ∧ Alternates false rest after

instance decidableAlternates : ∀ before log after, Decidable (Alternates before log after)
  | before, [], after => inferInstanceAs (Decidable (before = after))
  | before, .rise :: rest, after =>
    have : Decidable (Alternates true rest after) := decidableAlternates true rest after
    inferInstanceAs (Decidable (before = false ∧ Alternates true rest after))
  | before, .fall :: rest, after =>
    have : Decidable (Alternates false rest after) := decidableAlternates false rest after
    inferInstanceAs (Decidable (before = true ∧ Alternates false rest after))

-- Strict alternation from a flag that is down, which is up at the end exactly when the
-- last edge is a rise.
structure Paired (log : List Edge) (up : Bool) : Prop where
  alternating : log.IsChain (· ≠ ·)
  opening : log.head? ≠ some .fall
  flag : up = true ↔ log.getLast? = some .rise

def edges : Bool → Bool → List Edge
  | false, true => [.rise]
  | true, false => [.fall]
  | _, _ => []

-- The edges of a run, where a step reports those of its own.
def history {State Input : Type} (next : State → Input → State) (report : State → Input → List Edge) :
    State → List Input → List Edge
  | _, [] => []
  | state, input :: rest => report state input ++ history next report (next state input) rest

theorem alternates_edges (before after : Bool) : Alternates before (edges before after) after := by
  cases before <;> cases after <;> simp [Alternates, edges]

theorem alternates_nil (flag : Bool) : Alternates flag [] flag := rfl

theorem alternates_append (before middle after : Bool) (first second : List Edge)
    (left : Alternates before first middle) (right : Alternates middle second after) :
    Alternates before (first ++ second) after := by
  induction first generalizing before with
  | nil =>
    have same : before = middle := left
    rw [same]
    exact right
  | cons edge rest ih =>
    cases edge with
    | rise => exact ⟨left.1, ih true left.2⟩
    | fall => exact ⟨left.1, ih false left.2⟩

theorem alternates_append_iff (before middle after : Bool) (first second : List Edge)
    (left : Alternates before first middle) :
    Alternates before (first ++ second) after ↔ Alternates middle second after := by
  induction first generalizing before with
  | nil =>
    have same : before = middle := left
    rw [List.nil_append, same]
  | cons edge rest ih =>
    cases edge with
    | rise => exact (and_iff_right left.1).trans (ih true left.2)
    | fall => exact (and_iff_right left.1).trans (ih false left.2)

theorem alternates_head (before after : Bool) (edge : Edge) (rest : List Edge)
    (alternates : Alternates before (edge :: rest) after) : edge = .rise ↔ before = false := by
  cases edge with
  | rise => simp [alternates.1]
  | fall => simp [alternates.1]

theorem alternating_of_alternates (before after : Bool) (log : List Edge) (alternates : Alternates before log after) :
    log.IsChain (· ≠ ·) := by
  induction log generalizing before with
  | nil => exact List.isChain_nil
  | cons edge rest ih =>
    cases rest with
    | nil => exact List.isChain_singleton edge
    | cons second later =>
      rw [List.isChain_cons_cons]
      cases edge with
      | rise =>
        refine ⟨?_, ih true alternates.2⟩
        intro same
        exact absurd ((alternates_head true after second later alternates.2).mp same.symm) (by simp)
      | fall =>
        refine ⟨?_, ih false alternates.2⟩
        intro same
        have rising := (alternates_head false after second later alternates.2).mpr rfl
        rw [← same] at rising
        cases rising

theorem alternates_last (before after : Bool) (log : List Edge) (alternates : Alternates before log after) :
    after = true ↔ log.getLast?.getD (if before then .rise else .fall) = .rise := by
  induction log generalizing before with
  | nil =>
    have same : before = after := alternates
    cases before <;> simp [← same]
  | cons edge rest ih =>
    have later : Alternates (edge == .rise) rest after := by
      cases edge with
      | rise => exact alternates.2
      | fall => exact alternates.2
    rw [ih _ later, List.getLast?_cons, Option.getD_some]
    cases rest.getLast? <;> cases edge <;> simp

theorem paired_of_alternates (log : List Edge) (up : Bool) (alternates : Alternates false log up) : Paired log up := by
  refine ⟨alternating_of_alternates false up log alternates, ?_, ?_⟩
  · intro opening
    cases log with
    | nil => cases opening
    | cons edge rest =>
      have falling : edge = .fall := by simpa using opening
      have rising := (alternates_head false up edge rest alternates).mpr rfl
      rw [falling] at rising
      cases rising
  · rw [alternates_last false up log alternates]
    cases log.getLast? with
    | none => simp
    | some edge => simp

theorem one_fall_between (earlier between later : List Edge)
    (alternating : (earlier ++ .rise :: (between ++ .rise :: later)).IsChain (· ≠ ·)) (none : .rise ∉ between) :
    between = [.fall] := by
  have inner := ((List.isChain_append.mp alternating).2.1 : List.IsChain _ _)
  cases between with
  | nil => simp at inner
  | cons first rest =>
    have falling : first = .fall := by
      cases first with
      | rise => exact absurd List.mem_cons_self none
      | fall => rfl
    cases rest with
    | nil => rw [falling]
    | cons second others =>
      have alsoFalling : second = .fall := by
        cases second with
        | rise => exact absurd (List.mem_cons_of_mem _ List.mem_cons_self) none
        | fall => rfl
      subst falling alsoFalling
      simp at inner

theorem alternates_history {State Input : Type} (next : State → Input → State) (report : State → Input → List Edge)
    (flag : State → Bool)
    (step : ∀ state input, Alternates (flag state) (report state input) (flag (next state input)))
    (state : State) (inputs : List Input) :
    Alternates (flag state) (history next report state inputs) (flag (inputs.foldl next state)) := by
  induction inputs generalizing state with
  | nil => rfl
  | cons input rest ih => exact alternates_append _ _ _ _ _ (step state input) (ih (next state input))

-- The log keeps up with the flag throughout a run exactly when every step of it does.
theorem alternates_throughout_iff {State Input : Type} (next : State → Input → State)
    (report : State → Input → List Edge) (flag : State → Bool) (start : State) (inputs : List Input) :
    (∀ earlier later, inputs = earlier ++ later →
      Alternates (flag start) (history next report start earlier) (flag (earlier.foldl next start))) ↔
      Runs.Admitted (fun state input => some (next state input))
        (fun state input => Alternates (flag state) (report state input) (flag (next state input))) start inputs := by
  induction inputs generalizing start with
  | nil =>
    refine iff_of_true (fun earlier later split => ?_) trivial
    rw [(List.append_eq_nil_iff.mp split.symm).1]
    exact alternates_nil _
  | cons input rest ih =>
    rw [Runs.Admitted]
    dsimp only
    rw [← ih (next start input)]
    constructor
    · intro throughout
      have first : Alternates (flag start) (report start input) (flag (next start input)) := by
        have single := throughout [input] rest rfl
        rwa [history, history, List.append_nil] at single
      refine ⟨first, fun earlier later split => ?_⟩
      have extended := throughout (input :: earlier) later (congrArg (List.cons input) split)
      exact (alternates_append_iff _ _ _ _ _ first).mp extended
    · rintro ⟨first, kept⟩ earlier later split
      cases earlier with
      | nil => exact alternates_nil _
      | cons other before =>
        obtain ⟨rfl, remaining⟩ := List.cons.inj split
        exact alternates_append _ _ _ _ _ first (kept before later remaining)

-- A flag recomputed from itself over and over comes to rest, after one step already,
-- unless it is sent from each value to the other.
theorem flag_settles_iff (recompute : Bool → Bool) (start : Bool) (first : Nat) (later : 1 ≤ first) :
    (∀ count, first ≤ count → recompute (recompute^[count] start) = recompute^[count] start) ↔
      ¬(recompute false = true ∧ recompute true = false) := by
  constructor
  · rintro settled ⟨rises, falls⟩
    have rest := settled first (Nat.le_refl first)
    cases reached : recompute^[first] start with
    | false =>
      rw [reached, rises] at rest
      cases rest
    | true =>
      rw [reached, falls] at rest
      cases rest
  · intro steady count bound
    obtain ⟨earlier, rfl⟩ : ∃ earlier, count = earlier + 1 := ⟨count - 1, by omega⟩
    rw [Function.iterate_succ_apply']
    generalize recompute^[earlier] start = flag
    cases flag <;> cases low : recompute false <;> cases high : recompute true <;> simp_all

end Alternation
