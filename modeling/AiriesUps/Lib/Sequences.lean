import Mathlib.Data.List.Basic
import Mathlib.Data.List.Nodup
import Mathlib.Data.List.Perm.Basic

set_option autoImplicit false

namespace Sequences

def pairs {Item : Type} : List Item → List (Item × Item)
  | first :: second :: rest => (first, second) :: pairs (second :: rest)
  | _ => []

@[simp] theorem pairs_nil {Item : Type} : pairs ([] : List Item) = [] := rfl

@[simp] theorem pairs_single {Item : Type} (item : Item) : pairs [item] = [] := rfl

@[simp] theorem pairs_cons {Item : Type} (first second : Item) (rest : List Item) :
    pairs (first :: second :: rest) = (first, second) :: pairs (second :: rest) := rfl

theorem pairs_concat {Item : Type} (before : List Item) (last next : Item) :
    pairs (before ++ [last] ++ [next]) = pairs (before ++ [last]) ++ [(last, next)] := by
  induction before with
  | nil => rfl
  | cons first rest ih =>
    cases rest with
    | nil => rfl
    | cons second rest => exact congrArg (List.cons (first, second)) ih

-- No pair changes a value exactly when the value is the first one throughout.
theorem pairs_unchanged {Item Value : Type} (value : Item → Value) (first : Item) (rest : List Item) :
    (∀ pair ∈ pairs (first :: rest), value pair.1 = value pair.2) ↔ ∀ item ∈ rest, value item = value first := by
  induction rest generalizing first with
  | nil => simp
  | cons second rest ih =>
    rw [pairs_cons, List.forall_mem_cons, List.forall_mem_cons, ih second]
    constructor
    · rintro ⟨same, later⟩
      exact ⟨same.symm, fun item member => (later item member).trans same.symm⟩
    · rintro ⟨same, later⟩
      exact ⟨same.symm, fun item member => (later item member).trans same.symm⟩

-- A fold that reaches a condition at the items that cause it, and stays there.
theorem foldl_reached {Item State : Type} (step : State → Item → State) (reached : State → Prop) (causes : Item → Prop)
    (once : ∀ state item, reached (step state item) ↔ reached state ∨ causes item) (items : List Item) (start : State) :
    reached (items.foldl step start) ↔ reached start ∨ ∃ item ∈ items, causes item := by
  induction items generalizing start with
  | nil => simp
  | cons item rest ih =>
    rw [List.foldl_cons, ih, once, or_assoc]
    simp only [List.mem_cons, exists_eq_or_imp]

-- Two searches stop at the same place exactly when both accept the first
-- element that either of them accepts.
theorem find_index_same {Item : Type} (first second : Item → Bool) (items : List Item) :
    items.findIdx? first = items.findIdx? second ↔
      ∀ item, items.find? (fun item => first item || second item) = some item →
        first item = true ∧ second item = true := by
  induction items with
  | nil => simp
  | cons item rest ih =>
    rw [List.findIdx?_cons, List.findIdx?_cons, List.find?_cons]
    cases byFirst : first item <;> cases bySecond : second item
    · simp only [Bool.or_self, Bool.false_eq_true, if_false, ← ih]
      exact (Option.map_injective fun _ _ same => Nat.succ.inj same).eq_iff
    · cases rest.findIdx? first <;> simp [byFirst]
    · cases rest.findIdx? second <;> simp [bySecond]
    · simp [byFirst, bySecond]

-- Items taken class after class are all of them, when the classes differ and cover them.
theorem classes_perm {Item Key : Type} [DecidableEq Key] (key : Item → Key) (keys : List Key) (items : List Item)
    (distinct : keys.Nodup) (covered : ∀ item ∈ items, key item ∈ keys) :
    (keys.flatMap fun own => items.filter fun item => key item = own).Perm items := by
  induction keys generalizing items with
  | nil =>
    have empty : items = [] := List.eq_nil_iff_forall_not_mem.mpr fun item member => by cases covered item member
    rw [empty, List.flatMap_nil]
  | cons first rest ih =>
    obtain ⟨fresh, distinctRest⟩ := List.nodup_cons.mp distinct
    have others : (rest.flatMap fun own => items.filter fun item => key item = own) =
        rest.flatMap fun own => (items.filter fun item => ¬key item = first).filter fun item => key item = own := by
      refine List.flatMap_congr fun own member => ?_
      rw [List.filter_filter]
      refine List.filter_congr fun item _ => ?_
      have apart : own ≠ first := fun same => fresh (same ▸ member)
      by_cases inside : key item = own <;> simp [inside, apart]
    have later := ih (items.filter fun item => ¬key item = first) distinctRest fun item member => by
      obtain ⟨present, other⟩ := List.mem_filter.mp member
      exact (List.mem_cons.mp (covered item present)).resolve_left (of_decide_eq_true other)
    rw [List.flatMap_cons, others]
    refine (later.append_left _).trans ?_
    simpa using List.filter_append_perm (fun item => decide (key item = first)) items

theorem flat_map_only {Item Value : Type} (items : List Item) (emit : Item → List Value) (item : Item)
    (distinct : items.Nodup) (member : item ∈ items) (others : ∀ other ∈ items, other ≠ item → emit other = []) :
    items.flatMap emit = emit item := by
  obtain ⟨before, after, rfl⟩ := List.append_of_mem member
  have apart := List.nodup_middle.mp distinct
  have fresh := (List.nodup_cons.mp apart).1
  have silent : ∀ part : List Item, part ⊆ before ++ after → part.flatMap emit = [] := by
    intro part included
    refine List.flatMap_eq_nil_iff.mpr fun other present => ?_
    have inside := included present
    refine others other ?_ fun same => fresh (same ▸ inside)
    rw [List.mem_append, List.mem_cons]
    rcases List.mem_append.mp inside with early | late
    · exact Or.inl early
    · exact Or.inr (Or.inr late)
  rw [List.flatMap_append, List.flatMap_cons, silent before (List.subset_append_left ..),
    silent after (List.subset_append_right ..), List.nil_append, List.append_nil]

end Sequences
