import Mathlib.Data.List.Basic

set_option autoImplicit false

namespace Holdings

-- What a party does to the names in a store that all parties share.
inductive Change (Name : Type) where
  | make (name : Name)
  | drop (name : Name)
deriving DecidableEq, Repr

section

variable {Party Name : Type} [DecidableEq Name]

def after (held : List Name) : List (Change Name) → List Name
  | [] => held
  | .make name :: rest => after (name :: held) rest
  | .drop name :: rest => after (held.filter fun other => other ≠ name) rest

-- A party that drops only what it holds.
def Careful (held : List Name) : List (Change Name) → Prop
  | [] => True
  | .make name :: rest => Careful (name :: held) rest
  | .drop name :: rest => name ∈ held ∧ Careful (held.filter fun other => other ≠ name) rest

-- No name is made that is there already.
def Fresh (held : List Name) : List (Change Name) → Prop
  | [] => True
  | .make name :: rest => name ∉ held ∧ Fresh (name :: held) rest
  | .drop name :: rest => Fresh (held.filter fun other => other ≠ name) rest

instance decidableFresh : (held : List Name) → (changes : List (Change Name)) → Decidable (Fresh held changes)
  | _, [] => .isTrue trivial
  | held, .make name :: rest =>
    have := decidableFresh (name :: held) rest
    inferInstanceAs (Decidable (name ∉ held ∧ Fresh (name :: held) rest))
  | held, .drop name :: rest => decidableFresh (held.filter fun other => other ≠ name) rest

theorem after_append (held : List Name) (before later : List (Change Name)) :
    after held (before ++ later) = after (after held before) later := by
  induction before generalizing held with
  | nil => rfl
  | cons change rest ih => cases change <;> exact ih _

theorem careful_append (held : List Name) (before later : List (Change Name)) :
    Careful held (before ++ later) ↔ Careful held before ∧ Careful (after held before) later := by
  induction before generalizing held with
  | nil => exact (iff_of_eq (true_and _)).symm
  | cons change rest ih =>
    cases change with
    | make name => exact ih _
    | drop name => exact (and_congr_right fun _ => ih _).trans and_assoc.symm

-- A party that ends with nothing in hand.
def Clean (changes : List (Change Name)) : Prop := Careful [] changes ∧ after [] changes = []

theorem clean_nil : Clean ([] : List (Change Name)) := ⟨trivial, rfl⟩

theorem clean_append (before later : List (Change Name)) (first : Clean before) (second : Clean later) :
    Clean (before ++ later) := by
  refine ⟨(careful_append _ _ _).mpr ⟨first.1, ?_⟩, ?_⟩
  · rw [first.2]
    exact second.1
  · rw [after_append, first.2]
    exact second.2

theorem clean_once (name : Name) : Clean [.make name, .drop name] := by
  refine ⟨⟨List.mem_singleton.mpr rfl, trivial⟩, ?_⟩
  simp [after]

variable [DecidableEq Party]

def own (who : Party) (log : List (Party × Change Name)) : List (Change Name) :=
  log.filterMap fun entry => if entry.1 = who then some entry.2 else none

omit [DecidableEq Name] in
theorem own_cons (who : Party) (entry : Party × Change Name) (log : List (Party × Change Name)) :
    own who (entry :: log) = if entry.1 = who then entry.2 :: own who log else own who log := by
  rw [own, List.filterMap_cons]
  split <;> simp_all [own]

-- What the store holds besides the names that were there first is what the parties hold.
structure Shared (first held : List Name) (holds : Party → List Name) : Prop where
  agree : ∀ name, name ∈ held ↔ name ∈ first ∨ ∃ who, name ∈ holds who
  apart : ∀ who name, name ∈ holds who → name ∉ first
  unique : ∀ who other name, name ∈ holds who → name ∈ holds other → who = other

theorem shared_make (first held : List Name) (holds : Party → List Name) (who : Party) (name : Name)
    (shared : Shared first held holds) (fresh : name ∉ held) :
    Shared first (name :: held) (Function.update holds who (name :: holds who)) := by
  have unheld : ∀ other, name ∉ holds other := fun other member => fresh ((shared.agree name).mpr (Or.inr ⟨other, member⟩))
  have outside : name ∉ first := fun member => fresh ((shared.agree name).mpr (Or.inl member))
  have updated : ∀ other item, item ∈ Function.update holds who (name :: holds who) other ↔
      (other = who ∧ item = name) ∨ item ∈ holds other := by
    intro other item
    by_cases same : other = who
    · subst same
      rw [Function.update_self, List.mem_cons]
      tauto
    · rw [Function.update_of_ne same]
      tauto
  refine ⟨?_, ?_, ?_⟩
  · intro item
    rw [List.mem_cons, shared.agree]
    simp only [updated]
    constructor
    · rintro (rfl | there | ⟨other, member⟩)
      · exact Or.inr ⟨who, Or.inl ⟨rfl, rfl⟩⟩
      · exact Or.inl there
      · exact Or.inr ⟨other, Or.inr member⟩
    · rintro (there | ⟨other, ⟨_, rfl⟩ | member⟩)
      · exact Or.inr (Or.inl there)
      · exact Or.inl rfl
      · exact Or.inr (Or.inr ⟨other, member⟩)
  · intro other item member
    rcases (updated other item).mp member with ⟨_, rfl⟩ | old
    · exact outside
    · exact shared.apart other item old
  · intro one other item mine theirs
    rcases (updated one item).mp mine with ⟨rfl, rfl⟩ | old
    · rcases (updated other item).mp theirs with ⟨rfl, _⟩ | wrong
      · rfl
      · exact absurd wrong (unheld other)
    · rcases (updated other item).mp theirs with ⟨rfl, rfl⟩ | also
      · exact absurd old (unheld one)
      · exact shared.unique one other item old also

theorem shared_drop (first held : List Name) (holds : Party → List Name) (who : Party) (name : Name)
    (shared : Shared first held holds) (mine : name ∈ holds who) :
    Shared first (held.filter fun other => other ≠ name)
      (Function.update holds who ((holds who).filter fun other => other ≠ name)) := by
  have updated : ∀ other item, item ∈ Function.update holds who ((holds who).filter fun other => other ≠ name) other ↔
      item ∈ holds other ∧ item ≠ name := by
    intro other item
    by_cases same : other = who
    · subst same
      rw [Function.update_self, List.mem_filter, decide_eq_true_iff]
    · rw [Function.update_of_ne same]
      refine ⟨fun member => ⟨member, ?_⟩, And.left⟩
      rintro rfl
      exact same (shared.unique other who item member mine)
  refine ⟨?_, ?_, ?_⟩
  · intro item
    rw [List.mem_filter, decide_eq_true_iff, shared.agree]
    simp only [updated]
    constructor
    · rintro ⟨there | ⟨other, member⟩, different⟩
      · exact Or.inl there
      · exact Or.inr ⟨other, member, different⟩
    · rintro (there | ⟨other, member, different⟩)
      · refine ⟨Or.inl there, ?_⟩
        rintro rfl
        exact shared.apart who item mine there
      · exact ⟨Or.inr ⟨other, member⟩, different⟩
  · exact fun other item member => shared.apart other item ((updated other item).mp member).1
  · exact fun one other item here there =>
      shared.unique one other item ((updated one item).mp here).1 ((updated other item).mp there).1

-- Parties that share a store in any order, each careful with what it holds, leave in
-- it what each leaves by itself, and what was there before any of them.
theorem left_iff (log : List (Party × Change Name)) (first held : List Name) (holds : Party → List Name)
    (shared : Shared first held holds) (fresh : Fresh held (log.map Prod.snd))
    (careful : ∀ who, Careful (holds who) (own who log)) (name : Name) :
    name ∈ after held (log.map Prod.snd) ↔ name ∈ first ∨ ∃ who, name ∈ after (holds who) (own who log) := by
  induction log generalizing held holds with
  | nil => exact shared.agree name
  | cons entry rest ih =>
    obtain ⟨who, change⟩ := entry
    have others : ∀ other, other ≠ who → own other ((who, change) :: rest) = own other rest := fun other different => by
      rw [own_cons, if_neg (Ne.symm different)]
    have mine : own who ((who, change) :: rest) = change :: own who rest := by rw [own_cons, if_pos rfl]
    have carefully := careful who
    rw [mine] at carefully
    -- The change moves what its party holds; the others hold what they held.
    have moves : ∀ next : List Name, Careful next (own who rest) →
        (∀ other, Careful (Function.update holds who next other) (own other rest)) ∧
          (after next (own who rest) = after (holds who) (change :: own who rest) →
            ∀ other, after (Function.update holds who next other) (own other rest) =
              after (holds other) (own other ((who, change) :: rest))) := by
      intro next careful'
      constructor
      · intro other
        by_cases same : other = who
        · subst same
          rwa [Function.update_self]
        · rw [Function.update_of_ne same]
          have before := careful other
          rwa [others other same] at before
      · intro ends other
        by_cases same : other = who
        · subst same
          rw [Function.update_self, mine, ends]
        · rw [Function.update_of_ne same, others other same]
    cases change with
    | make made =>
      obtain ⟨new, later⟩ := fresh
      obtain ⟨carefulNext, sameEnds⟩ := moves (made :: holds who) carefully
      rw [List.map_cons, after, ih _ _ (shared_make first held holds who made shared new) later carefulNext]
      simp only [sameEnds rfl]
    | drop dropped =>
      obtain ⟨holding, carefulRest⟩ := carefully
      obtain ⟨carefulNext, sameEnds⟩ := moves ((holds who).filter fun other => other ≠ dropped) carefulRest
      rw [List.map_cons, after, ih _ _ (shared_drop first held holds who dropped shared holding) fresh carefulNext]
      simp only [sameEnds rfl]

omit [DecidableEq Name] [DecidableEq Party] in
theorem shared_initial (first : List Name) : Shared first first fun _ : Party => [] :=
  ⟨fun _ => by simp, fun _ _ => nofun, fun _ _ _ => nofun⟩

end

end Holdings
