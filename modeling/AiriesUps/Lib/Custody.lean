import Mathlib.Data.List.Count
import Mathlib.Data.List.Basic

set_option autoImplicit false

namespace Custody

-- What an owner does with the resources it opens.
inductive Event (Owner Resource : Type) where
  | acquire (owner : Owner) (resource : Resource)
  | release (owner : Owner) (resource : Resource)
deriving DecidableEq, Repr

section

variable {Owner Resource : Type}

-- One resource at a time: the log takes what is held before it to what is held after it.
inductive Alternates : Option (Owner × Resource) → List (Event Owner Resource) → Option (Owner × Resource) → Prop
  | done (held : Option (Owner × Resource)) : Alternates held [] held
  | acquire (owner : Owner) (resource : Resource) (rest : List (Event Owner Resource))
      (final : Option (Owner × Resource)) (tail : Alternates (some (owner, resource)) rest final) :
      Alternates none (.acquire owner resource :: rest) final
  | release (owner : Owner) (resource : Resource) (rest : List (Event Owner Resource))
      (final : Option (Owner × Resource)) (tail : Alternates none rest final) :
      Alternates (some (owner, resource)) (.release owner resource :: rest) final

theorem alternates_append (held middle final : Option (Owner × Resource)) (before after : List (Event Owner Resource))
    (first : Alternates held before middle) (second : Alternates middle after final) :
    Alternates held (before ++ after) final := by
  induction first with
  | done _ => exact second
  | acquire owner resource _ _ _ ih => exact .acquire owner resource _ _ (ih second)
  | release owner resource _ _ _ ih => exact .release owner resource _ _ (ih second)

theorem alternates_split (held final : Option (Owner × Resource)) (before after : List (Event Owner Resource))
    (log : Alternates held (before ++ after) final) :
    ∃ middle, Alternates held before middle ∧ Alternates middle after final := by
  induction before generalizing held with
  | nil => exact ⟨held, .done held, log⟩
  | cons event rest ih =>
    cases log with
    | acquire owner resource _ _ tail =>
      obtain ⟨middle, first, second⟩ := ih _ tail
      exact ⟨middle, .acquire owner resource _ _ first, second⟩
    | release owner resource _ _ tail =>
      obtain ⟨middle, first, second⟩ := ih _ tail
      exact ⟨middle, .release owner resource _ _ first, second⟩

def acquired : List (Event Owner Resource) → List Resource
  | [] => []
  | .acquire _ resource :: rest => resource :: acquired rest
  | .release _ _ :: rest => acquired rest

theorem acquired_append (before after : List (Event Owner Resource)) :
    acquired (before ++ after) = acquired before ++ acquired after := by
  induction before with
  | nil => rfl
  | cons event rest ih => cases event <;> simp only [List.cons_append, acquired, ih]

theorem acquired_of_mem (log : List (Event Owner Resource)) (owner : Owner) (resource : Resource)
    (member : .acquire owner resource ∈ log) : resource ∈ acquired log := by
  induction log with
  | nil => cases member
  | cons event rest ih =>
    rcases List.mem_cons.mp member with rfl | later
    · exact List.mem_cons_self
    · cases event with
      | acquire other opened => exact List.mem_cons_of_mem _ (ih later)
      | release other closed => exact ih later

theorem released_was_open (held final : Option (Owner × Resource)) (log : List (Event Owner Resource))
    (alternates : Alternates held log final) (owner : Owner) (resource : Resource)
    (member : .release owner resource ∈ log) : held = some (owner, resource) ∨ resource ∈ acquired log := by
  induction alternates with
  | done _ => cases member
  | acquire opener opened rest final _ ih =>
    apply Or.inr
    rcases List.mem_cons.mp member with wrong | later
    · cases wrong
    · rcases ih later with same | earlier
      · cases same
        exact List.mem_cons_self
      · exact List.mem_cons_of_mem _ earlier
  | release closer closed rest final _ ih =>
    rcases List.mem_cons.mp member with same | later
    · cases same
      exact Or.inl rfl
    · rcases ih later with wrong | earlier
      · cases wrong
      · exact Or.inr earlier

variable [DecidableEq Owner] [DecidableEq Resource]

-- The resources open at the end of a log, each with the owner that opened it.
def live : List (Owner × Resource) → List (Event Owner Resource) → List (Owner × Resource)
  | held, [] => held
  | held, .acquire owner resource :: rest => live ((owner, resource) :: held) rest
  | held, .release owner resource :: rest => live (held.erase (owner, resource)) rest

-- At every point of the log at most one resource is open.
def AtMostOneLive (log : List (Event Owner Resource)) : Prop :=
  ∀ before after, log = before ++ after → (live [] before).length ≤ 1

-- Every resource opened is released exactly once, by the owner that opened it.
def ReleasedOnce (log : List (Event Owner Resource)) : Prop :=
  ∀ owner resource, .acquire owner resource ∈ log →
    log.count (.release owner resource) = 1 ∧ ∀ other, .release other resource ∈ log → other = owner

theorem live_of_alternates (held final : Option (Owner × Resource)) (log : List (Event Owner Resource))
    (alternates : Alternates held log final) : live held.toList log = final.toList := by
  induction alternates with
  | done _ => rfl
  | acquire owner resource rest final _ ih => exact ih
  | release owner resource rest final _ ih =>
    rw [live, Option.toList_some, List.erase_cons_head]
    exact ih

theorem at_most_one_of_alternates (final : Option (Owner × Resource)) (log : List (Event Owner Resource))
    (alternates : Alternates none log final) : AtMostOneLive log := by
  intro before after split
  rw [split] at alternates
  obtain ⟨middle, first, _⟩ := alternates_split none final before after alternates
  have same := live_of_alternates none middle before first
  rw [Option.toList_none] at same
  rw [same]
  cases middle with
  | none => exact Nat.zero_le 1
  | some pair => exact Nat.le_refl 1

theorem released_once_from (held final : Option (Owner × Resource)) (log : List (Event Owner Resource))
    (alternates : Alternates held log final) (closed : final = none)
    (fresh : ((held.map Prod.snd).toList ++ acquired log).Nodup) (owner : Owner) (resource : Resource)
    (opened : held = some (owner, resource) ∨ .acquire owner resource ∈ log) :
    log.count (.release owner resource) = 1 ∧ ∀ other, .release other resource ∈ log → other = owner := by
  induction alternates with
  | done held =>
    subst closed
    rcases opened with wrong | wrong <;> cases wrong
  | acquire opener newest rest final tail ih =>
    have entered : some (opener, newest) = some (owner, resource) ∨ .acquire owner resource ∈ rest := by
      rcases opened with wrong | member
      · cases wrong
      · rcases List.mem_cons.mp member with same | later
        · cases same
          exact Or.inl rfl
        · exact Or.inr later
    obtain ⟨once, alone⟩ := ih closed fresh entered
    constructor
    · rw [List.count_cons_of_ne (by intro wrong; cases wrong)]
      exact once
    · intro other member
      rcases List.mem_cons.mp member with wrong | later
      · cases wrong
      · exact alone other later
  | release closer last rest final tail ih =>
    obtain ⟨unused, freshRest⟩ := List.nodup_cons.mp fresh
    have gone : ∀ other, Event.release other last ∉ rest := by
      intro other member
      rcases released_was_open none final rest tail other last member with wrong | again
      · cases wrong
      · exact unused again
    rcases opened with same | member
    · cases same
      constructor
      · rw [List.count_cons_self, List.count_eq_zero.mpr (gone _)]
      · intro other member
        rcases List.mem_cons.mp member with same | later
        · cases same
          rfl
        · exact absurd later (gone other)
    · have later : .acquire owner resource ∈ rest := by
        rcases List.mem_cons.mp member with wrong | later
        · cases wrong
        · exact later
      have different : last ≠ resource := by
        rintro rfl
        exact unused (acquired_of_mem rest owner last later)
      obtain ⟨once, alone⟩ := ih closed freshRest (Or.inr later)
      constructor
      · rw [List.count_cons_of_ne (by intro same; cases same; exact different rfl)]
        exact once
      · intro other member
        rcases List.mem_cons.mp member with same | earlier
        · cases same
          exact absurd rfl different
        · exact alone other earlier

theorem released_once_of_alternates (log : List (Event Owner Resource)) (alternates : Alternates none log none)
    (fresh : (acquired log).Nodup) : ReleasedOnce log := by
  intro owner resource member
  exact released_once_from none none log alternates rfl fresh owner resource (Or.inr member)

end

end Custody
