import Mathlib.Data.List.Basic
import Mathlib.Data.List.Pairwise

set_option autoImplicit false

namespace WordStore

-- A run of words of a store that is addressed word by word.
structure Span where
  start : Nat
  count : Nat
deriving DecidableEq, Repr

def Span.Apart (one other : Span) : Prop :=
  one.start + one.count ≤ other.start ∨ other.start + other.count ≤ one.start

instance (one other : Span) : Decidable (one.Apart other) :=
  inferInstanceAs (Decidable (_ ∨ _))

theorem apart_symm (one other : Span) (apart : one.Apart other) : other.Apart one := Or.symm apart

section

variable {Word : Type}

def words (store : Nat → Word) (span : Span) : List Word :=
  (List.range span.count).map fun offset => store (span.start + offset)

-- No word that counts is changed outside the span.
def ChangedWithin (counts : Nat → Prop) (span : Span) (before after : Nat → Word) : Prop :=
  ∀ address, counts address → address < span.start ∨ span.start + span.count ≤ address → after address = before address

def Span.Counted (counts : Nat → Prop) (span : Span) : Prop :=
  ∀ address, span.start ≤ address → address < span.start + span.count → counts address

theorem words_apart (counts : Nat → Prop) (span other : Span) (before after : Nat → Word)
    (changed : ChangedWithin counts span before after) (counted : other.Counted counts) (apart : span.Apart other) :
    words after other = words before other := by
  refine List.map_congr_left fun offset inside => ?_
  have small := List.mem_range.mp inside
  refine changed _ (counted _ (Nat.le_add_right _ _) (Nat.add_lt_add_left small _)) ?_
  rcases apart with below | above
  · exact Or.inr (by omega)
  · exact Or.inl (by omega)

-- A change of the first word leaves the rest of the span as it is.
theorem words_first (counts : Nat → Prop) (span : Span) (before after : Nat → Word)
    (changed : ChangedWithin counts { start := span.start, count := 1 } before after) (counted : span.Counted counts)
    (filled : 0 < span.count) : words after span = after span.start :: (words before span).tail := by
  obtain ⟨start, count⟩ := span
  obtain ⟨rest, rfl⟩ := Nat.exists_eq_add_of_lt filled
  simp only [words, Nat.zero_add, List.range_succ_eq_map, List.map_cons, List.map_map, List.tail_cons, Nat.add_zero]
  congr 1
  refine List.map_congr_left fun offset inside => ?_
  have small := List.mem_range.mp inside
  refine changed _ (counted _ ?_ ?_) (Or.inr ?_) <;> dsimp only [Function.comp] <;> omega

theorem words_length (store : Nat → Word) (span : Span) : (words store span).length = span.count := by
  rw [words, List.length_map, List.length_range]

end

theorem apart_of_pairwise {Item : Type} (span : Item → Span) (items : List Item)
    (pairwise : items.Pairwise fun one other => (span one).Apart (span other)) (one other : Item) (first : one ∈ items)
    (second : other ∈ items) (different : one ≠ other) : (span one).Apart (span other) := by
  have symmetric : Std.Symm fun one other => (span one).Apart (span other) := ⟨fun _ _ => apart_symm _ _⟩
  exact pairwise.forall first second different

end WordStore
