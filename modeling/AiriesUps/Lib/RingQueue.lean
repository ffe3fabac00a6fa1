import Mathlib.Data.List.Basic
import Mathlib.Data.Nat.ModEq
import Mathlib.Logic.Function.Basic

set_option autoImplicit false

-- A queue in a circular array of fixed capacity: the oldest item is at head, and
-- an index past the end wraps. The bounds are fields, so no operation can leave them.
structure RingQueue (Item : Type) (capacity : Nat) where
  cells : Nat → Item
  head : Nat
  count : Nat
  headInside : head < capacity
  countInside : count ≤ capacity

namespace RingQueue

def slot {Item : Type} {capacity : Nat} (ring : RingQueue Item capacity) (offset : Nat) : Nat :=
  (ring.head + offset) % capacity

-- The queue the ring stands for, oldest item first.
def contents {Item : Type} {capacity : Nat} (ring : RingQueue Item capacity) : List Item :=
  (List.range ring.count).map fun offset => ring.cells (ring.slot offset)

def empty {Item : Type} (capacity : Nat) (positive : 0 < capacity) (blank : Item) : RingQueue Item capacity :=
  { cells := fun _ => blank, head := 0, count := 0, headInside := positive, countInside := Nat.zero_le capacity }

def first {Item : Type} {capacity : Nat} (ring : RingQueue Item capacity) : Item := ring.cells ring.head

def setFirst {Item : Type} {capacity : Nat} (ring : RingQueue Item capacity) (item : Item) : RingQueue Item capacity :=
  { ring with cells := Function.update ring.cells ring.head item }

-- Dropping blanks the cell, as the array's owner clears what it frees.
def dropFirst {Item : Type} {capacity : Nat} (ring : RingQueue Item capacity) (blank : Item) : RingQueue Item capacity :=
  { cells := Function.update ring.cells ring.head blank
    head := (ring.head + 1) % capacity
    count := ring.count - 1
    headInside := Nat.mod_lt _ (Nat.lt_of_le_of_lt (Nat.zero_le _) ring.headInside)
    countInside := Nat.le_trans (Nat.sub_le _ _) ring.countInside }

def push {Item : Type} {capacity : Nat} (ring : RingQueue Item capacity) (item : Item) (space : ring.count < capacity) :
    RingQueue Item capacity :=
  { ring with
    cells := Function.update ring.cells (ring.slot ring.count) item
    count := ring.count + 1
    countInside := space }

@[simp] theorem contents_length {Item : Type} {capacity : Nat} (ring : RingQueue Item capacity) :
    ring.contents.length = ring.count := by
  rw [contents, List.length_map, List.length_range]

theorem slot_zero {Item : Type} {capacity : Nat} (ring : RingQueue Item capacity) : ring.slot 0 = ring.head :=
  Nat.mod_eq_of_lt ring.headInside

theorem slot_injective {Item : Type} {capacity : Nat} (ring : RingQueue Item capacity) (left right : Nat)
    (leftInside : left < capacity) (rightInside : right < capacity) (same : ring.slot left = ring.slot right) :
    left = right := by
  have congruent : Nat.ModEq capacity left right := Nat.ModEq.add_left_cancel' ring.head same
  rwa [Nat.ModEq, Nat.mod_eq_of_lt leftInside, Nat.mod_eq_of_lt rightInside] at congruent

theorem contents_getElem {Item : Type} {capacity : Nat} (ring : RingQueue Item capacity) (offset : Nat)
    (inside : offset < ring.contents.length) : ring.contents[offset] = ring.cells (ring.slot offset) := by
  simp only [contents, List.getElem_map, List.getElem_range]

theorem contents_first {Item : Type} {capacity : Nat} (ring : RingQueue Item capacity) (nonempty : 0 < ring.count) :
    ring.contents = ring.first :: ring.contents.tail := by
  cases listed : ring.contents with
  | nil =>
    have none := ring.contents_length
    rw [listed, List.length_nil] at none
    omega
  | cons item rest =>
    have zero := ring.contents_getElem 0 (by rw [contents_length]; exact nonempty)
    rw [slot_zero] at zero
    simp only [listed, List.getElem_cons_zero] at zero
    rw [List.tail_cons, zero, first]

theorem contents_push {Item : Type} {capacity : Nat} (ring : RingQueue Item capacity) (item : Item)
    (space : ring.count < capacity) : (ring.push item space).contents = ring.contents ++ [item] := by
  apply List.ext_getElem
  · rw [List.length_append, contents_length, contents_length, List.length_singleton, push]
  · intro offset inside _
    rw [contents_getElem]
    rw [contents_length] at inside
    change offset < ring.count + 1 at inside
    by_cases old : offset < ring.count
    · rw [List.getElem_append_left (by rw [contents_length]; exact old), contents_getElem]
      refine Function.update_of_ne ?_ _ _
      intro same
      have equal := ring.slot_injective offset ring.count (by omega) space same
      omega
    · have last : offset = ring.count := by omega
      subst last
      simp only [← contents_length, List.getElem_concat_length]
      rw [contents_length]
      exact Function.update_self _ _ _

theorem contents_dropFirst {Item : Type} {capacity : Nat} (ring : RingQueue Item capacity) (blank : Item) :
    (ring.dropFirst blank).contents = ring.contents.tail := by
  apply List.ext_getElem
  · rw [List.length_tail, contents_length, contents_length, dropFirst]
  · intro offset inside _
    rw [contents_getElem, List.getElem_tail, contents_getElem]
    rw [contents_length] at inside
    change offset < ring.count - 1 at inside
    have shifted : (ring.dropFirst blank).slot offset = ring.slot (offset + 1) := by
      simp only [slot, dropFirst, Nat.mod_add_mod, Nat.add_assoc, Nat.add_comm 1 offset]
    rw [shifted]
    refine Function.update_of_ne ?_ _ _
    intro same
    rw [← slot_zero] at same
    have inRange := ring.countInside
    have equal := ring.slot_injective (offset + 1) 0 (by omega) (by omega) same
    omega

theorem contents_setFirst {Item : Type} {capacity : Nat} (ring : RingQueue Item capacity) (item : Item)
    (nonempty : 0 < ring.count) : (ring.setFirst item).contents = item :: ring.contents.tail := by
  apply List.ext_getElem
  · rw [List.length_cons, List.length_tail, contents_length, contents_length, Nat.sub_add_cancel nonempty, setFirst]
  · intro offset inside _
    rw [contents_getElem]
    rw [contents_length] at inside
    change offset < ring.count at inside
    have sameSlot : (ring.setFirst item).slot offset = ring.slot offset := rfl
    rw [sameSlot]
    cases offset with
    | zero =>
      rw [slot_zero]
      exact Function.update_self _ _ _
    | succ offset =>
      rw [List.getElem_cons_succ, List.getElem_tail, contents_getElem]
      refine Function.update_of_ne ?_ _ _
      intro same
      rw [← slot_zero] at same
      have inRange := ring.countInside
      have equal := ring.slot_injective (offset + 1) 0 (by omega) (by omega) same
      omega

end RingQueue
