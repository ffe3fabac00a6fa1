import Mathlib.Data.List.Induction

set_option autoImplicit false

namespace Patches

variable {Item : Type}

-- A table is patched in place: each entry by a function, or not at all.
def apply (table : List Item) (patches : List (Option (Item → Item))) : List Item :=
  List.zipWith (fun item patch => (patch.getD id) item) table patches

def applyAll (table : List Item) (history : List (List (Option (Item → Item)))) : List Item := history.foldl apply table

-- The entries that the patches touch, as they are.
def touched (table : List Item) (patches : List (Option (Item → Item))) : List Item :=
  (List.zipWith (fun item patch => patch.map fun _ => item) table patches).filterMap id

-- The same entries with their patches made.
def patched (table : List Item) (patches : List (Option (Item → Item))) : List Item :=
  (List.zipWith (fun item patch => patch.map fun change => change item) table patches).filterMap id

-- The last patch of an entry in a history.
def lastPatch (history : List (List (Option (Item → Item)))) (index : Nat) : Option (Item → Item) :=
  history.reverse.findSome? fun patches => patches[index]?.join

-- Every patch has an entry, and a later patch of an entry hides an earlier one.
structure Absorbing (size : Nat) (history : List (List (Option (Item → Item)))) : Prop where
  sized : ∀ patches ∈ history, patches.length = size
  hides : ∀ earlier ∈ history, ∀ later ∈ history, ∀ (index : Nat) (first second : Item → Item),
    earlier[index]? = some (some first) → later[index]? = some (some second) → ∀ item, second (first item) = second item

theorem absorbing_front (size : Nat) (history : List (List (Option (Item → Item)))) (last : List (Option (Item → Item)))
    (absorbing : Absorbing size (history ++ [last])) : Absorbing size history where
  sized patches inside := absorbing.sized patches (List.mem_append_left _ inside)
  hides earlier first later second := absorbing.hides earlier (List.mem_append_left _ first) later (List.mem_append_left _ second)

theorem apply_length (table : List Item) (patches : List (Option (Item → Item))) (sized : patches.length = table.length) :
    (apply table patches).length = table.length := by
  rw [apply, List.length_zipWith, sized, Nat.min_self]

theorem apply_all_concat (table : List Item) (history : List (List (Option (Item → Item))))
    (last : List (Option (Item → Item))) : applyAll table (history ++ [last]) = apply (applyAll table history) last := by
  rw [applyAll, List.foldl_append]
  rfl

theorem apply_all_length (table : List Item) (history : List (List (Option (Item → Item))))
    (sized : ∀ patches ∈ history, patches.length = table.length) : (applyAll table history).length = table.length := by
  induction history using List.reverseRecOn with
  | nil => rfl
  | append_singleton history last ih =>
    have before := ih fun patches inside => sized patches (List.mem_append_left _ inside)
    rw [apply_all_concat, apply_length _ _ ((sized last List.mem_concat_self).trans before.symm), before]

theorem apply_entry (table : List Item) (patches : List (Option (Item → Item))) (index : Nat)
    (sized : patches.length = table.length) :
    (apply table patches)[index]? = table[index]?.map (patches[index]?.join.getD id) := by
  rw [apply, List.getElem?_zipWith]
  cases item : table[index]? with
  | none => rfl
  | some entry =>
    have inside : index < patches.length := by
      rw [sized]
      exact (List.getElem?_eq_some_iff.mp item).1
    rw [List.getElem?_eq_getElem inside]
    rfl

theorem last_patch_concat (history : List (List (Option (Item → Item)))) (last : List (Option (Item → Item))) (index : Nat) :
    lastPatch (history ++ [last]) index = last[index]?.join.or (lastPatch history index) := by
  rw [lastPatch, List.reverse_append, List.reverse_singleton, List.singleton_append, List.findSome?_cons]
  cases last[index]?.join <;> rfl

theorem last_patch_mem (history : List (List (Option (Item → Item)))) (index : Nat) (change : Item → Item)
    (last : lastPatch history index = some change) : ∃ patches ∈ history, patches[index]? = some (some change) := by
  obtain ⟨patches, inside, found⟩ := List.exists_of_findSome?_eq_some last
  refine ⟨patches, List.mem_reverse.mp inside, ?_⟩
  cases entry : patches[index]? with
  | none =>
    rw [entry] at found
    cases found
  | some patch =>
    rw [entry] at found
    exact congrArg some found

-- After any history every entry is the original one with its last patch made.
theorem apply_all_entry (table : List Item) (history : List (List (Option (Item → Item))))
    (absorbing : Absorbing table.length history) (index : Nat) :
    (applyAll table history)[index]? = table[index]?.map ((lastPatch history index).getD id) := by
  induction history using List.reverseRecOn with
  | nil => exact (Option.map_id_fun ▸ rfl : table[index]? = table[index]?.map id)
  | append_singleton history last ih =>
    have before := ih (absorbing_front _ history last absorbing)
    have sized := apply_all_length table history (absorbing_front _ history last absorbing).sized
    rw [apply_all_concat, apply_entry _ _ _ ((absorbing.sized last List.mem_concat_self).trans sized.symm), before,
      last_patch_concat, Option.map_map]
    congr 1
    funext item
    cases new : last[index]?.join with
    | none => rfl
    | some second =>
      cases old : lastPatch history index with
      | none => rfl
      | some first =>
        obtain ⟨earlier, inside, made⟩ := last_patch_mem history index first old
        refine absorbing.hides earlier (List.mem_append_left _ inside) last List.mem_concat_self index first second made ?_ item
        cases entry : last[index]? with
        | none =>
          rw [entry] at new
          cases new
        | some patch =>
          rw [entry] at new
          exact congrArg some new

-- What the last patches touch shows no trace of the patches before them.
theorem touched_fresh (table : List Item) (history : List (List (Option (Item → Item)))) (last : List (Option (Item → Item)))
    (absorbing : Absorbing table.length (history ++ [last])) :
    touched (applyAll table (history ++ [last])) last = patched table last := by
  rw [touched, patched]
  congr 1
  refine List.ext_getElem? fun index => ?_
  rw [List.getElem?_zipWith, List.getElem?_zipWith, apply_all_entry _ _ absorbing, last_patch_concat]
  cases table[index]? with
  | none => rfl
  | some item =>
    cases last[index]? with
    | none => rfl
    | some patch => cases patch <;> rfl

end Patches
