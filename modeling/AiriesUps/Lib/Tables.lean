import Mathlib.Data.List.Basic

set_option autoImplicit false

namespace Tables

-- A table of threads, callers or slots is a list whose entries are changed in
-- place at a position and appended at the end.
theorem modify_found {Entry : Type} (table : List Entry) (position other : Nat) (change : Entry → Entry) (entry : Entry)
    (found : (table.modify position change)[other]? = some entry) :
    (other = position ∧ ∃ before, table[position]? = some before ∧ entry = change before) ∨
      (other ≠ position ∧ table[other]? = some entry) := by
  by_cases same : position = other
  · subst same
    rw [List.getElem?_modify_eq] at found
    obtain ⟨before, present, changed⟩ := Option.map_eq_some_iff.mp found
    exact Or.inl ⟨rfl, before, present, changed.symm⟩
  · rw [List.getElem?_modify_ne change table same] at found
    exact Or.inr ⟨fun equal => same equal.symm, found⟩

theorem modify_member {Entry : Type} (table : List Entry) (position : Nat) (change : Entry → Entry) (entry : Entry)
    (member : entry ∈ table.modify position change) :
    (∃ before, table[position]? = some before ∧ entry = change before) ∨ entry ∈ table := by
  obtain ⟨other, found⟩ := List.mem_iff_getElem?.mp member
  rcases modify_found table position other change entry found with ⟨_, changed⟩ | ⟨_, kept⟩
  · exact Or.inl changed
  · exact Or.inr (List.mem_of_getElem? kept)

theorem changed_member {Entry : Type} (table : List Entry) (position : Nat) (change : Entry → Entry) (entry other : Entry)
    (found : table[position]? = some entry) (member : other ∈ table.modify position change) :
    other = change entry ∨ other ∈ table := by
  rcases modify_member table position change other member with ⟨before, present, changed⟩ | old
  · rw [found, Option.some.injEq] at present
    exact Or.inl (present ▸ changed)
  · exact Or.inr old

theorem modify_same {Entry : Type} (table : List Entry) (position : Nat) (change : Entry → Entry) (entry : Entry)
    (found : table[position]? = some entry) : (table.modify position change)[position]? = some (change entry) := by
  rw [List.getElem?_modify_eq, found]
  rfl

theorem append_found {Entry : Type} (table : List Entry) (added entry : Entry) (position : Nat)
    (found : (table ++ [added])[position]? = some entry) :
    table[position]? = some entry ∨ (position = table.length ∧ entry = added) := by
  by_cases old : position < table.length
  · rw [List.getElem?_append_left old] at found
    exact Or.inl found
  · have inside := (List.getElem?_eq_some_iff.mp found).1
    rw [List.length_append, List.length_singleton] at inside
    have last : position = table.length := by omega
    rw [last, List.getElem?_concat_length, Option.some.injEq] at found
    exact Or.inr ⟨last, found.symm⟩

theorem set_found {Entry : Type} (table : List Entry) (position : Nat) (entry : Entry)
    (found : table[position]? = some entry) : table.set position entry = table := by
  obtain ⟨inside, same⟩ := List.getElem?_eq_some_iff.mp found
  rw [← same]
  exact List.set_getElem_self inside

-- Changing one entry moves the number of entries with a property by what the
-- entry itself lost or gained.
theorem count_modify {Entry : Type} (holds : Entry → Bool) (change : Entry → Entry) (table : List Entry) (position : Nat)
    (entry : Entry) (found : table[position]? = some entry) :
    (table.modify position change).countP holds + (holds entry).toNat =
      table.countP holds + (holds (change entry)).toNat := by
  induction table generalizing position with
  | nil => cases found
  | cons first rest ih =>
    cases position with
    | zero =>
      rw [List.getElem?_cons_zero, Option.some.injEq] at found
      subst found
      simp only [List.modify_zero_cons, List.countP_cons]
      cases holds first <;> cases holds (change first) <;> simp
    | succ position =>
      have later := ih position found
      simp only [List.modify_succ_cons, List.countP_cons]
      omega

theorem any_modify {Entry : Type} (holds : Entry → Bool) (change : Entry → Entry) (table : List Entry) (position : Nat)
    (entry : Entry) (found : table[position]? = some entry) (same : holds (change entry) = holds entry) :
    (table.modify position change).any holds = table.any holds := by
  have count := count_modify holds change table position entry found
  rw [same, Nat.add_right_cancel_iff] at count
  rw [Bool.eq_iff_iff, List.any_eq_true, List.any_eq_true, ← List.countP_pos_iff, ← List.countP_pos_iff, count]

theorem count_append {Entry : Type} (holds : Entry → Bool) (table : List Entry) (added : Entry) :
    (table ++ [added]).countP holds = table.countP holds + (holds added).toNat := by
  rw [List.countP_append, List.countP_singleton]
  cases holds added <;> rfl

-- With at most one such entry, two positions that hold one are the same.
theorem count_one_position {Entry : Type} (holds : Entry → Bool) (table : List Entry) (one : table.countP holds ≤ 1)
    (first second : Nat) (entry other : Entry) (found : table[first]? = some entry) (holdsEntry : holds entry = true)
    (foundOther : table[second]? = some other) (holdsOther : holds other = true) : first = second := by
  induction table generalizing first second with
  | nil => cases found
  | cons head rest ih =>
    rw [List.countP_cons] at one
    cases first with
    | zero =>
      cases second with
      | zero => rfl
      | succ second =>
        rw [List.getElem?_cons_zero, Option.some.injEq] at found
        rw [List.getElem?_cons_succ] at foundOther
        have later : 0 < rest.countP holds := List.countP_pos_iff.mpr ⟨other, List.mem_of_getElem? foundOther, holdsOther⟩
        rw [found, if_pos holdsEntry] at one
        omega
    | succ first =>
      rw [List.getElem?_cons_succ] at found
      cases second with
      | zero =>
        rw [List.getElem?_cons_zero, Option.some.injEq] at foundOther
        have later : 0 < rest.countP holds := List.countP_pos_iff.mpr ⟨entry, List.mem_of_getElem? found, holdsEntry⟩
        rw [foundOther, if_pos holdsOther] at one
        omega
      | succ second =>
        rw [List.getElem?_cons_succ] at foundOther
        exact congrArg Nat.succ (ih (by omega) first second found foundOther)

end Tables
