import Mathlib.Data.List.Basic
import Mathlib.Data.List.Pairwise
import Mathlib.Data.Nat.ModEq

set_option autoImplicit false

-- A log of which a circular array keeps the last entries: a new one overwrites the oldest.
namespace RingLog

-- Entry number k of the log is in cell k modulo the capacity, until that cell is
-- needed again.
structure Holds {Item : Type} (capacity : Nat) (cells : List Item) (head count : Nat) (log : List Item) : Prop where
  size : cells.length = capacity
  next : head = log.length % capacity
  filled : count = min log.length capacity
  kept : ∀ index, index < log.length → log.length ≤ index + capacity → cells[index % capacity]? = log[index]?

def latest {Item : Type} (capacity : Nat) (log : List Item) : List Item := log.drop (log.length - capacity)

theorem holds_empty {Item : Type} (capacity : Nat) (blank : Item) :
    Holds capacity (List.replicate capacity blank) 0 0 [] := by
  refine ⟨List.length_replicate, ?_, ?_, ?_⟩
  · rw [List.length_nil, Nat.zero_mod]
  · rw [List.length_nil, Nat.zero_min]
  · intro index inside
    cases inside

theorem cell_free (capacity length index : Nat) (earlier : index < length) (recent : length < index + capacity) :
    index % capacity ≠ length % capacity := by
  intro same
  have divides : capacity ∣ length - index := (Nat.modEq_iff_dvd' (Nat.le_of_lt earlier)).mp same
  have bound := Nat.le_of_dvd (by omega) divides
  omega

theorem holds_push {Item : Type} (capacity : Nat) (cells : List Item) (head count : Nat) (log : List Item) (item : Item)
    (positive : 0 < capacity) (holds : Holds capacity cells head count log) :
    Holds capacity (cells.set head item) ((head + 1) % capacity) (if count < capacity then count + 1 else count)
      (log ++ [item]) := by
  refine ⟨?_, ?_, ?_, ?_⟩
  · rw [List.length_set]
    exact holds.size
  · rw [holds.next, List.length_append, Nat.mod_add_mod, List.length_singleton]
  · rw [holds.filled, List.length_append, List.length_singleton]
    split <;> omega
  · intro index inside recent
    rw [List.length_append, List.length_singleton] at inside recent
    rcases Nat.lt_succ_iff_lt_or_eq.mp inside with earlier | newest
    · rw [List.getElem?_append_left earlier, holds.next,
        List.getElem?_set_ne (Ne.symm (cell_free capacity log.length index earlier (by omega)))]
      exact holds.kept index earlier (by omega)
    · have cell : log.length % capacity < cells.length := by
        rw [holds.size]
        exact Nat.mod_lt _ positive
      rw [newest, holds.next, List.getElem?_set_self cell, List.getElem?_concat_length]

theorem holds_member {Item : Type} (capacity : Nat) (cells : List Item) (head count : Nat) (log : List Item)
    (positive : 0 < capacity) (holds : Holds capacity cells head count log) (item : Item) :
    item ∈ cells.take count ↔ item ∈ latest capacity log := by
  rw [latest, List.mem_iff_getElem?, List.mem_iff_getElem?]
  constructor
  · rintro ⟨cell, found⟩
    obtain ⟨inside, _⟩ := List.getElem?_eq_some_iff.mp found
    rw [List.length_take, holds.size, holds.filled] at inside
    rw [List.getElem?_take_of_lt (by rw [holds.filled]; omega)] at found
    -- the entry now in this cell
    by_cases wrapped : log.length ≤ capacity
    · refine ⟨cell, ?_⟩
      rw [List.getElem?_drop, Nat.sub_eq_zero_of_le wrapped, Nat.zero_add, ← holds.kept cell (by omega) (by omega),
        Nat.mod_eq_of_lt (by omega)]
      exact found
    · have turn : (log.length - 1 - (log.length - 1 - cell) % capacity) % capacity = cell := by
        have split := Nat.div_add_mod (log.length - 1 - cell) capacity
        have position : log.length - 1 - (log.length - 1 - cell) % capacity =
            cell + capacity * ((log.length - 1 - cell) / capacity) := by omega
        rw [position, Nat.add_mul_mod_self_left, Nat.mod_eq_of_lt (by omega)]
      have back := Nat.mod_lt (log.length - 1 - cell) positive
      refine ⟨log.length - 1 - (log.length - 1 - cell) % capacity - (log.length - capacity), ?_⟩
      rw [List.getElem?_drop, Nat.add_sub_cancel' (by omega), ← holds.kept _ (by omega) (by omega), turn]
      exact found
  · rintro ⟨offset, found⟩
    rw [List.getElem?_drop] at found
    obtain ⟨inside, _⟩ := List.getElem?_eq_some_iff.mp found
    have kept := holds.kept _ inside (by omega)
    refine ⟨(log.length - capacity + offset) % capacity, ?_⟩
    rw [List.getElem?_take_of_lt, kept, found]
    rw [holds.filled]
    have cell := Nat.mod_lt (log.length - capacity + offset) positive
    have low := Nat.mod_le (log.length - capacity + offset) capacity
    omega

-- The scan that keeps the entry with the largest time seen so far.
def scan {Item Value : Type} (accepts : Item → Bool) (value : Item → Value) (time : Item → Nat) (best : Value × Nat)
    (item : Item) : Value × Nat :=
  if accepts item && decide (best.2 < time item) then (value item, time item) else best

theorem scan_result {Item Value : Type} (accepts : Item → Bool) (value : Item → Value) (time : Item → Nat)
    (items : List Item) (start : Value × Nat) :
    (items.foldl (scan accepts value time) start = start ∧ ∀ item ∈ items, accepts item = true → time item ≤ start.2) ∨
      ∃ item ∈ items, accepts item = true ∧ items.foldl (scan accepts value time) start = (value item, time item) ∧
        start.2 < time item ∧ ∀ other ∈ items, accepts other = true → time other ≤ time item := by
  induction items generalizing start with
  | nil => exact .inl ⟨rfl, fun _ member => absurd member List.not_mem_nil⟩
  | cons first rest ih =>
    rw [List.foldl_cons]
    by_cases better : (accepts first && decide (start.2 < time first)) = true
    · obtain ⟨accepted, later⟩ := Bool.and_eq_true_iff.mp better
      have less := of_decide_eq_true later
      rw [scan, if_pos better]
      rcases ih (value first, time first) with ⟨same, bounded⟩ | ⟨item, member, taken, same, above, bounded⟩
      · refine .inr ⟨first, List.mem_cons_self, accepted, same, less, ?_⟩
        intro other member accepts
        rcases List.mem_cons.mp member with rfl | inside
        · exact Nat.le_refl _
        · exact bounded other inside accepts
      · refine .inr ⟨item, List.mem_cons_of_mem _ member, taken, same, Nat.lt_trans less above, ?_⟩
        intro other inside accepts
        rcases List.mem_cons.mp inside with rfl | within
        · exact Nat.le_of_lt above
        · exact bounded other within accepts
    · have low : accepts first = true → time first ≤ start.2 := by
        intro accepted
        rw [accepted, Bool.true_and, decide_eq_true_iff] at better
        omega
      rw [scan, if_neg better]
      rcases ih start with ⟨same, bounded⟩ | ⟨item, member, taken, same, above, bounded⟩
      · refine .inl ⟨same, ?_⟩
        intro other member accepts
        rcases List.mem_cons.mp member with rfl | inside
        · exact low accepts
        · exact bounded other inside accepts
      · refine .inr ⟨item, List.mem_cons_of_mem _ member, taken, same, above, ?_⟩
        intro other inside accepts
        rcases List.mem_cons.mp inside with rfl | within
        · exact Nat.le_trans (low accepts) (Nat.le_of_lt above)
        · exact bounded other within accepts

-- In a list ordered by time the last accepted entry is the one no accepted entry is after.
theorem last_accepted {Item : Type} (accepts : Item → Bool) (time : Item → Nat) (items : List Item)
    (ordered : items.Pairwise fun earlier later => time earlier < time later) (item : Item) (member : item ∈ items)
    (accepted : accepts item = true) (newest : ∀ other ∈ items, accepts other = true → time other ≤ time item) :
    (items.filter accepts).getLast? = some item := by
  have inside : item ∈ items.filter accepts := List.mem_filter.mpr ⟨member, accepted⟩
  have sorted := ordered.filter accepts
  obtain ⟨before, after, split⟩ := List.append_of_mem inside
  rw [split] at sorted ⊢
  cases after with
  | nil => rw [List.getLast?_append]; simp
  | cons next rest =>
    have later := (List.pairwise_cons.mp (List.pairwise_append.mp sorted).2.1).1 next List.mem_cons_self
    have among : next ∈ items.filter accepts := by rw [split]; simp
    have bound := newest next (List.mem_filter.mp among).1 (List.mem_filter.mp among).2
    omega

theorem scan_latest {Item Value : Type} (accepts : Item → Bool) (value : Item → Value) (time : Item → Nat)
    (cells items : List Item) (same : ∀ item, item ∈ cells ↔ item ∈ items)
    (ordered : items.Pairwise fun earlier later => time earlier < time later) (positive : ∀ item ∈ items, 0 < time item)
    (default : Value) :
    (cells.foldl (scan accepts value time) (default, 0)).1 = (((items.filter accepts).getLast?).map value).getD default := by
  rcases scan_result accepts value time cells (default, 0) with ⟨found, bounded⟩ | ⟨item, member, accepted, found, _, bounded⟩
  · have none : items.filter accepts = [] := by
      refine List.filter_eq_nil_iff.mpr fun item member accepted => ?_
      have low := bounded item ((same item).mpr member) accepted
      have high := positive item member
      omega
    rw [found, none]
    rfl
  · rw [found, last_accepted accepts time items ordered item ((same item).mp member) accepted
      (fun other inside taken => bounded other ((same other).mpr inside) taken)]
    rfl

end RingLog
