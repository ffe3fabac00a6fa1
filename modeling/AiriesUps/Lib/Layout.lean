import Mathlib.Algebra.Group.Nat.Defs
import Mathlib.Data.BitVec

set_option autoImplicit false

namespace Layout

structure Range where
  start : Nat
  size : Nat
deriving DecidableEq, Repr

-- Each range starts where the one before it ends, the first one at the given place.
def Consecutive : Nat → List Range → Prop
  | _, [] => True
  | next, range :: rest => range.start = next ∧ Consecutive (next + range.size) rest

def Range.Apart (first second : Range) : Prop :=
  first.start + first.size ≤ second.start ∨ second.start + second.size ≤ first.start

instance (first second : Range) : Decidable (first.Apart second) := inferInstanceAs (Decidable (_ ∨ _))

theorem consecutive_after (next : Nat) (ranges : List Range) (consecutive : Consecutive next ranges) :
    ∀ range ∈ ranges, next ≤ range.start := by
  induction ranges generalizing next with
  | nil => intro range member; cases member
  | cons first rest ih =>
    obtain ⟨starts, later⟩ := consecutive
    intro range member
    rw [List.mem_cons] at member
    obtain rfl | member := member
    · exact Nat.le_of_eq starts.symm
    · exact Nat.le_trans (Nat.le_add_right next first.size) (ih _ later range member)

theorem consecutive_apart (next : Nat) (ranges : List Range) (consecutive : Consecutive next ranges) :
    ranges.Pairwise Range.Apart := by
  induction ranges generalizing next with
  | nil => exact List.Pairwise.nil
  | cons first rest ih =>
    obtain ⟨starts, later⟩ := consecutive
    refine List.Pairwise.cons (fun range member => ?_) (ih _ later)
    rw [← starts] at later
    exact Or.inl (consecutive_after _ rest later range member)

-- Ranges laid out by a counter of a fixed width, which also cuts their sizes.
def place (width : Nat) : BitVec width → List Nat → List Range
  | _, [] => []
  | counter, size :: rest =>
    { start := counter.toNat, size := (BitVec.ofNat width size).toNat } ::
      place width (counter + BitVec.ofNat width size) rest

def counterAfter (width : Nat) (counter : BitVec width) (sizes : List Nat) : BitVec width :=
  sizes.foldl (fun now size => now + BitVec.ofNat width size) counter

-- No size and no sum of the sizes before it needs more than the counter's width.
def Fits (width : Nat) : Nat → List Nat → Prop
  | _, [] => True
  | used, size :: rest => used < 2 ^ width ∧ size < 2 ^ width ∧ Fits width (used + size) rest

instance decidableFits (width : Nat) : ∀ used sizes, Decidable (Fits width used sizes)
  | _, [] => inferInstanceAs (Decidable True)
  | used, size :: rest =>
    have : Decidable (Fits width (used + size) rest) := decidableFits width (used + size) rest
    inferInstanceAs (Decidable (_ ∧ _))

theorem place_append (width : Nat) (counter : BitVec width) (sizes more : List Nat) :
    place width counter (sizes ++ more) =
      place width counter sizes ++ place width (counterAfter width counter sizes) more := by
  induction sizes generalizing counter with
  | nil => rfl
  | cons size rest ih =>
    rw [List.cons_append, place, place, ih, List.cons_append]
    rfl

theorem counter_after_append (width : Nat) (counter : BitVec width) (sizes more : List Nat) :
    counterAfter width counter (sizes ++ more) = counterAfter width (counterAfter width counter sizes) more :=
  List.foldl_append

theorem place_congr (width : Nat) (counter : BitVec width) (sizes others : List Nat)
    (same : sizes.map (BitVec.ofNat width) = others.map (BitVec.ofNat width)) :
    place width counter sizes = place width counter others := by
  induction sizes generalizing counter others with
  | nil =>
    rw [List.map_nil, eq_comm, List.map_eq_nil_iff] at same
    rw [same]
  | cons size rest ih =>
    cases others with
    | nil => cases same
    | cons other others =>
      rw [List.map_cons, List.map_cons, List.cons.injEq] at same
      rw [place, place, same.1, ih _ others same.2]

-- The counter lays the sizes out as they are exactly when everything fits it.
theorem place_consecutive_iff (width used : Nat) (sizes : List Nat) :
    Consecutive used (place width (BitVec.ofNat width used) sizes) ∧
        (place width (BitVec.ofNat width used) sizes).map Range.size = sizes ↔
      Fits width used sizes := by
  induction sizes generalizing used with
  | nil => exact ⟨fun _ => trivial, fun _ => ⟨trivial, rfl⟩⟩
  | cons size rest ih =>
    have next : BitVec.ofNat width used + BitVec.ofNat width size = BitVec.ofNat width (used + size) :=
      (BitVec.ofNat_add used size).symm
    have positive := Nat.two_pow_pos width
    rw [place, next, Consecutive, List.map_cons, List.cons.injEq, Fits, ← ih (used + size), BitVec.toNat_ofNat,
      BitVec.toNat_ofNat]
    refine ⟨fun ⟨⟨starts, later⟩, sized, sizes⟩ => ?_, fun ⟨below, small, later, sizes⟩ => ?_⟩
    · rw [sized] at later
      exact ⟨starts ▸ Nat.mod_lt used positive, sized ▸ Nat.mod_lt size positive, later, sizes⟩
    · rw [Nat.mod_eq_of_lt below, Nat.mod_eq_of_lt small]
      exact ⟨⟨rfl, later⟩, rfl, sizes⟩

end Layout
