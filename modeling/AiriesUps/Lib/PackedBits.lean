import Mathlib.Data.BitVec
import Mathlib.Data.List.GetD

set_option autoImplicit false

-- A byte string read as a row of bits, the least significant bit of its first
-- byte first. Past its end every bit is clear.
namespace PackedBits

abbrev Byte := BitVec 8

def bitAt (bytes : List Byte) (position : Nat) : Bool :=
  (bytes.getD (position / 8) 0#8).getLsbD (position % 8)

-- front copied over the start of whole, which keeps its length.
def overlay (front whole : List Byte) : List Byte :=
  front.take whole.length ++ whole.drop front.length

def onlyBit (length position : Nat) : List Byte :=
  (List.replicate length 0#8).set (position / 8) (1#8 <<< (position % 8))

@[simp] theorem length_overlay (front whole : List Byte) : (overlay front whole).length = whole.length := by
  rw [overlay, List.length_append, List.length_take, List.length_drop]
  omega

@[simp] theorem length_onlyBit (length position : Nat) : (onlyBit length position).length = length := by
  rw [onlyBit, List.length_set, List.length_replicate]

theorem overlay_take (front whole : List Byte) (fits : front.length ≤ whole.length) :
    (overlay front whole).take front.length = front := by
  rw [overlay, List.take_of_length_le fits, List.take_left]

theorem overlay_getD_inside (front whole : List Byte) (index : Nat) (inFront : index < front.length)
    (inWhole : index < whole.length) : (overlay front whole).getD index 0#8 = front.getD index 0#8 := by
  have inTake : index < (front.take whole.length).length := by
    rw [List.length_take]
    exact lt_min inWhole inFront
  rw [overlay, List.getD_append _ _ _ _ inTake, List.getD_eq_getElem _ _ inTake, List.getD_eq_getElem _ _ inFront,
    List.getElem_take]

theorem overlay_getD_outside (front whole : List Byte) (index : Nat) (past : front.length ≤ index) :
    (overlay front whole).getD index 0#8 = whole.getD index 0#8 := by
  by_cases short : whole.length ≤ index
  · rw [List.getD_eq_default _ _ (by rw [length_overlay]; exact short), List.getD_eq_default _ _ short]
  · have taken : (front.take whole.length).length = front.length := by
      rw [List.length_take]
      omega
    rw [overlay, List.getD_append_right _ _ _ _ (by omega), taken]
    rw [List.getD_eq_getElem?_getD, List.getElem?_drop, List.getD_eq_getElem?_getD]
    congr 3
    omega

theorem bitAt_overlay_inside (front whole : List Byte) (position : Nat) (inFront : position / 8 < front.length)
    (inWhole : position / 8 < whole.length) : bitAt (overlay front whole) position = bitAt front position := by
  rw [bitAt, overlay_getD_inside front whole _ inFront inWhole, bitAt]

theorem bitAt_overlay_outside (front whole : List Byte) (position : Nat) (past : front.length ≤ position / 8) :
    bitAt (overlay front whole) position = bitAt whole position := by
  rw [bitAt, overlay_getD_outside front whole _ past, bitAt]

@[simp] theorem bitAt_zeros (length position : Nat) : bitAt (List.replicate length 0#8) position = false := by
  by_cases inside : position / 8 < length
  · simp [bitAt, List.getD_eq_getElem?_getD, inside]
  · simp [bitAt, List.getD_eq_getElem?_getD, inside]

theorem bitAt_onlyBit (length position other : Nat) (inside : position / 8 < length) :
    bitAt (onlyBit length position) other = decide (other = position) := by
  by_cases same : position / 8 = other / 8
  · have found : (onlyBit length position).getD (other / 8) 0#8 = 1#8 <<< (position % 8) := by
      simp [onlyBit, List.getD_eq_getElem?_getD, same, same ▸ inside]
    rw [bitAt, found, ← BitVec.twoPow_eq, BitVec.getLsbD_twoPow]
    have bound : position % 8 < 8 := Nat.mod_lt _ (by omega)
    rw [decide_eq_true bound, Bool.true_and]
    exact decide_eq_decide.mpr (by omega)
  · have differ : other ≠ position := fun equal => same (by rw [equal])
    have untouched : (onlyBit length position).getD (other / 8) 0#8 = (List.replicate length 0#8).getD (other / 8) 0#8 := by
      rw [onlyBit, List.getD_eq_getElem?_getD, List.getElem?_set_ne same, List.getD_eq_getElem?_getD]
    rw [bitAt, untouched, ← bitAt, bitAt_zeros]
    exact (decide_eq_false differ).symm

theorem bitAt_cons_first (byte : Byte) (rest : List Byte) (position : Nat) (first : position < 8) :
    bitAt (byte :: rest) position = byte.getLsbD position := by
  rw [bitAt, Nat.div_eq_of_lt first, Nat.mod_eq_of_lt first, List.getD_cons_zero]

theorem bitAt_cons_later (byte : Byte) (rest : List Byte) (position : Nat) :
    bitAt (byte :: rest) (position + 8) = bitAt rest position := by
  rw [bitAt, Nat.add_div_right _ (by omega), Nat.add_mod_right, List.getD_cons_succ, bitAt]

end PackedBits
