import AiriesUps.Lib.Decimal
import AiriesUps.Monitor.SlowLoop
import AiriesUps.Shutdown.Result

set_option autoImplicit false

namespace AiriesUps.Monitor

open Ups Shutdown

-- The row of ups_status_snapshot; its columns are INTEGER.
structure SnapshotRow where
  status : Nat
  batSystemError : Nat
  generalError : Nat
  powerSystemError : Nat
  batLifetimeStatus : Nat
deriving DecidableEq, Repr

def SnapshotRow.ofSnapshot (snapshot : Snapshot) : SnapshotRow :=
  { status := snapshot.status.toNat
    batSystemError := snapshot.batSystemError.toNat
    generalError := snapshot.generalError.toNat
    powerSystemError := snapshot.powerSystemError.toNat
    batLifetimeStatus := snapshot.batLifetimeStatus.toNat }

-- A text parameter in an INTEGER column is stored as the number it is written for,
-- and read back as the text of that number.
def integerColumn (text : String) : Nat := Decimal.leadingDigits text.toList

def columnText (value : Nat) : List Char := Nat.toDigits 10 value

-- The columns status_snapshot_save writes for the "%u" of each field in its buffer.
def statusSnapshotSave (snapshot : Snapshot) : SnapshotRow :=
  { status := integerColumn (snprintf 16 (toString snapshot.status.toNat))
    batSystemError := integerColumn (snprintf 8 (toString snapshot.batSystemError.toNat))
    generalError := integerColumn (snprintf 8 (toString snapshot.generalError.toNat))
    powerSystemError := integerColumn (snprintf 16 (toString snapshot.powerSystemError.toNat))
    batLifetimeStatus := integerColumn (snprintf 8 (toString snapshot.batLifetimeStatus.toNat)) }

def statusSnapshotLoad (row : SnapshotRow) : Snapshot :=
  { status := BitVec.ofNat 32 (Decimal.strtoul (columnText row.status))
    batSystemError := BitVec.ofNat 16 (Decimal.strtoul (columnText row.batSystemError))
    generalError := BitVec.ofNat 16 (Decimal.strtoul (columnText row.generalError))
    powerSystemError := BitVec.ofNat 32 (Decimal.strtoul (columnText row.powerSystemError))
    batLifetimeStatus := BitVec.ofNat 16 (Decimal.strtoul (columnText row.batLifetimeStatus)) }

theorem printed_column (size digits value : Nat) (room : digits + 1 = size) (positive : 0 < digits)
    (inside : value < 10 ^ digits) : integerColumn (snprintf size (toString value)) = value := by
  have short : (Nat.toDigits 10 value).length ≤ size - 1 := by
    rw [← room, Nat.add_sub_cancel]
    exact (Nat.length_toDigits_le_iff (by decide) positive).mpr inside
  rw [integerColumn, snprintf, String.toList_ofList, Nat.toString_eq_repr, Nat.toList_repr, List.take_of_length_le short]
  exact Decimal.leading_digits_printed value

theorem column_register {width : Nat} (field : BitVec width) (narrow : width ≤ 32) :
    BitVec.ofNat width (Decimal.strtoul (columnText field.toNat)) = field := by
  have inside : field.toNat ≤ Decimal.ulongMax := by
    have bound := field.isLt
    have power : 2 ^ width ≤ 2 ^ 32 := Nat.pow_le_pow_right (by decide) narrow
    rw [Decimal.ulongMax]
    omega
  rw [columnText, Decimal.strtoul_printed field.toNat inside]
  rw [BitVec.ofNat_toNat, BitVec.setWidth_eq]

theorem snapshot_saved (snapshot : Snapshot) : statusSnapshotSave snapshot = SnapshotRow.ofSnapshot snapshot := by
  have wide : ∀ field : Word, integerColumn (snprintf 16 (toString field.toNat)) = field.toNat := fun field =>
    printed_column 16 15 field.toNat rfl (by decide) (Nat.lt_trans field.isLt (by decide))
  have narrow : ∀ field : BitVec 16, integerColumn (snprintf 8 (toString field.toNat)) = field.toNat := fun field =>
    printed_column 8 7 field.toNat rfl (by decide) (Nat.lt_trans field.isLt (by decide))
  rw [statusSnapshotSave, wide, wide, narrow, narrow, narrow]
  rfl

theorem snapshot_loaded (snapshot : Snapshot) : statusSnapshotLoad (SnapshotRow.ofSnapshot snapshot) = snapshot := by
  simp only [statusSnapshotLoad, SnapshotRow.ofSnapshot, column_register, Nat.le_refl, Nat.reduceLeDiff]

end AiriesUps.Monitor
