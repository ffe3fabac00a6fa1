import AiriesUps.Hid.FieldRead

set_option autoImplicit false

namespace AiriesUps.Hid

open PackedBits (Byte)

-- The extraction bit by bit, which the byte-aligned fast paths stand in for.
def extractGeneral (buf : List Byte) (field : HidField) : Except Fault (BitVec 32) := do
  let result ← extractBits buf field field.bitSize.toNat
  .ok (signExtend field result)

-- The field's bits in little-endian order, and its sign above them where its
-- logical minimum is negative.
def HidField.IsValue (field : HidField) (buf : List Byte) (value : BitVec 32) : Prop :=
  ∀ index, index < 32 → value.getLsbD index =
    if index < field.bitSize.toNat then dataBit buf field index
    else decide (field.logicalMin < 0 ∧ 0 < field.bitSize.toNat) && dataBit buf field (field.bitSize.toNat - 1)

-- An aligned field of 8 or 16 bits with a negative value.
def HidField.NegativeByte (field : HidField) (buf : List Byte) : Prop :=
  field.bitOffset.toNat % 8 = 0 ∧ (field.bitSize.toNat = 8 ∨ field.bitSize.toNat = 16) ∧ field.logicalMin < 0 ∧
    dataBit buf field (field.bitSize.toNat - 1) = true

instance (field : HidField) (buf : List Byte) : Decidable (field.NegativeByte buf) :=
  inferInstanceAs (Decidable (_ ∧ _))

theorem general_value (buf : List Byte) (field : HidField) (inside : field.inBuffer)
    (narrow : field.bitSize.toNat ≤ 32) :
    ∃ value, extractGeneral buf field = .ok value ∧ field.IsValue buf value := by
  obtain ⟨result, extracted, bits⟩ := extract_bits_spec buf field field.bitSize.toNat fun b below wide => by omega
  have inWordBit := field_bit_inside buf field inside
  refine ⟨signExtend field result, by rw [extractGeneral, extracted]; rfl, fun index inWord => ?_⟩
  rw [sign_extend_bit field result index inWord, bits index inWord]
  by_cases low : index < field.bitSize.toNat
  · simp [low, inWordBit index low]
  · by_cases negative : field.logicalMin < 0 ∧ 0 < field.bitSize.toNat
    · have top : field.bitSize.toNat - 1 < field.bitSize.toNat := by omega
      have extended : field.logicalMin < 0 ∧ 0 < field.bitSize.toNat ∧ field.bitSize.toNat < 32 ∧
          field.bitSize.toNat ≤ index := ⟨negative.1, negative.2, by omega, Nat.not_lt.mp low⟩
      rw [if_neg low, decide_eq_true negative, decide_eq_true extended, bits _ (by omega), decide_eq_true top,
        decide_eq_false low, inWordBit _ top]
      rfl
    · have kept : ¬(field.logicalMin < 0 ∧ 0 < field.bitSize.toNat ∧ field.bitSize.toNat < 32 ∧
          field.bitSize.toNat ≤ index) := fun extended => negative ⟨extended.1, extended.2.1⟩
      rw [if_neg low, decide_eq_false negative, decide_eq_false kept, decide_eq_false low]
      rfl

theorem value_unique (field : HidField) (buf : List Byte) (first second : BitVec 32) (isFirst : field.IsValue buf first)
    (isSecond : field.IsValue buf second) : first = second := by
  apply BitVec.eq_of_getLsbD_eq
  intro index inWord
  rw [isFirst index inWord, isSecond index inWord]

-- The fast paths leave the bits above the field clear.
theorem filled_is_value (field : HidField) (buf : List Byte) (value : BitVec 32) (fills : field.FillsWord buf value) (positive : ¬field.NegativeByte buf) : field.IsValue buf value := by
  intro index inWord
  rw [fills index inWord]
  by_cases low : index < field.bitSize.toNat
  · rw [if_pos low, if_pos low]
  · rw [if_neg low, if_neg low]
    by_cases negative : field.logicalMin < 0 ∧ 0 < field.bitSize.toNat
    · by_cases fast : field.bitOffset.toNat % 8 = 0 ∧ (field.bitSize.toNat = 8 ∨ field.bitSize.toNat = 16)
      · have clear : dataBit buf field (field.bitSize.toNat - 1) = false := by
          by_contra sign
          exact positive ⟨fast.1, fast.2, negative.1, by simpa using sign⟩
        rw [clear, Bool.and_false, Bool.and_false]
      · have signed : field.signed := ⟨negative.1, negative.2, by omega, fast⟩
        rw [decide_eq_true negative, decide_eq_true signed]
    · have unsigned : ¬field.signed := fun signed => negative ⟨signed.1, signed.2.1⟩
      rw [decide_eq_false negative, decide_eq_false unsigned]

theorem negative_byte_cut (field : HidField) (buf : List Byte) (value : BitVec 32) (fills : field.FillsWord buf value)
    (negative : field.NegativeByte buf) : ¬field.IsValue buf value := by
  intro isValue
  obtain ⟨aligned, size, minimum, sign⟩ := negative
  have inWord : field.bitSize.toNat < 32 := by omega
  have unsigned : ¬field.signed := fun signed => signed.2.2.2 ⟨aligned, size⟩
  have extended : field.logicalMin < 0 ∧ 0 < field.bitSize.toNat := ⟨minimum, by omega⟩
  have filled := fills field.bitSize.toNat inWord
  rw [isValue field.bitSize.toNat inWord, if_neg (Nat.lt_irrefl _), if_neg (Nat.lt_irrefl _), decide_eq_true extended,
    decide_eq_false unsigned, sign] at filled
  cases filled

theorem fast_paths_agree_iff (buf : List Byte) (field : HidField) (full : buf.length = readBufferSize)
    (inside : field.inBuffer) (narrow : field.bitSize.toNat ≤ 32) :
    (∃ value, extract buf field = .ok value ∧ extractGeneral buf field = .ok value ∧ field.IsValue buf value) ↔
      ¬field.NegativeByte buf := by
  obtain ⟨value, extracted, fills⟩ := extract_inside buf field full inside fun b wide below => by omega
  obtain ⟨general, isGeneral, isValue⟩ := general_value buf field inside narrow
  rw [extracted, isGeneral]
  refine ⟨fun ⟨both, isFirst, _, isBoth⟩ negative => ?_, fun positive => ?_⟩
  · cases isFirst
    exact negative_byte_cut field buf value fills negative isBoth
  · have same := value_unique field buf value general (filled_is_value field buf value fills positive) isValue
    exact ⟨value, rfl, by rw [same], same ▸ isValue⟩

-- An aligned signed byte, and a report that holds -1 in it.
def signedByteField : HidField :=
  { usagePath := [], usagePage := 0, usageId := 0, reportId := 0, bitOffset := 0, bitSize := 8, type := .feature
    logicalMin := -128, logicalMax := 127, physicalMin := 0, physicalMax := 0, unitExponent := 0, unit := 0 }

def minusOneReport : List Byte := 0 :: 0xFF :: List.replicate 62 0

theorem positive_byte_agrees :
    ∃ value, extract (List.replicate 64 0) signedByteField = .ok value ∧
      extractGeneral (List.replicate 64 0) signedByteField = .ok value ∧
      signedByteField.IsValue (List.replicate 64 0) value :=
  (fast_paths_agree_iff (List.replicate 64 0) signedByteField (by decide) (fun _ => by decide) (by decide)).mpr (by decide)

theorem negative_byte_read_unsigned :
    minusOneReport.length = readBufferSize ∧ signedByteField.inBuffer ∧
      extract minusOneReport signedByteField = .ok 255 ∧
      extractGeneral minusOneReport signedByteField = .ok (-1) ∧ (255 : BitVec 32) ≠ -1 :=
  ⟨rfl, fun _ => by decide, rfl, rfl, by decide⟩

end AiriesUps.Hid
