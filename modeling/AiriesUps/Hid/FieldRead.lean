import AiriesUps.Hid.Parser

set_option autoImplicit false

namespace AiriesUps.Hid

open PackedBits (Byte overlay bitAt)

-- What the code may do outside its own data: touch a byte past a buffer, or
-- shift a 32-bit word by 32 or more.
inductive Fault where
  | bufferOverrun
  | oversizedShift
deriving DecidableEq, Repr

-- A hidraw node: the ioctls on it fail with none. A feature read changes nothing.
structure Hidraw (Device : Type) where
  getFeature : Device → Byte → Nat → Option (List Byte)
  setFeature : Device → List Byte → Option Device

-- HIDIOCGFEATURE(length) into buf: the report named by buf[0], id byte first.
def hidiocgfeature {Device : Type} (node : Hidraw Device) (device : Device) (buf : List Byte) (length : Nat) :
    Option (Except Fault (List Byte)) :=
  (node.getFeature device (buf.getD 0 0) length).map fun report =>
    if (report.take length).length ≤ buf.length then .ok (overlay (report.take length) buf)
    else .error .bufferOverrun

def readBufferSize : Nat := 64

def byteAt (buf : List Byte) (index : Nat) : Except Fault (BitVec 32) :=
  match buf[index]? with
  | some byte => .ok (byte.setWidth 32)
  | none => .error .bufferOverrun

-- buf[byte_idx] & (1u << bit_idx) for the bit b of the field, inside the buffer
def fieldBit (buf : List Byte) (field : HidField) (b : Nat) : Bool :=
  let absBit := (field.bitOffset + BitVec.ofNat 16 b).toNat
  decide (1 + absBit / 8 < readBufferSize) && (buf.getD (1 + absBit / 8) 0).getLsbD (absBit % 8)

def extractBits (buf : List Byte) (field : HidField) : Nat → Except Fault (BitVec 32)
  | 0 => .ok 0
  | b + 1 => do
    let result ← extractBits buf field b
    if fieldBit buf field b then
      if b < 32 then .ok (result ||| 1#32 <<< b) else .error .oversizedShift
    else .ok result

def signExtend (field : HidField) (result : BitVec 32) : BitVec 32 :=
  let bits := field.bitSize.toNat
  if field.logicalMin < 0 ∧ bits > 0 ∧ bits < 32 ∧ result.getLsbD (bits - 1) then
    result ||| ~~~((1#32 <<< bits) - 1)
  else result

def extract (buf : List Byte) (field : HidField) : Except Fault (BitVec 32) :=
  let byteOff := field.bitOffset.toNat / 8
  let bitOff := field.bitOffset.toNat % 8
  let bits := field.bitSize.toNat
  if bitOff = 0 ∧ bits = 8 then byteAt buf (1 + byteOff)
  else if bitOff = 0 ∧ bits = 16 then do
    let low ← byteAt buf (1 + byteOff)
    let high ← byteAt buf (2 + byteOff)
    .ok (low ||| high <<< 8)
  else if bitOff = 0 ∧ bits = 32 then do
    let first ← byteAt buf (1 + byteOff)
    let second ← byteAt buf (2 + byteOff)
    let third ← byteAt buf (3 + byteOff)
    let fourth ← byteAt buf (4 + byteOff)
    .ok (first ||| second <<< 8 ||| third <<< 16 ||| fourth <<< 24)
  else do
    let result ← extractBits buf field bits
    .ok (signExtend field result)

-- hid_field_read_raw; the int32_t result is a 32-bit word
def hidFieldReadRaw {Device : Type} (node : Hidraw Device) (device : Device) (field : Option HidField) :
    Except Fault (BitVec 32) :=
  match field with
  | none => .ok 0
  | some field =>
    match hidiocgfeature node device ((List.replicate readBufferSize 0).set 0 field.reportId) readBufferSize with
    | none => .ok 0
    | some read => do
      let buf ← read
      extract buf field

-- A device that stores and returns its feature reports as they are: the data of
-- each report id, of the report's own length.
abbrev Reports := Byte → List Byte

def reportsNode : Hidraw Reports :=
  { getFeature := fun reports id length => some ((id :: reports id).take length)
    setFeature := fun reports buf =>
      match buf with
      | [] => none
      | id :: data => some (Function.update reports id (overlay data (reports id))) }

theorem extract_bits_spec (buf : List Byte) (field : HidField) (count : Nat)
    (narrow : ∀ b, b < count → 32 ≤ b → fieldBit buf field b = false) :
    ∃ result, extractBits buf field count = .ok result ∧
      ∀ index, index < 32 → result.getLsbD index = (decide (index < count) && fieldBit buf field index) := by
  induction count with
  | zero => exact ⟨0, rfl, fun index _ => by simp⟩
  | succ b ih =>
    obtain ⟨result, extracted, bits⟩ := ih fun lower below => narrow lower (by omega)
    by_cases isSet : fieldBit buf field b = true
    · have small : b < 32 := by
        by_contra wide
        rw [narrow b (by omega) (by omega)] at isSet
        exact absurd isSet (by decide)
      refine ⟨result ||| 1#32 <<< b, ?_, fun index inside => ?_⟩
      · simp only [extractBits, extracted, bind, Except.bind, if_pos isSet, if_pos small]
      · rw [BitVec.getLsbD_or, bits index inside, ← BitVec.twoPow_eq, BitVec.getLsbD_twoPow]
        by_cases same : b = index
        · simp [← same, isSet, small]
        · simp only [same, decide_false, Bool.and_false, Bool.or_false]
          congr 1
          exact decide_eq_decide.mpr (by omega)
    · refine ⟨result, ?_, fun index inside => ?_⟩
      · simp only [extractBits, extracted, bind, Except.bind, if_neg isSet]
      · rw [bits index inside]
        by_cases same : b = index
        · subst same
          simp [isSet]
        · congr 1
          exact decide_eq_decide.mpr (by omega)

-- The bit of the report buffer that holds bit b of the field; data follow the id byte.
def dataBit (buf : List Byte) (field : HidField) (b : Nat) : Bool :=
  bitAt buf (8 + (field.bitOffset.toNat + b))

def HidField.inBuffer (field : HidField) : Prop :=
  0 < field.bitSize.toNat → field.bitOffset.toNat + field.bitSize.toNat ≤ 8 * (readBufferSize - 1)

theorem field_bit_inside (buf : List Byte) (field : HidField) (inside : field.inBuffer) (b : Nat)
    (below : b < field.bitSize.toNat) : fieldBit buf field b = dataBit buf field b := by
  simp only [HidField.inBuffer, readBufferSize] at inside
  have position : (field.bitOffset + BitVec.ofNat 16 b).toNat = field.bitOffset.toNat + b := by
    rw [BitVec.toNat_add, BitVec.toNat_ofNat]
    omega
  have inRange : 1 + (field.bitOffset.toNat + b) / 8 < readBufferSize := by
    rw [readBufferSize]
    omega
  have byteIndex : (8 + (field.bitOffset.toNat + b)) / 8 = 1 + (field.bitOffset.toNat + b) / 8 := by omega
  have bitIndex : (8 + (field.bitOffset.toNat + b)) % 8 = (field.bitOffset.toNat + b) % 8 := by omega
  simp only [fieldBit, position, decide_eq_true inRange, Bool.true_and, dataBit, bitAt, byteIndex, bitIndex]
  rfl

theorem low_mask_bit (count index : Nat) (small : count < 32) :
    ((1#32 <<< count) - 1).getLsbD index = decide (index < count) := by
  have mask : ((1#32 <<< count) - 1).toNat = 2 ^ count - 1 := by
    have power : 2 ^ count < 2 ^ 32 := Nat.pow_lt_pow_right (by omega) small
    have positive := Nat.two_pow_pos count
    have one : (1 : BitVec 32).toNat = 1 := rfl
    rw [← BitVec.twoPow_eq, BitVec.toNat_sub, BitVec.toNat_twoPow_of_lt small, one]
    omega
  rw [← BitVec.testBit_toNat, mask, Nat.testBit_two_pow_sub_one]

theorem sign_extend_bit (field : HidField) (result : BitVec 32) (index : Nat) (inside : index < 32) :
    (signExtend field result).getLsbD index =
      (result.getLsbD index ||
        (decide (field.logicalMin < 0 ∧ 0 < field.bitSize.toNat ∧ field.bitSize.toNat < 32 ∧
            field.bitSize.toNat ≤ index) && result.getLsbD (field.bitSize.toNat - 1))) := by
  rw [signExtend]
  by_cases extended :
      field.logicalMin < 0 ∧ field.bitSize.toNat > 0 ∧ field.bitSize.toNat < 32 ∧
        result.getLsbD (field.bitSize.toNat - 1)
  · obtain ⟨negative, positive, small, sign⟩ := extended
    rw [if_pos ⟨negative, positive, small, sign⟩, BitVec.getLsbD_or, BitVec.getLsbD_not,
      low_mask_bit _ index small, sign]
    by_cases low : index < field.bitSize.toNat
    · simp [low, Nat.not_le.mpr low, inside]
    · simp [low, negative, positive, small, Nat.not_lt.mp low, inside]
  · rw [if_neg extended]
    by_cases reached :
        field.logicalMin < 0 ∧ 0 < field.bitSize.toNat ∧ field.bitSize.toNat < 32 ∧ field.bitSize.toNat ≤ index
    · have clear : result.getLsbD (field.bitSize.toNat - 1) = false := by
        by_contra sign
        exact extended ⟨reached.1, reached.2.1, reached.2.2.1, by simpa using sign⟩
      rw [clear, Bool.and_false, Bool.or_false]
    · rw [decide_eq_false reached, Bool.false_and, Bool.or_false]

theorem byte_at_inside (buf : List Byte) (index : Nat) (inside : index < buf.length) :
    byteAt buf index = .ok ((buf.getD index 0).setWidth 32) := by
  rw [byteAt, List.getElem?_eq_getElem inside, List.getD_eq_getElem _ _ inside]

-- Byte number `later` of an aligned field, as the fast paths place it in the word.
theorem aligned_byte_bit (buf : List Byte) (field : HidField) (aligned : field.bitOffset.toNat % 8 = 0)
    (later index : Nat) (inside : index < 32) :
    ((buf.getD (1 + later + field.bitOffset.toNat / 8) 0).setWidth 32 <<< (8 * later)).getLsbD index =
      (decide (8 * later ≤ index ∧ index < 8 * later + 8) && dataBit buf field index) := by
  rw [BitVec.getLsbD_shiftLeft, BitVec.getLsbD_setWidth]
  by_cases within : 8 * later ≤ index ∧ index < 8 * later + 8
  · have byteIndex : (8 + (field.bitOffset.toNat + index)) / 8 = 1 + later + field.bitOffset.toNat / 8 := by omega
    have bitIndex : (8 + (field.bitOffset.toNat + index)) % 8 = index - 8 * later := by omega
    simp [within, inside, Nat.not_lt.mpr within.1, dataBit, bitAt, byteIndex, bitIndex, Nat.lt_of_le_of_lt (Nat.sub_le _ _) inside]
  · rw [decide_eq_false within, Bool.false_and]
    by_cases below : index < 8 * later
    · simp [below]
    · have past : 8 ≤ index - 8 * later := by omega
      simp [BitVec.getLsbD_of_ge _ _ past]

-- A field the reader sign-extends: the aligned 8- and 16-bit paths never do.
def HidField.signed (field : HidField) : Prop :=
  field.logicalMin < 0 ∧ 0 < field.bitSize.toNat ∧ field.bitSize.toNat < 32 ∧
    ¬(field.bitOffset.toNat % 8 = 0 ∧ (field.bitSize.toNat = 8 ∨ field.bitSize.toNat = 16))

instance (field : HidField) : Decidable field.signed := inferInstanceAs (Decidable (_ ∧ _))

def HidField.FillsWord (field : HidField) (buf : List Byte) (result : BitVec 32) : Prop :=
  ∀ index, index < 32 →
    result.getLsbD index =
      if index < field.bitSize.toNat then dataBit buf field index
      else decide field.signed && dataBit buf field (field.bitSize.toNat - 1)

theorem first_byte_bit (buf : List Byte) (field : HidField) (aligned : field.bitOffset.toNat % 8 = 0) (index : Nat)
    (inside : index < 32) :
    ((buf.getD (1 + field.bitOffset.toNat / 8) 0).setWidth 32).getLsbD index =
      (decide (index < 8) && dataBit buf field index) := by
  simpa using aligned_byte_bit buf field aligned 0 index inside

theorem byte_fills_word (buf : List Byte) (field : HidField) (aligned : field.bitOffset.toNat % 8 = 0)
    (size : field.bitSize.toNat = 8) :
    field.FillsWord buf ((buf.getD (1 + field.bitOffset.toNat / 8) 0).setWidth 32) := by
  intro index inWord
  have unsigned : ¬field.signed := fun signed => signed.2.2.2 ⟨aligned, Or.inl size⟩
  rw [first_byte_bit buf field aligned index inWord, size]
  by_cases low : index < 8 <;> simp [low, unsigned]

theorem word_fills_word (buf : List Byte) (field : HidField) (aligned : field.bitOffset.toNat % 8 = 0)
    (size : field.bitSize.toNat = 16) :
    field.FillsWord buf
      ((buf.getD (1 + field.bitOffset.toNat / 8) 0).setWidth 32 |||
        (buf.getD (2 + field.bitOffset.toNat / 8) 0).setWidth 32 <<< 8) := by
  intro index inWord
  have second := aligned_byte_bit buf field aligned 1 index inWord
  have unsigned : ¬field.signed := fun signed => signed.2.2.2 ⟨aligned, Or.inr size⟩
  simp only [Nat.mul_one, Nat.reduceAdd] at second
  rw [BitVec.getLsbD_or, first_byte_bit buf field aligned index inWord, second, size, decide_eq_false unsigned,
    Bool.false_and]
  by_cases low : index < 8
  · simp [low, Nat.not_le.mpr low, show index < 16 by omega]
  · by_cases high : index < 16 <;> simp [low, high, Nat.not_lt.mp low]

theorem double_fills_word (buf : List Byte) (field : HidField) (aligned : field.bitOffset.toNat % 8 = 0)
    (size : field.bitSize.toNat = 32) :
    field.FillsWord buf
      ((buf.getD (1 + field.bitOffset.toNat / 8) 0).setWidth 32 |||
        (buf.getD (2 + field.bitOffset.toNat / 8) 0).setWidth 32 <<< 8 |||
        (buf.getD (3 + field.bitOffset.toNat / 8) 0).setWidth 32 <<< 16 |||
        (buf.getD (4 + field.bitOffset.toNat / 8) 0).setWidth 32 <<< 24) := by
  intro index inWord
  have second := aligned_byte_bit buf field aligned 1 index inWord
  have third := aligned_byte_bit buf field aligned 2 index inWord
  have fourth := aligned_byte_bit buf field aligned 3 index inWord
  simp only [Nat.mul_one, Nat.reduceAdd, Nat.reduceMul] at second third fourth
  have covered : (decide (index < 8) || decide (8 ≤ index ∧ index < 16) || decide (16 ≤ index ∧ index < 24) ||
      decide (24 ≤ index ∧ index < 32)) = true := by
    simp only [Bool.or_eq_true, decide_eq_true_eq]
    omega
  rw [BitVec.getLsbD_or, BitVec.getLsbD_or, BitVec.getLsbD_or, first_byte_bit buf field aligned index inWord, second,
    third, fourth, size, if_pos inWord, ← Bool.and_or_distrib_right, ← Bool.and_or_distrib_right,
    ← Bool.and_or_distrib_right, covered, Bool.true_and]

theorem bits_fill_word (buf : List Byte) (field : HidField) (inside : field.inBuffer)
    (unaligned : ¬(field.bitOffset.toNat % 8 = 0 ∧ (field.bitSize.toNat = 8 ∨ field.bitSize.toNat = 16)))
    (result : BitVec 32)
    (bits : ∀ index, index < 32 →
      result.getLsbD index = (decide (index < field.bitSize.toNat) && fieldBit buf field index)) :
    field.FillsWord buf (signExtend field result) := by
  intro index inWord
  have same := field_bit_inside buf field inside
  rw [sign_extend_bit field result index inWord, bits index inWord]
  by_cases low : index < field.bitSize.toNat
  · simp [low, same index low]
  · by_cases signed : field.signed
    · obtain ⟨negative, positive, small, _⟩ := signed
      have top : field.bitSize.toNat - 1 < field.bitSize.toNat := by omega
      have signed : field.signed := ⟨negative, positive, small, unaligned⟩
      simp [low, signed, bits (field.bitSize.toNat - 1) (by omega), top, same _ top, negative, positive, small,
        Nat.not_lt.mp low]
    · have unsigned : ¬(field.logicalMin < 0 ∧ 0 < field.bitSize.toNat ∧ field.bitSize.toNat < 32 ∧
          field.bitSize.toNat ≤ index) := fun extended =>
        signed ⟨extended.1, extended.2.1, extended.2.2.1, unaligned⟩
      rw [decide_eq_false low, decide_eq_false signed, decide_eq_false unsigned, if_neg low]
      rfl

-- What hid_field_read_raw returns for a field inside its buffer whose bits past
-- the word are clear.
theorem extract_inside (buf : List Byte) (field : HidField) (full : buf.length = readBufferSize)
    (inside : field.inBuffer) (narrow : ∀ b, 32 ≤ b → b < field.bitSize.toNat → dataBit buf field b = false) :
    ∃ result, extract buf field = .ok result ∧ field.FillsWord buf result := by
  have room := inside
  simp only [HidField.inBuffer, readBufferSize] at room full
  by_cases byte : field.bitOffset.toNat % 8 = 0 ∧ field.bitSize.toNat = 8
  · refine ⟨_, ?_, byte_fills_word buf field byte.1 byte.2⟩
    simp only [extract, if_pos byte]
    exact byte_at_inside buf _ (by omega)
  by_cases word : field.bitOffset.toNat % 8 = 0 ∧ field.bitSize.toNat = 16
  · refine ⟨_, ?_, word_fills_word buf field word.1 word.2⟩
    simp only [extract, if_neg byte, if_pos word, byte_at_inside buf (1 + field.bitOffset.toNat / 8) (by omega),
      byte_at_inside buf (2 + field.bitOffset.toNat / 8) (by omega), bind, Except.bind]
  by_cases double : field.bitOffset.toNat % 8 = 0 ∧ field.bitSize.toNat = 32
  · refine ⟨_, ?_, double_fills_word buf field double.1 double.2⟩
    simp only [extract, if_neg byte, if_neg word, if_pos double,
      byte_at_inside buf (1 + field.bitOffset.toNat / 8) (by omega),
      byte_at_inside buf (2 + field.bitOffset.toNat / 8) (by omega),
      byte_at_inside buf (3 + field.bitOffset.toNat / 8) (by omega),
      byte_at_inside buf (4 + field.bitOffset.toNat / 8) (by omega), bind, Except.bind]
  · have same := field_bit_inside buf field inside
    have unaligned : ¬(field.bitOffset.toNat % 8 = 0 ∧ (field.bitSize.toNat = 8 ∨ field.bitSize.toNat = 16)) := by tauto
    obtain ⟨result, extracted, bits⟩ := extract_bits_spec buf field field.bitSize.toNat
      fun b below wide => (same b below).trans (narrow b wide below)
    refine ⟨signExtend field result, ?_, bits_fill_word buf field inside unaligned result bits⟩
    simp only [extract, if_neg byte, if_neg word, if_neg double, extracted, bind, Except.bind]

def Reports.fieldBit (reports : Reports) (field : HidField) (b : Nat) : Bool :=
  bitAt (reports field.reportId) (field.bitOffset.toNat + b)

theorem report_buffer_bit (id : Byte) (data : List Byte) (position : Nat)
    (inside : position < 8 * (readBufferSize - 1)) :
    bitAt (overlay ((id :: data).take readBufferSize) ((List.replicate readBufferSize 0).set 0 id)) (8 + position) =
      bitAt data position := by
  simp only [readBufferSize] at inside ⊢
  have byteIndex : (8 + position) / 8 = position / 8 + 1 := by omega
  by_cases present : position / 8 < data.length
  · rw [PackedBits.bitAt_overlay_inside]
    · have taken : (data.take 63).getD (position / 8) 0#8 = data.getD (position / 8) 0#8 := by
        rw [List.getD_eq_getElem?_getD, List.getElem?_take_of_lt (by omega), List.getD_eq_getElem?_getD]
      rw [List.take_succ_cons, Nat.add_comm, PackedBits.bitAt_cons_later, bitAt, taken, bitAt]
    · simp only [List.length_take, List.length_cons]
      omega
    · simp only [List.length_set, List.length_replicate]
      omega
  · rw [PackedBits.bitAt_overlay_outside]
    · have blank : ((List.replicate 64 (0 : Byte)).set 0 id).getD (position / 8 + 1) 0#8 = 0#8 := by
        rw [List.getD_eq_getElem?_getD, List.getElem?_set_ne (by omega), List.getElem?_replicate_of_lt (by omega)]
        rfl
      rw [bitAt, byteIndex, blank, bitAt, List.getD_eq_default _ _ (by omega)]
      simp
    · simp only [List.length_take, List.length_cons]
      omega

theorem read_report (reports : Reports) (field : HidField) (inside : field.inBuffer)
    (narrow : ∀ b, 32 ≤ b → b < field.bitSize.toNat → reports.fieldBit field b = false) :
    ∃ result, hidFieldReadRaw reportsNode reports (some field) = .ok result ∧ ∀ index, index < 32 →
      result.getLsbD index =
        if index < field.bitSize.toNat then reports.fieldBit field index
        else decide field.signed && reports.fieldBit field (field.bitSize.toNat - 1) := by
  let blank : List Byte := (List.replicate readBufferSize 0).set 0 field.reportId
  let buf := overlay ((field.reportId :: reports field.reportId).take readBufferSize) blank
  have full : buf.length = readBufferSize := by simp [buf, blank]
  have same : ∀ b, b < field.bitSize.toNat → dataBit buf field b = reports.fieldBit field b := fun b below =>
    report_buffer_bit field.reportId (reports field.reportId) (field.bitOffset.toNat + b)
      (by unfold HidField.inBuffer at inside; omega)
  obtain ⟨result, extracted, bits⟩ := extract_inside buf field full inside fun b wide below =>
    (same b below).trans (narrow b wide below)
  refine ⟨result, ?_, fun index inWord => ?_⟩
  · have named : blank.getD 0 0 = field.reportId := by simp [blank, readBufferSize]
    have short : ((field.reportId :: reports field.reportId).take readBufferSize).length ≤ blank.length := by
      rw [List.length_take, List.length_set, List.length_replicate]
      exact Nat.min_le_left _ _
    simp only [hidFieldReadRaw, hidiocgfeature, reportsNode, Option.map_some, List.take_take, Nat.min_self]
    rw [named, if_pos short]
    exact extracted
  · rw [bits index inWord]
    by_cases low : index < field.bitSize.toNat
    · rw [if_pos low, if_pos low, same index low]
    · rw [if_neg low, if_neg low]
      by_cases signed : field.signed
      · rw [same _ (by have positive := signed.2.1; omega)]
      · rw [decide_eq_false signed, Bool.false_and, Bool.false_and]

end AiriesUps.Hid
