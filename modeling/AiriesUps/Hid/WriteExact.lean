import AiriesUps.Hid.ConfigWrite

set_option autoImplicit false

namespace AiriesUps.Hid

open PackedBits (Byte onlyBit bitAt)

-- Each report of the device is long enough for the feature fields declared in it.
def Reports.holds (reports : Reports) (map : ReportMap) : Prop :=
  ∀ field ∈ map, field.type = .feature →
    field.bitOffset.toNat + field.bitSize.toNat ≤ 8 * (reports field.reportId).length

structure Neighbour (map : ReportMap) (index : Nat) (field : HidField) (other : Nat) (otherField : HidField) : Prop where
  differs : other ≠ index
  present : map[other]? = some otherField
  isFeature : otherField.type = .feature
  sameReport : otherField.reportId = field.reportId

-- The value is in the field's bits and every other declared bit is as it was.
structure StoredExactly (map : ReportMap) (index : Nat) (field : HidField) (value : BitVec 16)
    (before after : Reports) : Prop where
  stored : ∀ b, b < field.bitSize.toNat → after.fieldBit field b = value.getLsbD b
  neighboursKept : ∀ other otherField, Neighbour map index field other otherField →
    ∀ b, b < otherField.bitSize.toNat → after.fieldBit otherField b = before.fieldBit otherField b
  reportsKept : ∀ id, id ≠ field.reportId → after id = before id

-- Every value of the field's width is written exactly, and the write returns UPS_OK.
def WritesExactly (driver : HidDriver) (map : ReportMap) (reg : ConfigReg) (field : HidField) : Prop :=
  ∀ before : Reports, before.holds map → ∀ value : BitVec 16, value.toNat < 2 ^ field.bitSize.toNat →
    ∃ after, driver.configWrite reportsNode before map reg value = .ok (.ok, after) ∧
      StoredExactly map reg.regAddr.toNat field value before after

-- The layouts the encoder is made for: the field starts its report and has the
-- bytes it is written through to itself, it is at most seven bytes, not a wide
-- bitfield, and not read back with a sign its value does not have.
structure PlainLayout (map : ReportMap) (reg : ConfigReg) (field : HidField) : Prop where
  first : 0 < field.bitSize.toNat → field.bitOffset.toNat = 0
  short : field.bitSize.toNat ≤ 56
  oneByte : ¬wideBitfield field reg
  unsigned : ¬(field.logicalMin < 0 ∧ 0 < field.bitSize.toNat ∧ field.bitSize.toNat < 16 ∧ field.bitSize.toNat ≠ 8)
  alone : ∀ other otherField, Neighbour map reg.regAddr.toNat field other otherField →
    0 < otherField.bitSize.toNat → 8 * field.dataBytes ≤ otherField.bitOffset.toNat

theorem data_bytes_short (field : HidField) (short : field.bitSize.toNat ≤ 56) : field.dataBytes ≤ 7 := by
  rw [HidField.dataBytes]
  omega

theorem data_bytes_room (field : HidField) (length : Nat)
    (held : field.bitOffset.toNat + field.bitSize.toNat ≤ 8 * length) : field.dataBytes ≤ length := by
  rw [HidField.dataBytes]
  omega

theorem wide_data_bytes (field : HidField) (reg : ConfigReg) (wide : wideBitfield field reg) : 0 < field.dataBytes := by
  have bits := wide.2
  rw [HidField.dataBytes]
  omega

theorem fitting_bit (field : HidField) (value : BitVec 16) (fits : value.toNat < 2 ^ field.bitSize.toNat) (b : Nat)
    (past : field.bitSize.toNat ≤ b) : value.getLsbD b = false := by
  rw [← BitVec.testBit_toNat]
  exact Nat.testBit_lt_two_pow (Nat.lt_of_lt_of_le fits (Nat.pow_le_pow_right (by omega) past))

theorem read_plain (reports : Reports) (field : HidField) (reg : ConfigReg) (plain : ¬wideBitfield field reg) :
    hidPdcConfigReadField reportsNode reports (some field) reg =
      hidFieldReadRaw reportsNode reports (some field) >>= fun result => .ok (some result) := by
  have unmasked : ¬(reg.kind.isBitfield ∧ field.bitSize.toNat > 8) := plain
  simp only [hidPdcConfigReadField, if_neg unmasked]

theorem read_stored (reports : Reports) (field : HidField) (reg : ConfigReg) (value : BitVec 16)
    (map : ReportMap) (layout : PlainLayout map reg field) (fits : value.toNat < 2 ^ field.bitSize.toNat)
    (stored : ∀ b, b < field.bitSize.toNat → reports.fieldBit field b = value.getLsbD b) :
    hidPdcConfigReadField reportsNode reports (some field) reg = .ok (some (value.setWidth 32)) := by
  have inside : field.inBuffer := by
    intro positive
    have short := layout.short
    rw [readBufferSize, layout.first positive]
    omega
  obtain ⟨result, read, bits⟩ := read_report reports field inside fun b wide below =>
    (stored b below).trans (BitVec.getLsbD_of_ge _ _ (by omega))
  have same : result = value.setWidth 32 := by
    apply BitVec.eq_of_getLsbD_eq
    intro index inWord
    rw [bits index inWord, BitVec.getLsbD_setWidth, decide_eq_true inWord, Bool.true_and]
    by_cases low : index < field.bitSize.toNat
    · rw [if_pos low, stored index low]
    · rw [if_neg low, fitting_bit field value fits index (Nat.not_lt.mp low)]
      by_cases signed : field.signed
      · obtain ⟨negative, positive, small, slow⟩ := signed
        have tall : 16 ≤ field.bitSize.toNat - 1 := by
          have first := layout.first positive
          have unsigned := layout.unsigned
          omega
        rw [stored _ (by omega), BitVec.getLsbD_of_ge _ _ tall, Bool.and_false]
      · rw [decide_eq_false signed, Bool.false_and]
  rw [read_plain reports field reg layout.oneByte, read, same]
  rfl

theorem driver_config_write (driver : HidDriver) (before : Reports) (map : ReportMap) (reg : ConfigReg)
    (field : HidField) (value : BitVec 16) (writable : reg.writable = true)
    (resolved : hidPdcFieldByIndex map reg.regAddr = some field) :
    driver.configWrite reportsNode before map reg value =
      hidPdcConfigWriteField reportsNode before (some field) reg value := by
  cases driver <;>
    simp only [HidDriver.configWrite, apcConfigWrite, cyberpowerConfigWrite, hidConfigWrite, if_pos writable, resolved]

theorem plain_write (before : Reports) (field : HidField) (reg : ConfigReg) (value : BitVec 16)
    (plain : ¬wideBitfield field reg) (short : field.dataBytes ≤ 7) :
    hidPdcConfigWriteField reportsNode before (some field) reg value =
      (hidPdcConfigReadField reportsNode (before.put field.reportId (plainData field value)) (some field) reg >>=
        fun readback => .ok (if readback = some (value.setWidth 32) then .ok else .errIo,
          before.put field.reportId (plainData field value))) := by
  obtain ⟨buf, encoded, sent⟩ := encode_plain before field reg value plain short
  exact write_report before field reg value _ buf short encoded sent

theorem wide_write (before : Reports) (field : HidField) (reg : ConfigReg) (value : BitVec 16)
    (wide : wideBitfield field reg) (short : field.dataBytes ≤ 7)
    (room : field.dataBytes ≤ (before field.reportId).length) :
    hidPdcConfigWriteField reportsNode before (some field) reg value =
      (hidPdcConfigReadField reportsNode (before.put field.reportId (keptData field before value)) (some field) reg >>=
        fun readback => .ok (if readback = some (value.setWidth 32) then .ok else .errIo,
          before.put field.reportId (keptData field before value))) := by
  obtain ⟨buf, encoded, sent⟩ := encode_wide before field reg value wide short room
  exact write_report before field reg value _ buf short encoded sent

theorem returned_state (before put after : Reports) (field : HidField) (reg : ConfigReg) (value : BitVec 16)
    (code : ReturnCode)
    (written : hidPdcConfigWriteField reportsNode before (some field) reg value =
      (hidPdcConfigReadField reportsNode put (some field) reg >>=
        fun readback => .ok (if readback = some (value.setWidth 32) then .ok else .errIo, put)))
    (returned : hidPdcConfigWriteField reportsNode before (some field) reg value = .ok (code, after)) :
    after = put ∧ (code = .ok → hidPdcConfigReadField reportsNode put (some field) reg = .ok (some (value.setWidth 32))) := by
  rw [written] at returned
  cases read : hidPdcConfigReadField reportsNode put (some field) reg with
  | error fault =>
    rw [read] at returned
    exact nomatch returned
  | ok readback =>
    rw [read] at returned
    injection returned with returned
    injection returned with codeIs stateIs
    refine ⟨stateIs.symm, fun succeeded => ?_⟩
    by_cases same : readback = some (value.setWidth 32)
    · rw [same]
    · rw [if_neg same, succeeded] at codeIs
      exact nomatch codeIs

theorem layout_stores (map : ReportMap) (reg : ConfigReg) (field : HidField) (layout : PlainLayout map reg field)
    (before : Reports) (room : field.dataBytes ≤ (before field.reportId).length) (value : BitVec 16) :
    StoredExactly map reg.regAddr.toNat field value before
      (before.put field.reportId (plainData field value)) where
  stored b below := by
    have covered : b < 8 * field.dataBytes := by
      rw [HidField.dataBytes]
      omega
    rw [Reports.fieldBit, layout.first (by omega), Nat.zero_add,
      put_plain_bit before field value b (data_bytes_short field layout.short) room, if_pos covered]
  neighboursKept other otherField neighbour b below := by
    have past := layout.alone other otherField neighbour (by omega)
    rw [Reports.fieldBit, neighbour.sameReport,
      put_plain_bit before field value _ (data_bytes_short field layout.short) room, if_neg (by omega),
      ← neighbour.sameReport, Reports.fieldBit]
  reportsKept id differs := put_other_report before field.reportId id _ differs

theorem layout_writes_exactly (driver : HidDriver) (map : ReportMap) (reg : ConfigReg) (field : HidField)
    (writable : reg.writable = true) (resolved : hidPdcFieldByIndex map reg.regAddr = some field)
    (isFeature : field.type = .feature) (layout : PlainLayout map reg field) : WritesExactly driver map reg field := by
  intro before held value fits
  have room := data_bytes_room field _ (held field (List.mem_of_getElem? resolved) isFeature)
  have exactly := layout_stores map reg field layout before room value
  refine ⟨before.put field.reportId (plainData field value), ?_, exactly⟩
  rw [driver_config_write driver before map reg field value writable resolved,
    plain_write before field reg value layout.oneByte (data_bytes_short field layout.short),
    read_stored _ field reg value map layout fits exactly.stored]
  simp only [bind, Except.bind, if_pos]

-- Reports of 16384 bytes hold every field a 16-bit offset and size can describe.
def longest : Nat := 16384

theorem longest_holds (reports : Reports) (map : ReportMap) (long : ∀ id, (reports id).length = longest) :
    reports.holds map := by
  intro field _ _
  have offset := field.bitOffset.isLt
  have size := field.bitSize.isLt
  rw [long, longest]
  omega

theorem longest_room (reports : Reports) (field : HidField) (long : ∀ id, (reports id).length = longest) :
    field.dataBytes ≤ (reports field.reportId).length := by
  have size := field.bitSize.isLt
  rw [long, longest, HidField.dataBytes]
  omega

def blankReports : Reports := fun _ => List.replicate longest 0#8
def markedReports (position : Nat) : Reports := fun _ => onlyBit longest position

section Necessary

variable (driver : HidDriver) (map : ReportMap) (reg : ConfigReg) (field : HidField) (writable : reg.writable = true)
  (resolved : hidPdcFieldByIndex map reg.regAddr = some field) (exactly : WritesExactly driver map reg field)

include writable resolved exactly

theorem exact_needs_short : field.bitSize.toNat ≤ 56 := by
  by_contra long
  obtain ⟨after, written, _⟩ := exactly blankReports (longest_holds _ map fun _ => List.length_replicate) 0
    (Nat.two_pow_pos _)
  have overrun := long_write_overruns blankReports field reg 0 (by rw [HidField.dataBytes]; omega)
  rw [driver_config_write driver blankReports map reg field 0 writable resolved, overrun] at written
  cases written

theorem exact_plain (plain : ¬wideBitfield field reg) (before : Reports) (value : BitVec 16)
    (long : ∀ id, (before id).length = longest) (fits : value.toNat < 2 ^ field.bitSize.toNat) :
    StoredExactly map reg.regAddr.toNat field value before (before.put field.reportId (plainData field value)) ∧
      hidPdcConfigReadField reportsNode (before.put field.reportId (plainData field value)) (some field) reg =
        .ok (some (value.setWidth 32)) := by
  have short := data_bytes_short field (exact_needs_short driver map reg field writable resolved exactly)
  obtain ⟨after, written, stored⟩ := exactly before (longest_holds _ map long) value fits
  rw [driver_config_write driver before map reg field value writable resolved] at written
  obtain ⟨state, read⟩ := returned_state before _ after field reg value .ok
    (plain_write before field reg value plain short) written
  exact ⟨state ▸ stored, read rfl⟩

theorem exact_wide (wide : wideBitfield field reg) (before : Reports) (value : BitVec 16)
    (long : ∀ id, (before id).length = longest) (fits : value.toNat < 2 ^ field.bitSize.toNat) :
    StoredExactly map reg.regAddr.toNat field value before
      (before.put field.reportId (keptData field before value)) := by
  have short := data_bytes_short field (exact_needs_short driver map reg field writable resolved exactly)
  obtain ⟨after, written, stored⟩ := exactly before (longest_holds _ map long) value fits
  rw [driver_config_write driver before map reg field value writable resolved] at written
  obtain ⟨state, _⟩ := returned_state before _ after field reg value .ok
    (wide_write before field reg value wide short (longest_room before field long)) written
  exact state ▸ stored

theorem exact_needs_first (positive : 0 < field.bitSize.toNat) : field.bitOffset.toNat = 0 := by
  by_contra later
  have short := data_bytes_short field (exact_needs_short driver map reg field writable resolved exactly)
  have room := longest_room blankReports field fun _ => List.length_replicate
  have fits : (1#16).toNat < 2 ^ field.bitSize.toNat := Nat.one_lt_two_pow (by omega)
  have offBit : (1#16).getLsbD field.bitOffset.toNat = false := by
    rw [BitVec.getLsbD_one]
    simp [later]
  have clear : bitAt (blankReports field.reportId) field.bitOffset.toNat = false := PackedBits.bitAt_zeros _ _
  by_cases wide : wideBitfield field reg
  · have stored := (exact_wide driver map reg field writable resolved exactly wide blankReports 1#16
      (fun _ => List.length_replicate) fits).stored 0 positive
    rw [Reports.fieldBit, Nat.add_zero, put_kept_bit blankReports field _ _ (wide_data_bytes field reg wide) room,
      offBit, clear, ite_self] at stored
    exact absurd stored (by decide)
  · have stored := (exact_plain driver map reg field writable resolved exactly wide blankReports 1#16
      (fun _ => List.length_replicate) fits).1.stored 0 positive
    rw [Reports.fieldBit, Nat.add_zero, put_plain_bit blankReports field _ _ short room, offBit, clear,
      ite_self] at stored
    exact absurd stored (by decide)

theorem exact_needs_one_byte : ¬wideBitfield field reg := by
  intro wide
  have first := exact_needs_first driver map reg field writable resolved exactly (by have := wide.2; omega)
  have fits : (256#16).toNat < 2 ^ field.bitSize.toNat :=
    Nat.lt_of_lt_of_le (by decide : (256#16).toNat < 2 ^ 9) (Nat.pow_le_pow_right (by omega) wide.2)
  have stored := (exact_wide driver map reg field writable resolved exactly wide blankReports 256
    (fun _ => List.length_replicate) fits).stored 8 wide.2
  rw [Reports.fieldBit, first, put_kept_bit blankReports field _ _ (wide_data_bytes field reg wide)
    (longest_room blankReports field fun _ => List.length_replicate), if_neg (by omega), blankReports,
    PackedBits.bitAt_zeros] at stored
  exact absurd stored (by decide)

theorem exact_needs_alone (other : Nat) (otherField : HidField)
    (neighbour : Neighbour map reg.regAddr.toNat field other otherField) (positive : 0 < otherField.bitSize.toNat) :
    8 * field.dataBytes ≤ otherField.bitOffset.toNat := by
  by_contra overlapped
  have plain := exact_needs_one_byte driver map reg field writable resolved exactly
  have short := data_bytes_short field (exact_needs_short driver map reg field writable resolved exactly)
  have long : ∀ id, (markedReports otherField.bitOffset.toNat id).length = longest := fun _ =>
    PackedBits.length_onlyBit _ _
  have kept := (exact_plain driver map reg field writable resolved exactly plain
    (markedReports otherField.bitOffset.toNat) 0 long (Nat.two_pow_pos _)).1.neighboursKept
      other otherField neighbour 0 positive
  have marked : (markedReports otherField.bitOffset.toNat).fieldBit otherField 0 = true := by
    rw [Reports.fieldBit, markedReports, Nat.add_zero, PackedBits.bitAt_onlyBit _ _ _ (by rw [longest]; omega)]
    exact decide_eq_true rfl
  rw [marked, Reports.fieldBit, Nat.add_zero, neighbour.sameReport,
    put_plain_bit _ field 0 _ short (longest_room _ field long), if_pos (by omega)] at kept
  exact absurd kept (by simp)

theorem exact_needs_unsigned :
    ¬(field.logicalMin < 0 ∧ 0 < field.bitSize.toNat ∧ field.bitSize.toNat < 16 ∧ field.bitSize.toNat ≠ 8) := by
  rintro ⟨negative, positive, small, slow⟩
  have first := exact_needs_first driver map reg field writable resolved exactly positive
  have plain := exact_needs_one_byte driver map reg field writable resolved exactly
  let top := field.bitSize.toNat - 1
  have value : (BitVec.twoPow 16 top).toNat = 2 ^ top := BitVec.toNat_twoPow_of_lt (by omega)
  have fits : (BitVec.twoPow 16 top).toNat < 2 ^ field.bitSize.toNat := by
    rw [value]
    exact Nat.pow_lt_pow_right (by omega) (by omega)
  obtain ⟨stored, read⟩ := exact_plain driver map reg field writable resolved exactly plain blankReports
    (BitVec.twoPow 16 top) (fun _ => List.length_replicate) fits
  have inside : field.inBuffer := by
    intro _
    rw [readBufferSize, first]
    omega
  obtain ⟨result, isRead, bits⟩ := read_report _ field inside fun b wide below => absurd below (by omega)
  rw [read_plain _ field reg plain, isRead] at read
  have same : result = (BitVec.twoPow 16 top).setWidth 32 := by
    injection read with read
    injection read
  have signed : field.signed := ⟨negative, positive, by omega, by omega⟩
  have sign := bits 31 (by omega)
  rw [if_neg (by omega), decide_eq_true signed, Bool.true_and, stored.stored _ (by omega), same,
    BitVec.getLsbD_setWidth, BitVec.getLsbD_twoPow, BitVec.getLsbD_twoPow] at sign
  simp only [show top < 16 by omega, show ¬top = 31 by omega, decide_true, decide_false, Bool.and_false] at sign
  exact absurd sign.symm (by simp [top])

end Necessary

-- A register a driver kept is written exactly, for every value of its field's width
-- and every content of the device, in the plain layouts and in no other.
theorem config_write_exact_iff (desc : List Byte) (driver : HidDriver) (reg : ConfigReg)
    (kept : reg ∈ driver.resolveConfigRegs (hidParseDescriptor desc)) (writable : reg.writable = true) :
    ∃ field, hidPdcFieldByIndex (hidParseDescriptor desc) reg.regAddr = some field ∧
      (WritesExactly driver (hidParseDescriptor desc) reg field ↔ PlainLayout (hidParseDescriptor desc) reg field) := by
  obtain ⟨field, resolved, isFeature⟩ := resolved_reg_field driver _ (parsed_count_bounded desc) reg kept
  refine ⟨field, resolved, fun exactly => ?_, layout_writes_exactly driver _ reg field writable resolved isFeature⟩
  exact
    { first := exact_needs_first driver _ reg field writable resolved exactly
      short := exact_needs_short driver _ reg field writable resolved exactly
      oneByte := exact_needs_one_byte driver _ reg field writable resolved exactly
      unsigned := exact_needs_unsigned driver _ reg field writable resolved exactly
      alone := exact_needs_alone driver _ reg field writable resolved exactly }

-- Three one-byte battery limits packed in feature report 7, as some units have them.
def packedDescriptor : List Byte :=
  [0x05, 0x84, 0x09, 0x04, 0xA1, 0x01, 0x09, 0x24, 0xA1, 0x02, 0x05, 0x85, 0x85, 0x07, 0x75, 0x08, 0x95, 0x03,
    0x15, 0x00, 0x26, 0xFF, 0x00, 0x09, 0x29, 0x09, 0x8C, 0x09, 0x83, 0xB1, 0x02, 0xC0, 0xC0]

def packedField (usage index : BitVec 16) : HidField :=
  { usagePath := [power 0x0004, usagePowerSummary, battery usage], usagePage := pageBattery, usageId := usage
    reportId := 7, bitOffset := 8 * index, bitSize := 8, type := .feature, logicalMin := 0, logicalMax := 255
    physicalMin := 0, physicalMax := 0, unitExponent := 0, unit := 0 }

def packedMap : ReportMap := [packedField 0x0029 0, packedField 0x008C 1, packedField 0x0083 2]

theorem packed_parsed : hidParseDescriptor packedDescriptor = packedMap := by decide +kernel

def lowBatteryThreshold : ConfigReg :=
  { name := "low_battery_threshold", regAddr := 0, kind := .scalar 0 255, writable := true }

def warningCapacity : ConfigReg :=
  { name := "warning_capacity", regAddr := 1, kind := .scalar 0 255, writable := true }

theorem low_battery_threshold_exact :
    WritesExactly .cyberpowerHid packedMap lowBatteryThreshold (packedField 0x0029 0) := by
  obtain ⟨field, resolved, exact⟩ := config_write_exact_iff packedDescriptor .cyberpowerHid lowBatteryThreshold
    (by decide +kernel) rfl
  rw [packed_parsed] at resolved exact
  injection resolved with resolved
  subst resolved
  refine exact.mpr
    { first := fun _ => rfl, short := by decide, oneByte := by decide, unsigned := by decide
      alone := fun other otherField neighbour _ => ?_ }
  have inside := (List.getElem?_eq_some_iff.mp neighbour.present).1
  have present := neighbour.present
  have differs := neighbour.differs
  match other with
  | 0 => exact absurd rfl differs
  | 1 =>
    injection present with present
    subst present
    decide
  | 2 =>
    injection present with present
    subst present
    decide
  | later + 3 => exact absurd inside (by simp [packedMap])

-- A packed field past the first: a value the register accepts replaces the first
-- field of the report, its own bits keep the old value, and the write fails.
theorem warning_capacity_overwrites_threshold :
    warningCapacity ∈ HidDriver.cyberpowerHid.resolveConfigRegs (hidParseDescriptor packedDescriptor) ∧
      upsConfigValidate warningCapacity 20 = .ok ∧
      (HidDriver.cyberpowerHid.configWrite reportsNode (fun _ => [10, 30, 100]) (hidParseDescriptor packedDescriptor)
          warningCapacity 20).map (fun result => (result.1, result.2 7)) = .ok (.errIo, [20, 30, 100]) ∧
      ¬WritesExactly .cyberpowerHid (hidParseDescriptor packedDescriptor) warningCapacity (packedField 0x008C 1) := by
  refine ⟨by decide +kernel, by decide, by decide +kernel, fun exactly => ?_⟩
  rw [packed_parsed] at exactly
  have held : Reports.holds (fun _ => [10, 30, 100]) packedMap := by
    simp [Reports.holds, packedMap, packedField]
  obtain ⟨after, written, _⟩ := exactly (fun _ => [10, 30, 100]) held 20 (by decide)
  have failed : (HidDriver.cyberpowerHid.configWrite reportsNode (fun _ => [10, 30, 100]) packedMap
      warningCapacity 20).map Prod.fst = .ok .errIo := by decide +kernel
  rw [written] at failed
  exact nomatch failed

end AiriesUps.Hid
