import AiriesUps.Hid.FieldRead
import AiriesUps.Hid.Registers

set_option autoImplicit false

namespace AiriesUps.Hid

open PackedBits (Byte overlay bitAt)

inductive ReturnCode where
  | ok
  | errIo
  | errNotSupported
  | errInvalidValue
deriving DecidableEq, Repr

-- hid_pdc_config_read_field; none is UPS_ERR_NOT_SUPPORTED, for a NULL field
def hidPdcConfigReadField {Device : Type} (node : Hidraw Device) (device : Device) (field : Option HidField)
    (reg : ConfigReg) : Except Fault (Option (BitVec 32)) :=
  match field with
  | none => .ok none
  | some field => do
    let value ← hidFieldReadRaw node device (some field)
    if reg.kind.isBitfield ∧ field.bitSize.toNat > 8 then .ok (some (value &&& 0xFF)) else .ok (some value)

def writeBufferSize : Nat := 8

def HidField.dataBytes (field : HidField) : Nat := (field.bitSize.toNat + 7) / 8

def blankReport (id : Byte) : List Byte := (List.replicate writeBufferSize 0).set 0 id

-- The buffer hid_pdc_config_write_field fills: a multi-byte bitfield keeps the
-- report's other bytes as the device has them. None is a failed read.
def encodeReport {Device : Type} (node : Hidraw Device) (device : Device) (field : HidField) (reg : ConfigReg)
    (value : BitVec 16) : Option (Except Fault (List Byte)) :=
  if reg.kind.isBitfield ∧ field.dataBytes > 1 then
    (hidiocgfeature node device (blankReport field.reportId) (1 + field.dataBytes)).map fun read => do
      let cur ← read
      if 1 + field.dataBytes ≤ writeBufferSize then
        .ok ((overlay (cur.take (1 + field.dataBytes)) (blankReport field.reportId)).set 1 (value.setWidth 8))
      else .error .bufferOverrun
  else
    let buf := (blankReport field.reportId).set 1 (value.setWidth 8)
    some (.ok (if field.dataBytes > 1 then buf.set 2 ((value >>> 8).setWidth 8) else buf))

def hidPdcConfigWriteField {Device : Type} (node : Hidraw Device) (device : Device) (field : Option HidField)
    (reg : ConfigReg) (value : BitVec 16) : Except Fault (ReturnCode × Device) :=
  match field with
  | none => .ok (.errNotSupported, device)
  | some field =>
    match encodeReport node device field reg value with
    | none => .ok (.errIo, device)
    | some encoded => do
      let buf ← encoded
      if 1 + field.dataBytes ≤ writeBufferSize then
        match node.setFeature device (buf.take (1 + field.dataBytes)) with
        | none => .ok (.errIo, device)
        | some written => do
          let readback ← hidPdcConfigReadField node written (some field) reg
          .ok (if readback = some (value.setWidth 32) then .ok else .errIo, written)
      else .error .bufferOverrun

def hidConfigWrite {Device : Type} (node : Hidraw Device) (device : Device) (map : ReportMap) (reg : ConfigReg)
    (value : BitVec 16) : Except Fault (ReturnCode × Device) :=
  if reg.writable then hidPdcConfigWriteField node device (hidPdcFieldByIndex map reg.regAddr) reg value
  else .ok (.errNotSupported, device)

def apcConfigWrite {Device : Type} (node : Hidraw Device) (device : Device) (map : ReportMap) (reg : ConfigReg)
    (value : BitVec 16) : Except Fault (ReturnCode × Device) :=
  hidConfigWrite node device map reg value

def cyberpowerConfigWrite {Device : Type} (node : Hidraw Device) (device : Device) (map : ReportMap)
    (reg : ConfigReg) (value : BitVec 16) : Except Fault (ReturnCode × Device) :=
  hidConfigWrite node device map reg value

def HidDriver.configWrite {Device : Type} (driver : HidDriver) (node : Hidraw Device) (device : Device)
    (map : ReportMap) (reg : ConfigReg) (value : BitVec 16) : Except Fault (ReturnCode × Device) :=
  match driver with
  | apcHid => apcConfigWrite node device map reg value
  | cyberpowerHid => cyberpowerConfigWrite node device map reg value

-- ups_config_validate, the check ups_config_write makes before the driver's write
def upsConfigValidate (reg : ConfigReg) (value : BitVec 16) : ReturnCode :=
  match reg.kind with
  | .scalar min max =>
    if min = 0 ∧ max = 0 then .ok
    else if (value.toNat : Int) < min ∨ max < value.toNat then .errInvalidValue
    else .ok
  | .bitfield options strict =>
    if strict = false ∨ value.setWidth 32 ∈ options then .ok else .errInvalidValue
  | .string _ => .ok
  | .flags _ => .ok

def Reports.put (reports : Reports) (id : Byte) (data : List Byte) : Reports :=
  Function.update reports id (overlay data (reports id))

theorem set_report (reports : Reports) (id : Byte) (data : List Byte) :
    reportsNode.setFeature reports (id :: data) = some (reports.put id data) := rfl

def wideBitfield (field : HidField) (reg : ConfigReg) : Prop :=
  reg.kind.isBitfield = true ∧ 8 < field.bitSize.toNat

instance (field : HidField) (reg : ConfigReg) : Decidable (wideBitfield field reg) :=
  inferInstanceAs (Decidable (_ ∧ _))

def plainData (field : HidField) (value : BitVec 16) : List Byte :=
  ([value.setWidth 8, (value >>> 8).setWidth 8] ++ List.replicate 5 0#8).take field.dataBytes

def keptData (field : HidField) (reports : Reports) (value : BitVec 16) : List Byte :=
  ((reports field.reportId).take field.dataBytes).set 0 (value.setWidth 8)

theorem data_bytes_wide (field : HidField) : 1 < field.dataBytes ↔ 8 < field.bitSize.toNat := by
  rw [HidField.dataBytes]
  omega

theorem encode_plain (reports : Reports) (field : HidField) (reg : ConfigReg) (value : BitVec 16)
    (plain : ¬wideBitfield field reg) (short : field.dataBytes ≤ 7) :
    ∃ buf, encodeReport reportsNode reports field reg value = some (.ok buf) ∧
      buf.take (1 + field.dataBytes) = field.reportId :: plainData field value := by
  have otherwise : ¬(reg.kind.isBitfield ∧ field.dataBytes > 1) := fun both =>
    plain ⟨both.1, (data_bytes_wide field).mp both.2⟩
  simp only [encodeReport, if_neg otherwise, plainData]
  refine ⟨_, rfl, ?_⟩
  by_cases wide : field.dataBytes > 1
  · rw [if_pos wide, Nat.add_comm]
    rfl
  · rw [if_neg wide]
    have counts : field.dataBytes = 0 ∨ field.dataBytes = 1 := by omega
    rcases counts with count | count <;> rw [count] <;> rfl

theorem encode_wide (reports : Reports) (field : HidField) (reg : ConfigReg) (value : BitVec 16)
    (wide : wideBitfield field reg) (short : field.dataBytes ≤ 7)
    (room : field.dataBytes ≤ (reports field.reportId).length) :
    ∃ buf, encodeReport reportsNode reports field reg value = some (.ok buf) ∧
      buf.take (1 + field.dataBytes) = field.reportId :: keptData field reports value := by
  have kept : reg.kind.isBitfield ∧ field.dataBytes > 1 := ⟨wide.1, (data_bytes_wide field).mpr wide.2⟩
  have front : ((field.reportId :: reports field.reportId).take (1 + field.dataBytes)).length = 1 + field.dataBytes := by
    rw [List.length_take, List.length_cons]
    omega
  have copied (whole : List Byte) (fits : 1 + field.dataBytes ≤ whole.length) :
      (overlay ((field.reportId :: reports field.reportId).take (1 + field.dataBytes)) whole).take
          (1 + field.dataBytes) = (field.reportId :: reports field.reportId).take (1 + field.dataBytes) := by
    have taken := PackedBits.overlay_take ((field.reportId :: reports field.reportId).take (1 + field.dataBytes)) whole
      (by omega)
    rwa [front] at taken
  have blankLength : (blankReport field.reportId).length = 8 := rfl
  refine ⟨(overlay ((field.reportId :: reports field.reportId).take (1 + field.dataBytes))
    (blankReport field.reportId)).set 1 (value.setWidth 8), ?_, ?_⟩
  · have named : (blankReport field.reportId).getD 0 0 = field.reportId := rfl
    have inBlank : ((field.reportId :: reports field.reportId).take (1 + field.dataBytes)).length ≤
        (blankReport field.reportId).length := by omega
    have inBuffer : 1 + field.dataBytes ≤ writeBufferSize := by
      rw [writeBufferSize]
      omega
    simp only [encodeReport, if_pos kept, hidiocgfeature, reportsNode, Option.map_some, List.take_take, Nat.min_self]
    rw [named, if_pos inBlank]
    simp only [bind, Except.bind, if_pos inBuffer]
    rw [copied _ (by omega)]
  · rw [List.take_set, copied _ (by omega), Nat.add_comm, List.take_succ_cons, List.set_cons_succ, keptData]

-- The shape of every write that stays in its buffer: the data replace the start
-- of the report, and the code comes from the verifying read.
theorem write_report (reports : Reports) (field : HidField) (reg : ConfigReg) (value : BitVec 16) (data buf : List Byte)
    (short : field.dataBytes ≤ 7) (encoded : encodeReport reportsNode reports field reg value = some (.ok buf))
    (sent : buf.take (1 + field.dataBytes) = field.reportId :: data) :
    hidPdcConfigWriteField reportsNode reports (some field) reg value =
      (hidPdcConfigReadField reportsNode (reports.put field.reportId data) (some field) reg >>= fun readback =>
        .ok (if readback = some (value.setWidth 32) then .ok else .errIo, reports.put field.reportId data)) := by
  have inBuffer : 1 + field.dataBytes ≤ writeBufferSize := by
    rw [writeBufferSize]
    omega
  simp only [hidPdcConfigWriteField, encoded, bind, Except.bind, if_pos inBuffer, sent, set_report]

theorem plain_data_length (field : HidField) (value : BitVec 16) (short : field.dataBytes ≤ 7) :
    (plainData field value).length = field.dataBytes := by
  rw [plainData, List.length_take]
  simpa using short

theorem kept_data_length (field : HidField) (reports : Reports) (value : BitVec 16)
    (room : field.dataBytes ≤ (reports field.reportId).length) :
    (keptData field reports value).length = field.dataBytes := by
  rw [keptData, List.length_set, List.length_take]
  exact Nat.min_eq_left room

theorem plain_data_bit (field : HidField) (value : BitVec 16) (position : Nat)
    (covered : position < 8 * field.dataBytes) : bitAt (plainData field value) position = value.getLsbD position := by
  have taken : bitAt (plainData field value) position =
      bitAt ([value.setWidth 8, (value >>> 8).setWidth 8] ++ List.replicate 5 0#8) position := by
    rw [plainData, bitAt, bitAt, List.getD_eq_getElem?_getD, List.getElem?_take_of_lt (by omega),
      List.getD_eq_getElem?_getD]
  rw [taken, List.cons_append]
  by_cases first : position < 8
  · rw [PackedBits.bitAt_cons_first _ _ _ first, BitVec.getLsbD_setWidth, decide_eq_true first, Bool.true_and]
  · obtain ⟨later, rfl⟩ : ∃ later, position = later + 8 := ⟨position - 8, by omega⟩
    rw [PackedBits.bitAt_cons_later, List.cons_append]
    by_cases second : later < 8
    · rw [PackedBits.bitAt_cons_first _ _ _ second, BitVec.getLsbD_setWidth, BitVec.getLsbD_ushiftRight,
        decide_eq_true second, Bool.true_and, Nat.add_comm]
    · obtain ⟨rest, rfl⟩ : ∃ rest, later = rest + 8 := ⟨later - 8, by omega⟩
      rw [PackedBits.bitAt_cons_later, List.nil_append, PackedBits.bitAt_zeros]
      exact (BitVec.getLsbD_of_ge _ _ (by omega)).symm

theorem put_bit_inside (reports : Reports) (id : Byte) (data : List Byte) (position : Nat)
    (covered : position / 8 < data.length) (present : position / 8 < (reports id).length) :
    bitAt (reports.put id data id) position = bitAt data position := by
  rw [Reports.put, Function.update_self, PackedBits.bitAt_overlay_inside _ _ _ covered present]

theorem put_bit_outside (reports : Reports) (id : Byte) (data : List Byte) (position : Nat)
    (past : data.length ≤ position / 8) : bitAt (reports.put id data id) position = bitAt (reports id) position := by
  rw [Reports.put, Function.update_self, PackedBits.bitAt_overlay_outside _ _ _ past]

theorem put_other_report (reports : Reports) (id other : Byte) (data : List Byte) (differ : other ≠ id) :
    reports.put id data other = reports other :=
  Function.update_of_ne differ _ _

-- A plain write fills the field's bytes from bit 0 of the report, wherever the field is.
theorem put_plain_bit (reports : Reports) (field : HidField) (value : BitVec 16) (position : Nat)
    (short : field.dataBytes ≤ 7) (room : field.dataBytes ≤ (reports field.reportId).length) :
    bitAt (reports.put field.reportId (plainData field value) field.reportId) position =
      if position < 8 * field.dataBytes then value.getLsbD position else bitAt (reports field.reportId) position := by
  have length := plain_data_length field value short
  by_cases covered : position < 8 * field.dataBytes
  · rw [if_pos covered, put_bit_inside reports _ _ position (by omega) (by omega),
      plain_data_bit field value position covered]
  · rw [if_neg covered, put_bit_outside reports _ _ position (by omega)]

theorem put_kept_bit (reports : Reports) (field : HidField) (value : BitVec 16) (position : Nat)
    (positive : 0 < field.dataBytes) (room : field.dataBytes ≤ (reports field.reportId).length) :
    bitAt (reports.put field.reportId (keptData field reports value) field.reportId) position =
      if position < 8 then value.getLsbD position else bitAt (reports field.reportId) position := by
  have length := kept_data_length field reports value room
  by_cases first : position < 8
  · have start : position / 8 = 0 := by omega
    have written : (keptData field reports value).getD 0 0#8 = value.setWidth 8 := by
      rw [List.getD_eq_getElem _ _ (by omega)]
      simp [keptData]
    rw [if_pos first, put_bit_inside reports _ _ position (by omega) (by omega), bitAt, start, written,
      BitVec.getLsbD_setWidth, Nat.mod_eq_of_lt first, decide_eq_true first, Bool.true_and]
  · rw [if_neg first]
    by_cases covered : position / 8 < field.dataBytes
    · have same : (keptData field reports value).getD (position / 8) 0#8 =
          (reports field.reportId).getD (position / 8) 0#8 := by
        rw [keptData, List.getD_eq_getElem?_getD, List.getElem?_set_ne (by omega), List.getElem?_take_of_lt covered,
          List.getD_eq_getElem?_getD]
      rw [put_bit_inside reports _ _ position (by omega) (by omega), bitAt, same, bitAt]
    · rw [put_bit_outside reports _ _ position (by omega)]

theorem report_read_cases (reports : Reports) (buf : List Byte) (length : Nat) :
    hidiocgfeature reportsNode reports buf length = some (.error .bufferOverrun) ∨
      ∃ cur, hidiocgfeature reportsNode reports buf length = some (.ok cur) := by
  let report := ((buf.getD 0 0 :: reports (buf.getD 0 0)).take length).take length
  by_cases fits : report.length ≤ buf.length
  · exact Or.inr ⟨overlay report buf, congrArg some (if_pos fits)⟩
  · exact Or.inl (congrArg some (if_neg fits))

-- Eight data bytes and the report id do not fit the buffer, whatever the device holds.
theorem long_write_overruns (reports : Reports) (field : HidField) (reg : ConfigReg) (value : BitVec 16)
    (long : 7 < field.dataBytes) :
    hidPdcConfigWriteField reportsNode reports (some field) reg value = .error .bufferOverrun := by
  have overrun : ¬1 + field.dataBytes ≤ writeBufferSize := by
    rw [writeBufferSize]
    omega
  simp only [hidPdcConfigWriteField, encodeReport]
  by_cases kept : reg.kind.isBitfield ∧ field.dataBytes > 1
  · rcases report_read_cases reports (blankReport field.reportId) (1 + field.dataBytes) with fault | ⟨cur, read⟩
    · simp only [if_pos kept, fault, Option.map_some, bind, Except.bind]
    · simp only [if_pos kept, read, Option.map_some, bind, Except.bind, if_neg overrun]
  · simp only [if_neg kept, bind, Except.bind, if_neg overrun]

end AiriesUps.Hid
