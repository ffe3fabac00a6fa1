import AiriesUps.Hid.ConfigTable
import AiriesUps.Hid.ConfigWrite

set_option autoImplicit false

namespace AiriesUps.Hid

open PackedBits (Byte overlay)

def SafeRead (field : HidField) : Prop :=
  ∀ (Device : Type) (node : Hidraw Device) (device : Device),
    ∃ value, hidFieldReadRaw node device (some field) = .ok value

def SafeWrite (reg : ConfigReg) (field : HidField) : Prop :=
  ∀ (Device : Type) (node : Hidraw Device) (device : Device) (value : BitVec 16),
    ∃ result, hidPdcConfigWriteField node device (some field) reg value = .ok result

-- The fast paths read the bytes of the field without a check. The general path
-- checks the byte of every bit, but shifts by the bit's number whatever it is.
def ReadRoom (field : HidField) : Prop :=
  let byteOff := field.bitOffset.toNat / 8
  let bitOff := field.bitOffset.toNat % 8
  let bits := field.bitSize.toNat
  if bitOff = 0 ∧ bits = 8 then 1 + byteOff < readBufferSize
  else if bitOff = 0 ∧ bits = 16 then 2 + byteOff < readBufferSize
  else if bitOff = 0 ∧ bits = 32 then 4 + byteOff < readBufferSize
  else ∀ b, b < bits → 32 ≤ b → 8 * (readBufferSize - 1) ≤ (field.bitOffset.toNat + b) % 2 ^ 16

def WriteRoom (field : HidField) : Prop := 1 + field.dataBytes ≤ writeBufferSize

-- A device at the end of the cable: its report descriptor, and whether
-- ups_resolve_runtime gets its memory when it connects.
structure Plugged where
  descriptor : List Byte
  allocates : Bool

def Plugged.map (device : Plugged) : ReportMap := hidParseDescriptor device.descriptor

def Plugged.connect (device : Plugged) : Connect := { map := device.map, allocates := device.allocates }

def HidDriver.tables (driver : HidDriver) (devices : List Plugged) : ConfigTables :=
  driver.connectAll (devices.map Plugged.connect)

-- The descriptors config_read and config_write can be given: what ups_get_config_regs
-- exposes, an entry of the driver's own table where one was fetched while resolved_regs
-- was NULL, before the last reconnect, and what is read in a block freed since.
def HidDriver.offers (driver : HidDriver) (earlier : List Plugged) (device : Plugged) (freed : ConfigReg → Prop)
    (reg : ConfigReg) : Prop :=
  reg ∈ (driver.tables (earlier ++ [device])).exposed ∨
    (reg ∈ (driver.tables (earlier ++ [device])).table ∧
      ∃ before after, earlier = before ++ after ∧ before ≠ [] ∧ (driver.tables before).resolved = none) ∨
    freed reg

-- The fields a driver reads, and the registers it writes with their fields. Whether one is
-- writable was checked before its block was freed.
def HidDriver.reads (driver : HidDriver) (earlier : List Plugged) (device : Plugged) (freed : ConfigReg → Prop)
    (field : HidField) : Prop :=
  (∃ index, some index ∈ (resolveStandardFields device.map).test :: driver.configFields device.map ∧
      device.map[index]? = some field) ∨
    ∃ reg, driver.offers earlier device freed reg ∧ hidPdcFieldByIndex device.map reg.regAddr = some field

def HidDriver.writes (driver : HidDriver) (earlier : List Plugged) (device : Plugged) (freed : ConfigReg → Prop)
    (reg : ConfigReg) (field : HidField) : Prop :=
  driver.offers earlier device freed reg ∧ (reg.writable = true ∨ freed reg) ∧
    hidPdcFieldByIndex device.map reg.regAddr = some field

def AccessesInside (driver : HidDriver) (earlier : List Plugged) (device : Plugged) (freed : ConfigReg → Prop) : Prop :=
  (∀ field, driver.reads earlier device freed field → SafeRead field) ∧
    ∀ reg field, driver.writes earlier device freed reg field → SafeWrite reg field

def RoomForAll (driver : HidDriver) (earlier : List Plugged) (device : Plugged) (freed : ConfigReg → Prop) : Prop :=
  (∀ field, driver.reads earlier device freed field → ReadRoom field) ∧
    ∀ reg field, driver.writes earlier device freed reg field → ReadRoom field ∧ WriteRoom field

theorem bind_ok {Result Next : Type} (first : Except Fault Result) (later : Result → Except Fault Next) (next : Next)
    (done : (first >>= later) = .ok next) : ∃ result, first = .ok result ∧ later result = .ok next := by
  cases first with
  | error fault => cases done
  | ok result => exact ⟨result, rfl, done⟩

theorem byte_read_inside (buf : List Byte) (index : Nat) (word : BitVec 32) (read : byteAt buf index = .ok word) :
    index < buf.length := by
  by_contra outside
  rw [byteAt, List.getElem?_eq_none (Nat.not_lt.mp outside)] at read
  cases read

theorem extract_bits_fault (buf : List Byte) (field : HidField) (count b : Nat) (below : b < count) (wide : 32 ≤ b)
    (isSet : fieldBit buf field b = true) : ∃ fault, extractBits buf field count = .error fault := by
  induction count with
  | zero => omega
  | succ count ih =>
    by_cases last : b = count
    · cases earlier : extractBits buf field count with
      | error fault => exact ⟨fault, by rw [extractBits, earlier]; rfl⟩
      | ok result =>
        refine ⟨.oversizedShift, ?_⟩
        rw [extractBits, earlier, ← last]
        simp only [bind, Except.bind, if_pos isSet, if_neg (Nat.not_lt.mpr wide)]
    · obtain ⟨fault, failed⟩ := ih (by omega)
      exact ⟨fault, by rw [extractBits, failed]; rfl⟩

theorem field_bit_outside (buf : List Byte) (field : HidField) (b : Nat)
    (outside : 8 * (readBufferSize - 1) ≤ (field.bitOffset.toNat + b) % 2 ^ 16) : fieldBit buf field b = false := by
  have position : (field.bitOffset + BitVec.ofNat 16 b).toNat = (field.bitOffset.toNat + b) % 2 ^ 16 := by
    rw [BitVec.toNat_add, BitVec.toNat_ofNat, Nat.add_mod_mod]
  have past : ¬1 + (field.bitOffset.toNat + b) % 2 ^ 16 / 8 < readBufferSize := by
    rw [readBufferSize] at outside ⊢
    omega
  simp only [fieldBit, position, decide_eq_false past, Bool.false_and]

theorem extract_safe (buf : List Byte) (field : HidField) (full : buf.length = readBufferSize) (room : ReadRoom field) :
    ∃ value, extract buf field = .ok value := by
  rw [ReadRoom] at room
  rw [extract]
  by_cases byte : field.bitOffset.toNat % 8 = 0 ∧ field.bitSize.toNat = 8
  · rw [if_pos byte, ← full] at room
    rw [if_pos byte, byte_at_inside buf _ room]
    exact ⟨_, rfl⟩
  rw [if_neg byte] at room ⊢
  by_cases word : field.bitOffset.toNat % 8 = 0 ∧ field.bitSize.toNat = 16
  · rw [if_pos word, ← full] at room
    rw [if_pos word, byte_at_inside buf _ (by omega), byte_at_inside buf _ room]
    exact ⟨_, rfl⟩
  rw [if_neg word] at room ⊢
  by_cases double : field.bitOffset.toNat % 8 = 0 ∧ field.bitSize.toNat = 32
  · rw [if_pos double, ← full] at room
    rw [if_pos double, byte_at_inside buf _ (by omega), byte_at_inside buf _ (by omega),
      byte_at_inside buf _ (by omega), byte_at_inside buf _ room]
    exact ⟨_, rfl⟩
  rw [if_neg double] at room ⊢
  obtain ⟨result, extracted, _⟩ := extract_bits_spec buf field field.bitSize.toNat
    fun b below wide => field_bit_outside buf field b (room b below wide)
  rw [extracted]
  exact ⟨_, rfl⟩

def onesBuffer : List Byte := List.replicate readBufferSize 0xFF

theorem ones_bit (field : HidField) (b : Nat)
    (inside : (field.bitOffset.toNat + b) % 2 ^ 16 < 8 * (readBufferSize - 1)) :
    fieldBit onesBuffer field b = true := by
  have position : (field.bitOffset + BitVec.ofNat 16 b).toNat = (field.bitOffset.toNat + b) % 2 ^ 16 := by
    rw [BitVec.toNat_add, BitVec.toNat_ofNat, Nat.add_mod_mod]
  have within : 1 + (field.bitOffset.toNat + b) % 2 ^ 16 / 8 < readBufferSize := by
    rw [readBufferSize] at inside ⊢
    omega
  have held : onesBuffer.getD (1 + (field.bitOffset.toNat + b) % 2 ^ 16 / 8) 0 = 0xFF := by
    rw [onesBuffer, List.getD_eq_getElem?_getD, List.getElem?_replicate_of_lt within]
    rfl
  have bit : (field.bitOffset.toNat + b) % 2 ^ 16 % 8 < 8 := Nat.mod_lt _ (by decide)
  simp only [fieldBit, position, decide_eq_true within, Bool.true_and, held]
  generalize (field.bitOffset.toNat + b) % 2 ^ 16 % 8 = index at bit
  revert index
  decide

-- A report of ones makes the general path shift at every bit inside the buffer.
theorem ones_need_room (field : HidField) (safe : ∃ value, extract onesBuffer field = .ok value) : ReadRoom field := by
  have size : onesBuffer.length = readBufferSize := List.length_replicate
  obtain ⟨value, extracted⟩ := safe
  rw [extract] at extracted
  rw [ReadRoom]
  by_cases byte : field.bitOffset.toNat % 8 = 0 ∧ field.bitSize.toNat = 8
  · rw [if_pos byte] at extracted ⊢
    exact size ▸ byte_read_inside _ _ _ extracted
  rw [if_neg byte] at extracted ⊢
  by_cases word : field.bitOffset.toNat % 8 = 0 ∧ field.bitSize.toNat = 16
  · rw [if_pos word] at extracted ⊢
    obtain ⟨_, _, extracted⟩ := bind_ok _ _ _ extracted
    obtain ⟨_, high, _⟩ := bind_ok _ _ _ extracted
    exact size ▸ byte_read_inside _ _ _ high
  rw [if_neg word] at extracted ⊢
  by_cases double : field.bitOffset.toNat % 8 = 0 ∧ field.bitSize.toNat = 32
  · rw [if_pos double] at extracted ⊢
    obtain ⟨_, _, extracted⟩ := bind_ok _ _ _ extracted
    obtain ⟨_, _, extracted⟩ := bind_ok _ _ _ extracted
    obtain ⟨_, _, extracted⟩ := bind_ok _ _ _ extracted
    obtain ⟨_, fourth, _⟩ := bind_ok _ _ _ extracted
    exact size ▸ byte_read_inside _ _ _ fourth
  rw [if_neg double] at extracted ⊢
  intro b below wide
  by_contra inside
  obtain ⟨fault, failed⟩ := extract_bits_fault onesBuffer field field.bitSize.toNat b below wide
    (ones_bit field b (Nat.not_le.mp inside))
  rw [failed] at extracted
  cases extracted

theorem ioctl_fits {Device : Type} (node : Hidraw Device) (device : Device) (buf : List Byte) (length : Nat)
    (fits : length ≤ buf.length) :
    hidiocgfeature node device buf length = none ∨
      ∃ filled, hidiocgfeature node device buf length = some (.ok filled) ∧ filled.length = buf.length := by
  rw [hidiocgfeature]
  cases node.getFeature device (buf.getD 0 0) length with
  | none => exact Or.inl rfl
  | some report =>
    have short : (report.take length).length ≤ buf.length := by
      rw [List.length_take]
      omega
    refine Or.inr ⟨overlay (report.take length) buf, ?_, PackedBits.length_overlay _ _⟩
    rw [Option.map_some, if_pos short]

theorem read_safe {Device : Type} (node : Hidraw Device) (device : Device) (field : HidField) (room : ReadRoom field) :
    ∃ value, hidFieldReadRaw node device (some field) = .ok value := by
  have size : ((List.replicate readBufferSize (0 : Byte)).set 0 field.reportId).length = readBufferSize := by
    rw [List.length_set, List.length_replicate]
  rw [hidFieldReadRaw]
  obtain failed | ⟨buf, filled, length⟩ := ioctl_fits node device _ readBufferSize (Nat.le_of_eq size.symm)
  · rw [failed]
    exact ⟨0, rfl⟩
  · rw [filled]
    exact extract_safe buf field (length.trans size) room

-- A device every report of which is ones, and which takes every write.
def onesNode : Hidraw Unit :=
  { getFeature := fun _ _ length => some (List.replicate length 0xFF), setFeature := fun _ _ => some () }

theorem ones_read (field : HidField) : hidFieldReadRaw onesNode () (some field) = extract onesBuffer field := rfl

theorem safe_read_iff (field : HidField) : SafeRead field ↔ ReadRoom field := by
  refine ⟨fun safe => ones_need_room field ?_, fun room Device node device => read_safe node device field room⟩
  rw [← ones_read]
  exact safe Unit onesNode ()

theorem config_read_safe {Device : Type} (node : Hidraw Device) (device : Device) (reg : ConfigReg) (field : HidField)
    (room : ReadRoom field) : ∃ value, hidPdcConfigReadField node device (some field) reg = .ok value := by
  obtain ⟨value, read⟩ := read_safe node device field room
  simp only [hidPdcConfigReadField, read, bind, Except.bind]
  split
  · exact ⟨_, rfl⟩
  · exact ⟨_, rfl⟩

theorem encode_safe {Device : Type} (node : Hidraw Device) (device : Device) (reg : ConfigReg) (field : HidField)
    (value : BitVec 16) (room : WriteRoom field) :
    encodeReport node device field reg value = none ∨
      ∃ buf, encodeReport node device field reg value = some (.ok buf) := by
  have fits : 1 + field.dataBytes ≤ writeBufferSize := room
  rw [encodeReport]
  by_cases wide : reg.kind.isBitfield ∧ field.dataBytes > 1
  · rw [if_pos wide]
    obtain failed | ⟨cur, filled, _⟩ := ioctl_fits node device (blankReport field.reportId) (1 + field.dataBytes) room
    · rw [failed]
      exact Or.inl rfl
    · rw [filled]
      refine Or.inr ⟨(overlay (cur.take (1 + field.dataBytes)) (blankReport field.reportId)).set 1 (value.setWidth 8), ?_⟩
      simp only [Option.map_some, bind, Except.bind, if_pos fits]
  · rw [if_neg wide]
    exact Or.inr ⟨_, rfl⟩

theorem write_safe (reg : ConfigReg) (field : HidField) (readRoom : ReadRoom field) (writeRoom : WriteRoom field) :
    SafeWrite reg field := by
  intro Device node device value
  have fits : 1 + field.dataBytes ≤ writeBufferSize := writeRoom
  rw [hidPdcConfigWriteField]
  obtain failed | ⟨buf, encoded⟩ := encode_safe node device reg field value writeRoom
  · rw [failed]
    exact ⟨_, rfl⟩
  · rw [encoded]
    simp only [bind, Except.bind]
    rw [if_pos fits]
    cases node.setFeature device (buf.take (1 + field.dataBytes)) with
    | none => exact ⟨_, rfl⟩
    | some written =>
      obtain ⟨readback, read⟩ := config_read_safe node written reg field readRoom
      simp only [read]
      exact ⟨_, rfl⟩

theorem ones_encode (reg : ConfigReg) (field : HidField) (value : BitVec 16) :
    ∃ encoded, encodeReport onesNode () field reg value = some encoded := by
  rw [encodeReport]
  split
  · exact ⟨_, rfl⟩
  · exact ⟨_, rfl⟩

theorem safe_write_room (reg : ConfigReg) (field : HidField) (safe : SafeWrite reg field) :
    ReadRoom field ∧ WriteRoom field := by
  obtain ⟨result, written⟩ := safe Unit onesNode () 0
  obtain ⟨encoded, isEncoded⟩ := ones_encode reg field 0
  rw [hidPdcConfigWriteField, isEncoded] at written
  obtain ⟨buf, _, sent⟩ := bind_ok _ _ _ written
  by_cases fits : 1 + field.dataBytes ≤ writeBufferSize
  · rw [if_pos fits] at sent
    obtain ⟨readback, read, _⟩ := bind_ok _ _ _ sent
    obtain ⟨value, raw, _⟩ := bind_ok _ _ _ read
    rw [ones_read] at raw
    exact ⟨ones_need_room field ⟨value, raw⟩, fits⟩
  · rw [if_neg fits] at sent
    cases sent

theorem safe_write_iff (reg : ConfigReg) (field : HidField) : SafeWrite reg field ↔ ReadRoom field ∧ WriteRoom field :=
  ⟨safe_write_room reg field, fun room => write_safe reg field room.1 room.2⟩

-- A 504-bit Feature and PercentLoad, 8 bits, behind it.
def lateLoadDescriptor : List Byte :=
  [0x05, 0x84, 0x76, 0xF8, 0x01, 0x95, 0x01, 0xB1, 0x02, 0x09, 0x35, 0x75, 0x08, 0xB1, 0x02]

def lateLoadField : HidField :=
  { usagePath := [power 0x35], usagePage := pagePower, usageId := 0x35, reportId := 0, bitOffset := 504, bitSize := 8
    type := .feature, logicalMin := 0, logicalMax := 0, physicalMin := 0, physicalMax := 0, unitExponent := 0, unit := 0 }

-- A single 64-bit Feature of a vendor's page, which none of the registers is resolved to.
def unknownFeatureDescriptor : List Byte := [0x06, 0x00, 0xFF, 0x09, 0x01, 0x75, 0x40, 0x95, 0x01, 0xB1, 0x02]

def unknownFeatureField : HidField :=
  { usagePath := [hidUp 0xFF00 0x01], usagePage := 0xFF00, usageId := 0x01, reportId := 0, bitOffset := 0, bitSize := 64
    type := .feature, logicalMin := 0, logicalMax := 0, physicalMin := 0, physicalMax := 0, unitExponent := 0, unit := 0 }

end AiriesUps.Hid
