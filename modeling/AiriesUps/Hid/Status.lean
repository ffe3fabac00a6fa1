import AiriesUps.Hid.FieldRead
import AiriesUps.Hid.Registers
import AiriesUps.Ups.Data

set_option autoImplicit false

namespace AiriesUps.Hid

open PackedBits (Byte overlay bitAt onlyBit)

abbrev StatusUsage := BitVec 16 × BitVec 16

def usageOverload : StatusUsage := (pagePower, 0x0065)
def usageShutdownRequested : StatusUsage := (pagePower, 0x0068)
def usageShutdownImminent : StatusUsage := (pagePower, 0x0069)
def usageBoost : StatusUsage := (pagePower, 0x006E)
def usageBuck : StatusUsage := (pagePower, 0x006F)
def usageCommunicationsLost : StatusUsage := (pagePower, 0x0073)
def usageBelowCapLimit : StatusUsage := (pageBattery, 0x0042)
def usageRemainingTimeExp : StatusUsage := (pageBattery, 0x0043)
def usageDischarging : StatusUsage := (pageBattery, 0x0045)
def usageNeedReplacement : StatusUsage := (pageBattery, 0x004B)
def usageAcPresent : StatusUsage := (pageBattery, 0x00D0)
def usageBatteryPresent : StatusUsage := (pageBattery, 0x00D1)
def usageVoltageNotReg : StatusUsage := (pageBattery, 0x00DB)

def stShutPending : Ups.Word := Ups.bit 9
def stAvrBoost : Ups.Word := Ups.bit 16
def stAvrTrim : Ups.Word := Ups.bit 17
def generrInternalComm : BitVec 16 := 1#16 <<< 4
def baterrDisconnected : BitVec 16 := 1#16 <<< 0
def baterrReplace : BitVec 16 := 1#16 <<< 2
def transferReasonUnknown : BitVec 16 := 0xFFFF

structure StatusData where
  status : Ups.Word
  sigStatus : BitVec 16
  generalError : BitVec 16
  batSystemError : BitVec 16
  transferReason : BitVec 16
  batTestStatus : BitVec 16
  outletMog : Ups.Word
deriving DecidableEq, Repr

def HidField.isStatusBit (field : HidField) (wanted : StatusUsage) : Bool :=
  decide (field.type = .feature ∧ field.bitSize = 1 ∧ field.usagePage = wanted.1 ∧ field.usageId = wanted.2)

def HidField.returned (field : HidField) (reportLen : Nat) : Bool :=
  decide (1 + field.bitOffset.toNat / 8 < reportLen)

def HidField.statusBit (field : HidField) (report : List Byte) : Bool :=
  (report.getD (1 + field.bitOffset.toNat / 8) 0).getLsbD (field.bitOffset.toNat % 8)

def HidField.answers (field : HidField) (wanted : StatusUsage) (reportLen : Nat) : Bool :=
  field.isStatusBit wanted && field.returned reportLen

-- read_status_bit; the report of a field is not looked at
def readStatusBit (map : ReportMap) (wanted : StatusUsage) (report : List Byte) (reportLen : Nat) : Bool :=
  match map.find? fun field => field.answers wanted reportLen with
  | some field => field.statusBit report
  | none => false

def hasStatusBit (map : ReportMap) (wanted : StatusUsage) : Bool := map.any fun field => field.isStatusBit wanted

-- The report of the first ACPresent bit, or report 0.
def statusRid (map : ReportMap) : Byte :=
  ((map.find? fun field => field.isStatusBit usageAcPresent).map HidField.reportId).getD 0

def flagIf {width : Nat} (condition : Bool) (flag : BitVec width) : BitVec width := if condition then flag else 0

-- The flags of a PresentStatus report, by what its bits answer.
def presentStatus (bit : StatusUsage → Bool) (hasBatteryPresent skipAvrBits : Bool) (batTestStatus : BitVec 16) :
    StatusData :=
  { status :=
      flagIf (bit usageAcPresent) Ups.stOnline ||| flagIf (bit usageDischarging) Ups.stOnBattery |||
        flagIf (bit usageOverload) Ups.stOverload ||| flagIf (bit usageShutdownRequested) stShutPending |||
        flagIf (bit usageBelowCapLimit) Ups.stInputBad ||| flagIf (bit usageVoltageNotReg) Ups.stFault |||
        flagIf (!skipAvrBits && bit usageBoost) stAvrBoost ||| flagIf (!skipAvrBits && bit usageBuck) stAvrTrim
    sigStatus :=
      flagIf (bit usageShutdownImminent) Ups.sigShutdownImminent |||
        flagIf (bit usageRemainingTimeExp) Ups.sigShutdownImminent
    generalError := flagIf (bit usageCommunicationsLost) generrInternalComm
    batSystemError :=
      flagIf (bit usageNeedReplacement) baterrReplace |||
        flagIf (hasBatteryPresent && !bit usageBatteryPresent) baterrDisconnected
    transferReason := transferReasonUnknown
    batTestStatus
    outletMog := 0 }

def StatusData.withTest (data : StatusData) (testVal : BitVec 32) : StatusData :=
  { data with
    status := data.status ||| flagIf (testVal == 5) Ups.stTest
    batTestStatus := testVal.setWidth 16 }

def StatusData.withOutlet (data : StatusData) : StatusData :=
  { data with
    outletMog := if Ups.has data.status Ups.stOnline || Ups.has data.status Ups.stOnBattery then 1 else 2 }

-- hid_pdc_read_status_standard; none is UPS_ERR_IO
def hidPdcReadStatusStandard {Device : Type} (node : Hidraw Device) (device : Device) (map : ReportMap)
    (skipAvrBits : Bool) (test : Option HidField) (data : StatusData) : Except Fault (Option StatusData) :=
  match node.getFeature device (statusRid map) readBufferSize with
  | none => .ok none
  | some sent =>
    let report := sent.take readBufferSize
    let buf := overlay report ((List.replicate readBufferSize 0).set 0 (statusRid map))
    let present := presentStatus (fun wanted => readStatusBit map wanted buf report.length)
      (hasStatusBit map usageBatteryPresent) skipAvrBits data.batTestStatus
    match test with
    | none => .ok (some present.withOutlet)
    | some field => do
      let testVal ← hidFieldReadRaw node device (some field)
      .ok (some (present.withTest testVal).withOutlet)

def statusUsages (skipAvrBits : Bool) : List StatusUsage :=
  [usageAcPresent, usageDischarging, usageOverload, usageShutdownRequested, usageShutdownImminent, usageBelowCapLimit,
    usageRemainingTimeExp, usageCommunicationsLost, usageNeedReplacement, usageBatteryPresent, usageVoltageNotReg] ++
    if skipAvrBits then [] else [usageBoost, usageBuck]

-- The status is made of the answers to those usages and of nothing else of the report.
theorem present_status_congr (bit other : StatusUsage → Bool) (skipAvrBits hasBatteryPresent : Bool)
    (batTestStatus : BitVec 16) (same : ∀ wanted ∈ statusUsages skipAvrBits, bit wanted = other wanted) :
    presentStatus bit hasBatteryPresent skipAvrBits batTestStatus =
      presentStatus other hasBatteryPresent skipAvrBits batTestStatus := by
  simp only [statusUsages, List.cons_append, List.nil_append, List.forall_mem_cons] at same
  obtain ⟨acPresent, discharging, overload, requested, imminent, capLimit, timeLimit, comms, replacement, present,
    voltage, avr⟩ := same
  have boost : (!skipAvrBits && bit usageBoost) = (!skipAvrBits && other usageBoost) := by
    cases skipAvrBits with
    | true => rfl
    | false => rw [avr usageBoost (List.mem_cons_self ..)]
  have buck : (!skipAvrBits && bit usageBuck) = (!skipAvrBits && other usageBuck) := by
    cases skipAvrBits with
    | true => rfl
    | false => rw [avr usageBuck (List.mem_cons_of_mem _ (List.mem_singleton_self _))]
  simp only [presentStatus, acPresent, discharging, overload, requested, imminent, capLimit, timeLimit, comms,
    replacement, present, voltage, boost, buck]

-- The answer is a bit of the status report that belongs to the usage, or the
-- usage has no bit there and is not reported, whatever the report holds.
def FromOwnReport (map : ReportMap) (reportLen : Nat) (wanted : StatusUsage) : Prop :=
  (∃ field ∈ map, field.answers wanted reportLen = true ∧ field.reportId = statusRid map ∧
      ∀ report, readStatusBit map wanted report reportLen = field.statusBit report) ∨
    (∀ field ∈ map, field.answers wanted reportLen = true → field.reportId ≠ statusRid map) ∧
      ∀ report, readStatusBit map wanted report reportLen = false

-- The first field of the usage that the reader finds, in whatever report, is at
-- the place of one of the status report.
def FoundInPlace (map : ReportMap) (reportLen : Nat) (wanted : StatusUsage) : Prop :=
  ∀ first, map.find? (fun field => field.answers wanted reportLen) = some first →
    ∃ field ∈ map, field.answers wanted reportLen = true ∧ field.reportId = statusRid map ∧
      field.bitOffset = first.bitOffset

theorem status_bit_place (field : HidField) (report : List Byte) :
    field.statusBit report = bitAt report (8 + field.bitOffset.toNat) := by
  have byteIndex : (8 + field.bitOffset.toNat) / 8 = 1 + field.bitOffset.toNat / 8 := by omega
  have bitIndex : (8 + field.bitOffset.toNat) % 8 = field.bitOffset.toNat % 8 := by omega
  rw [HidField.statusBit, bitAt, byteIndex, bitIndex]
  rfl

-- A report with the field's bit alone tells its place from every other one.
theorem own_bit_alone (field : HidField) :
    ∃ report, field.statusBit report = true ∧
      ∀ other : HidField, other.statusBit report = true → other.bitOffset = field.bitOffset := by
  let position := 8 + field.bitOffset.toNat
  have inside : position / 8 < position := by omega
  refine ⟨onlyBit position position, ?_, fun other isSet => ?_⟩
  · rw [status_bit_place, PackedBits.bitAt_onlyBit _ _ _ inside]
    exact decide_eq_true rfl
  · rw [status_bit_place, PackedBits.bitAt_onlyBit _ _ _ inside, decide_eq_true_eq] at isSet
    exact BitVec.eq_of_toNat_eq (by omega)

theorem from_own_report_iff (map : ReportMap) (reportLen : Nat) (wanted : StatusUsage) :
    FromOwnReport map reportLen wanted ↔ FoundInPlace map reportLen wanted := by
  rw [FromOwnReport, FoundInPlace]
  cases found : map.find? fun field => field.answers wanted reportLen with
  | none =>
    have silent : ∀ report, readStatusBit map wanted report reportLen = false := fun report => by
      rw [readStatusBit, found]
    refine ⟨fun _ first isFirst => (by cases isFirst), fun _ => Or.inr ⟨fun field member answers => ?_, silent⟩⟩
    exact absurd answers (List.find?_eq_none.mp found field member)
  | some first =>
    have reads : ∀ report, readStatusBit map wanted report reportLen = first.statusBit report := fun report => by
      rw [readStatusBit, found]
    simp only [reads]
    obtain ⟨alone, isSet, distinct⟩ := own_bit_alone first
    refine ⟨fun own other isFirst => ?_, fun inPlace => Or.inl ?_⟩
    · cases isFirst
      obtain ⟨field, member, answers, isOwn, same⟩ | ⟨_, silent⟩ := own
      · exact ⟨field, member, answers, isOwn, distinct field (by rw [← same, isSet])⟩
      · rw [silent alone] at isSet
        cases isSet
    · obtain ⟨field, member, answers, isOwn, same⟩ := inPlace first rfl
      exact ⟨field, member, answers, isOwn, fun report => by rw [HidField.statusBit, HidField.statusBit, same]⟩

-- Where that holds, the whole status is made of bits of the status report that
-- belong to the usages asked for.
theorem status_of_own_bits (map : ReportMap) (reportLen : Nat) (skipAvrBits : Bool)
    (own : ∀ wanted ∈ statusUsages skipAvrBits, FromOwnReport map reportLen wanted) :
    ∃ place : StatusUsage → Option HidField,
      (∀ wanted ∈ statusUsages skipAvrBits, ∀ field, place wanted = some field →
        field ∈ map ∧ field.answers wanted reportLen = true ∧ field.reportId = statusRid map) ∧
      ∀ report hasBatteryPresent batTestStatus,
        presentStatus (fun wanted => readStatusBit map wanted report reportLen) hasBatteryPresent skipAvrBits
            batTestStatus =
          presentStatus (fun wanted => ((place wanted).map fun field => field.statusBit report).getD false)
            hasBatteryPresent skipAvrBits batTestStatus := by
  have placed : ∀ wanted, ∃ place : Option HidField, wanted ∈ statusUsages skipAvrBits →
      (∀ field, place = some field →
        field ∈ map ∧ field.answers wanted reportLen = true ∧ field.reportId = statusRid map) ∧
      ∀ report, readStatusBit map wanted report reportLen =
        (place.map fun field => field.statusBit report).getD false := by
    intro wanted
    by_cases listed : wanted ∈ statusUsages skipAvrBits
    · obtain ⟨field, member, answers, isOwn, same⟩ | ⟨_, silent⟩ := own wanted listed
      · exact ⟨some field, fun _ => ⟨fun other isOther => Option.some.inj isOther ▸ ⟨member, answers, isOwn⟩, same⟩⟩
      · exact ⟨none, fun _ => ⟨fun other isOther => (by cases isOther), silent⟩⟩
    · exact ⟨none, fun member => absurd member listed⟩
  choose place isPlace using placed
  refine ⟨place, fun wanted listed => (isPlace wanted listed).1, fun report hasBatteryPresent batTestStatus => ?_⟩
  exact present_status_congr _ _ skipAvrBits hasBatteryPresent batTestStatus
    fun wanted listed => (isPlace wanted listed).2 report

-- ACPresent in report 1 and Overload in report 2, both at bit 0.
def splitStatusDescriptor : List Byte :=
  [0x05, 0x85, 0x85, 0x01, 0x09, 0xD0, 0x75, 0x01, 0x95, 0x01, 0xB1, 0x02,
    0x05, 0x84, 0x85, 0x02, 0x09, 0x65, 0xB1, 0x02]

end AiriesUps.Hid
