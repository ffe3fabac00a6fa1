import AiriesUps.Hid.UsbDate

set_option autoImplicit false

namespace AiriesUps.Api

open Hid (TimeZone ValidUsbDate hidPdcUsbDateToDaysSince2000 usbDayNumber usbDateText day2000 midnight)

inductive Json where
  | number (value : Int)
  | quotient (value divisor : Nat)
  | bool (value : Bool)
  | string (text : List Char)
  | array (items : List Json)
  | object (members : List (String × Json))

inductive RegCategory where
  | config
  | measurement
  | identity
  | diagnostic
deriving DecidableEq, Repr

structure BitfieldOpt where
  value : BitVec 32
  name : String
  label : String

-- ups_cfg_type_t with the union branch that matches it
inductive RegMeta where
  | scalar (min max step : Int)
  | bitfield (opts : List BitfieldOpt) (strict : Bool)
  | string (maxChars : Nat)
  | flags (opts : List BitfieldOpt)

-- ups_config_reg_t, without the address a driver reads it at
structure RegDescriptor where
  name : String
  displayName : String
  unit : Option String
  group : Option String
  kind : RegMeta
  scale : Nat
  writable : Bool
  category : RegCategory
  sentinelValue : Option (BitVec 32)

def categoryName : RegCategory → String
  | .config => "config"
  | .measurement => "measurement"
  | .identity => "identity"
  | .diagnostic => "diagnostic"

def text (value : String) : Json := .string value.toList

def optional (key : String) (value : Option String) : List (String × Json) :=
  match value with
  | none => []
  | some value => [(key, text value)]

def optJson (valueKey : BitfieldOpt) : Json :=
  .object [("value", .number valueKey.value.toNat), ("name", text valueKey.name), ("label", text valueKey.label)]

def optionsJson (opts : List BitfieldOpt) : String × Json := ("options", .array (opts.map optJson))

def isSentinel (reg : RegDescriptor) (raw : BitVec 32) : Bool := reg.sentinelValue == some raw

def regHead (reg : RegDescriptor) (raw : BitVec 32) : List (String × Json) :=
  [("name", text reg.name), ("display_name", text reg.displayName)] ++ optional "unit" reg.unit ++
    optional "group" reg.group ++
    [("category", text (categoryName reg.category)), ("raw_value", .number raw.toNat), ("writable", .bool reg.writable)] ++
    (if isSentinel reg raw then [("is_sentinel", .bool true)] else []) ++
    [("value", if reg.scale > 1 then .quotient raw.toNat reg.scale else .number raw.toNat)]

-- gmtime_r and "%Y-%m-%d"
def gmtimeDate (time : Int) : List Char := Calendar.dateText (Nat.toDigits 10) (Calendar.dayOf time)

def regDate (reg : RegDescriptor) (raw : BitVec 32) : List (String × Json) :=
  if reg.unit = some "days since 2000-01-01" ∧ 0 < raw.toNat ∧ isSentinel reg raw = false then
    [("date", .string (gmtimeDate (946684800 + raw.toNat * 86400)))]
  else []

def regType (reg : RegDescriptor) (raw : BitVec 32) (strVal : Option String) : List (String × Json) :=
  match reg.kind with
  | .scalar min max step =>
    [("type", text "scalar")] ++ (if min ≠ 0 ∨ max ≠ 0 then [("min", .number min), ("max", .number max)] else []) ++
      (if step ≠ 0 then [("step", .number step)] else [])
  | .bitfield opts strict =>
    [("type", text "bitfield")] ++
      (match opts.find? fun opt => opt.value == raw with
        | some opt => [("setting", text opt.name), ("setting_label", text opt.label)]
        | none => []) ++
      [optionsJson opts, ("strict", .bool strict)]
  | .flags opts =>
    [("type", text "flags"),
      ("active_flags", .array ((opts.filter fun opt => opt.value ≠ 0 ∧ raw &&& opt.value = opt.value).map optJson)),
      optionsJson opts]
  | .string maxChars =>
    [("type", text "string")] ++ (if maxChars ≠ 0 then [("max_chars", .number maxChars)] else []) ++
      optional "string_value" strVal

-- reg_to_json: the object's members in the order they are added
def regToJson (reg : RegDescriptor) (raw : BitVec 32) (strVal : Option String) : List (String × Json) :=
  regHead reg raw ++ regDate reg raw ++ regType reg raw strVal

def shownDate (members : List (String × Json)) : Option (List Char) :=
  match members.lookup "date" with
  | some (.string date) => some date
  | _ => none

-- The entry both HID drivers have for the packed date, after its fixup.
def manufactureDate (min max : Int) : RegDescriptor :=
  { name := "manufacture_date"
    displayName := "Manufacture Date"
    unit := some "days since 2000-01-01"
    group := some "info"
    kind := .scalar min max 0
    scale := 1
    writable := false
    category := .identity
    sentinelValue := none }

-- apc_config_read and cyberpower_config_read, once the field is read
def convertRead (zone : TimeZone) (reg : RegDescriptor) (read : BitVec 32) : BitVec 32 :=
  if reg.name = "manufacture_date" then (hidPdcUsbDateToDaysSince2000 zone (read.setWidth 16)).setWidth 32 else read

def roundTrip (zone : TimeZone) (min max : Int) (raw : BitVec 16) : Option (List Char) :=
  shownDate
    (regToJson (manufactureDate min max) (convertRead zone (manufactureDate min max) (raw.setWidth 32)) none)

theorem lookup_optional (key other : String) (value : Option String) (different : other ≠ key) :
    (optional key value).lookup other = none := by
  cases value with
  | none => rfl
  | some value => simp [optional, different]

theorem head_without_date (reg : RegDescriptor) (raw : BitVec 32) : (regHead reg raw).lookup "date" = none := by
  rw [regHead]
  simp only [List.lookup_append, lookup_optional _ "date" _ (by decide : "date" ≠ "unit"),
    lookup_optional _ "date" _ (by decide : "date" ≠ "group")]
  split <;> rfl

theorem type_without_date (reg : RegDescriptor) (raw : BitVec 32) (strVal : Option String) :
    (regType reg raw strVal).lookup "date" = none := by
  rw [regType]
  cases reg.kind with
  | scalar min max step =>
    simp only [List.lookup_append]
    split <;> split <;> rfl
  | bitfield opts strict =>
    simp only [List.lookup_append]
    split <;> rfl
  | flags opts => rfl
  | string maxChars =>
    simp only [List.lookup_append, lookup_optional _ "date" _ (by decide : "date" ≠ "string_value")]
    split <;> rfl

theorem shown_date (reg : RegDescriptor) (raw : BitVec 32) (strVal : Option String) :
    shownDate (regToJson reg raw strVal) =
      if reg.unit = some "days since 2000-01-01" ∧ 0 < raw.toNat ∧ isSentinel reg raw = false then
        some (gmtimeDate (946684800 + raw.toNat * 86400))
      else none := by
  rw [shownDate, regToJson, List.lookup_append, List.lookup_append, head_without_date, type_without_date, regDate]
  by_cases dated : reg.unit = some "days since 2000-01-01" ∧ 0 < raw.toNat ∧ isSentinel reg raw = false
  · rw [if_pos dated, if_pos dated]
    rfl
  · rw [if_neg dated, if_neg dated]
    rfl

theorem gmtime_days (days : Nat) :
    gmtimeDate (946684800 + days * 86400) = Calendar.dateText (Nat.toDigits 10) (day2000 + days) := by
  have first : day2000 = 730485 := by decide
  have day : Calendar.dayOf (946684800 + days * 86400) = day2000 + days := by
    rw [Calendar.dayOf, Calendar.epoch, first]
    omega
  rw [gmtimeDate, day]

theorem round_trip_shown (zone : TimeZone) (min max : Int) (raw : BitVec 16) :
    roundTrip zone min max raw =
      if 0 < (hidPdcUsbDateToDaysSince2000 zone raw).toNat then
        some (Calendar.dateText (Nat.toDigits 10) (day2000 + (hidPdcUsbDateToDaysSince2000 zone raw).toNat))
      else none := by
  have packed : (raw.setWidth 32).setWidth 16 = raw := by simp
  have widened : ((hidPdcUsbDateToDaysSince2000 zone raw).setWidth 32).toNat =
      (hidPdcUsbDateToDaysSince2000 zone raw).toNat := by
    rw [BitVec.toNat_setWidth]
    omega
  have converted : convertRead zone (manufactureDate min max) (raw.setWidth 32) =
      (hidPdcUsbDateToDaysSince2000 zone raw).setWidth 32 := by
    rw [convertRead, packed]
    exact if_pos rfl
  have plain : isSentinel (manufactureDate min max) ((hidPdcUsbDateToDaysSince2000 zone raw).setWidth 32) = false := rfl
  rw [roundTrip, converted, shown_date, plain, widened, gmtime_days]
  simp only [manufactureDate, true_and, and_true]

-- The texts are those of four-digit years, which tell any two days apart.
theorem date_text_same (first second : Nat) (begun : day2000 ≤ first ∧ day2000 ≤ second)
    (inside : first < day2000 + 65536 ∧ second < day2000 + 65536)
    (same : Calendar.dateText (Nat.toDigits 10) first = Calendar.dateText (Nat.toDigits 10) second) : first = second := by
  have wide : Calendar.daysBeforeYear 1000 ≤ day2000 := by decide
  have narrow : day2000 + 65536 ≤ Calendar.daysBeforeYear 10000 := by decide +kernel
  have fourDigits : ∀ day, day2000 ≤ day → day < day2000 + 65536 →
      1000 ≤ Calendar.year day ∧ Calendar.year day < 10000 := by
    intro day late early
    have before : ¬Calendar.daysBeforeYear 10000 ≤ day := Nat.not_le.mpr (Nat.lt_of_lt_of_le early narrow)
    rw [← Calendar.le_year_iff] at before
    exact ⟨(Calendar.le_year_iff 1000 day).mpr (Nat.le_trans wide late), Nat.not_le.mp before⟩
  have firstYear := fourDigits first begun.1 inside.1
  have secondYear := fourDigits second begun.2 inside.2
  rw [Calendar.date_text_unpadded _ firstYear.1 firstYear.2, Calendar.date_text_unpadded _ secondYear.1 secondYear.2] at same
  exact Calendar.date_text_inj first second ⟨firstYear.2, secondYear.2⟩ same

-- East of UTC local midnight belongs to the UTC day before.
theorem usb_date_shown_iff (zone : TimeZone) (min max : Int) (raw : BitVec 16) (valid : ValidUsbDate raw)
    (recent : day2000 < usbDayNumber raw) :
    roundTrip zone min max raw = some (usbDateText raw) ↔
      -86400 < zone.offset (midnight (usbDayNumber raw)) ∧ zone.offset (midnight (usbDayNumber raw)) ≤ 0 := by
  have late := Hid.usb_day_number_lt raw valid
  have narrow := (hidPdcUsbDateToDaysSince2000 zone raw).isLt
  rw [← Hid.usb_days_iff zone raw valid recent, round_trip_shown, Hid.usb_date_text raw valid]
  constructor
  · intro shown
    split at shown
    · exact date_text_same _ _ (by omega) (by omega) (Option.some.inj shown)
    · exact absurd shown nofun
  · intro counted
    rw [if_pos (by omega), counted]

-- 2024-02-29, in a host that keeps UTC and in one an hour east of it.
def leapDay : BitVec 16 := 0x585D

def utcPlusOne : TimeZone := { offset := fun _ => 3600, inside := fun _ => by decide }

theorem leap_day_shown : roundTrip Hid.utc 0 0 leapDay = some (usbDateText leapDay) :=
  (usb_date_shown_iff Hid.utc 0 0 leapDay ⟨by decide, by decide⟩ (by decide +kernel)).mpr ⟨by decide, by decide⟩

theorem leap_day_shown_early :
    ValidUsbDate leapDay ∧ day2000 < usbDayNumber leapDay ∧
      roundTrip utcPlusOne 0 0 leapDay = some "2024-02-28".toList ∧ usbDateText leapDay = "2024-02-29".toList :=
  ⟨⟨by decide, by decide⟩, by decide +kernel, by decide +kernel, by decide +kernel⟩

end AiriesUps.Api
