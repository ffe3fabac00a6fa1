import AiriesUps.Lib.Calendar
import Mathlib.Data.BitVec

set_option autoImplicit false

namespace AiriesUps.Hid

-- The host's time zone: the seconds east of UTC in force at a local time, itself counted
-- as if it were UTC. Summer time is part of it, and for a local time that a clock change
-- skips or repeats it is the one mktime settles on under tm_isdst = -1.
structure TimeZone where
  offset : Int → Int
  inside : ∀ time, -93600 < offset time ∧ offset time < 93600

def utc : TimeZone := { offset := fun _ => 0, inside := fun _ => by decide }

structure Tm where
  year : Int
  mon : Int
  mday : Int

-- Months outside the year are carried into it, days outside the month into the month.
def Tm.day (tm : Tm) : Int :=
  Calendar.dayNumber (tm.year + 1900 + tm.mon / 12).toNat (tm.mon % 12).toNat 0 + (tm.mday - 1)

def midnight (day : Int) : Int := (day - Calendar.epoch) * 86400

def mktime (zone : TimeZone) (tm : Tm) : Int := midnight tm.day - zone.offset (midnight tm.day)

def usbDay (raw : BitVec 16) : Nat := (raw &&& 0x1F).toNat

def usbMonth (raw : BitVec 16) : Nat := (raw >>> 5 &&& 0x0F).toNat

def usbYear (raw : BitVec 16) : Nat := (raw >>> 9 &&& 0x7F).toNat + 1980

-- 2000-01-01 00:00:00 UTC
def epoch2000 : Int := 946684800

def hidPdcUsbDateToDaysSince2000 (zone : TimeZone) (raw : BitVec 16) : BitVec 16 :=
  if raw = 0 then 0
  else
    let t := mktime zone { year := usbYear raw - 1900, mon := usbMonth raw - 1, mday := usbDay raw }
    if t < epoch2000 then 0 else BitVec.ofInt 16 ((t - epoch2000) / 86400)

structure ValidUsbDate (raw : BitVec 16) : Prop where
  month : 1 ≤ usbMonth raw ∧ usbMonth raw ≤ 12
  day : 1 ≤ usbDay raw ∧ usbDay raw ≤ Calendar.monthLength (Calendar.isLeap (usbYear raw)) (usbMonth raw - 1)

def usbDayNumber (raw : BitVec 16) : Nat :=
  Calendar.dayNumber (usbYear raw) (usbMonth raw - 1) (usbDay raw - 1)

def usbDateText (raw : BitVec 16) : List Char :=
  Nat.toDigits 10 (usbYear raw) ++ ('-' :: Decimal.fixed 2 (usbMonth raw) ++ '-' :: Decimal.fixed 2 (usbDay raw))

def day2000 : Nat := Calendar.dayNumber 2000 0 0

theorem epoch_midnight : midnight day2000 = epoch2000 := by decide

theorem usb_year_bounds (raw : BitVec 16) : 1980 ≤ usbYear raw ∧ usbYear raw < 2108 := by
  have mask : (raw >>> 9 &&& 0x7F).toNat ≤ 127 := by
    rw [BitVec.toNat_and]
    exact Nat.and_le_right
  rw [usbYear]
  omega

theorem usb_date_text (raw : BitVec 16) (valid : ValidUsbDate raw) :
    usbDateText raw = Calendar.dateText (Nat.toDigits 10) (usbDayNumber raw) := by
  have month := valid.month
  have day := valid.day
  rw [usbDateText, usbDayNumber, Calendar.date_text_day_number _ _ _ _ (by omega) (by omega), Nat.sub_add_cancel month.1,
    Nat.sub_add_cancel day.1]

theorem usb_tm_day (raw : BitVec 16) (valid : ValidUsbDate raw) :
    Tm.day { year := usbYear raw - 1900, mon := usbMonth raw - 1, mday := usbDay raw } = usbDayNumber raw := by
  have month := valid.month
  have day := valid.day
  have year : ((usbYear raw : Int) - 1900 + 1900 + ((usbMonth raw : Int) - 1) / 12).toNat = usbYear raw := by omega
  have mon : (((usbMonth raw : Int) - 1) % 12).toNat = usbMonth raw - 1 := by omega
  rw [Tm.day, year, mon, usbDayNumber, Calendar.dayNumber, Calendar.dayNumber]
  dsimp only
  omega

theorem usb_day_number_lt (raw : BitVec 16) (valid : ValidUsbDate raw) : usbDayNumber raw < day2000 + 40000 := by
  have month := valid.month
  have day := valid.day
  have year := Calendar.year_day_number (usbYear raw) (usbMonth raw - 1) (usbDay raw - 1) (by omega) (by omega)
  have bound := (usb_year_bounds raw).2
  have early : ¬2108 ≤ Calendar.year (usbDayNumber raw) := by
    rw [usbDayNumber, year]
    omega
  rw [Calendar.le_year_iff] at early
  have last : Calendar.daysBeforeYear 2108 ≤ day2000 + 40000 := by decide
  omega

-- The host's own midnight of the date, in seconds since 1970.
theorem usb_mktime (zone : TimeZone) (raw : BitVec 16) (valid : ValidUsbDate raw) :
    mktime zone { year := usbYear raw - 1900, mon := usbMonth raw - 1, mday := usbDay raw } =
      epoch2000 + ((usbDayNumber raw : Int) - day2000) * 86400 - zone.offset (midnight (usbDayNumber raw)) := by
  rw [mktime, usb_tm_day raw valid, ← epoch_midnight]
  simp only [midnight]
  omega

-- The day count is right where midnight falls within the date's own UTC day.
theorem usb_days_iff (zone : TimeZone) (raw : BitVec 16) (valid : ValidUsbDate raw) (recent : day2000 < usbDayNumber raw) :
    day2000 + (hidPdcUsbDateToDaysSince2000 zone raw).toNat = usbDayNumber raw ↔
      -86400 < zone.offset (midnight (usbDayNumber raw)) ∧ zone.offset (midnight (usbDayNumber raw)) ≤ 0 := by
  have nonzero : raw ≠ 0 := by
    intro zero
    have month := valid.month
    rw [zero] at month
    exact absurd month.1 (by decide)
  have late := usb_day_number_lt raw valid
  have inside := zone.inside (midnight (usbDayNumber raw))
  rw [hidPdcUsbDateToDaysSince2000, if_neg nonzero]
  simp only [usb_mktime zone raw valid]
  generalize zone.offset (midnight (usbDayNumber raw)) = offset at *
  generalize usbDayNumber raw = day at *
  have since : epoch2000 + ((day : Int) - day2000) * 86400 - offset - epoch2000 =
      ((day : Int) - day2000) * 86400 - offset := by omega
  rw [since]
  by_cases early : epoch2000 + ((day : Int) - day2000) * 86400 - offset < epoch2000
  · rw [if_pos early]
    have zero : (0 : BitVec 16).toNat = 0 := rfl
    omega
  · rw [if_neg early, BitVec.toNat_ofInt]
    omega

end AiriesUps.Hid
