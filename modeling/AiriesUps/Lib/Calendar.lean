import AiriesUps.Lib.Decimal
import Mathlib.Data.Nat.Find
import Mathlib.Order.Monotone.Basic

set_option autoImplicit false

-- Civil time: the date and the time of day of a number of seconds since 1970, and
-- their text, whose order is the order of time.
namespace Calendar

section

variable (start : Nat → Nat) (bound : Nat)

-- The last index that starts at or before the value, and how far in the value lies.
def place (value : Nat) : Nat := Nat.findGreatest (fun index => start index ≤ value) bound

def offset (value : Nat) : Nat := value - start (place start bound value)

theorem start_place_le (zero : start 0 = 0) (value : Nat) : start (place start bound value) ≤ value :=
  Nat.findGreatest_spec (P := fun index => start index ≤ value) (Nat.zero_le bound) (by rw [zero]; exact Nat.zero_le value)

theorem le_place_iff (zero : start 0 = 0) (mono : Monotone start) (value : Nat)
    (covered : ∀ index, start index ≤ value → index ≤ bound) (index : Nat) :
    index ≤ place start bound value ↔ start index ≤ value := by
  constructor
  · intro below
    exact Nat.le_trans (mono below) (start_place_le start bound zero value)
  · intro started
    exact Nat.le_findGreatest (covered index started) started

theorem place_eq (zero : start 0 = 0) (mono : Monotone start) (value : Nat)
    (covered : ∀ index, start index ≤ value → index ≤ bound) (index : Nat) (begun : start index ≤ value)
    (next : value < start (index + 1)) : place start bound value = index := by
  have reached := (le_place_iff start bound zero mono value covered index).mpr begun
  have past := (le_place_iff start bound zero mono value covered (index + 1)).not.mpr (Nat.not_le.mpr next)
  omega

end

-- The first of January, counted from that of year 0; every fourth year before it has
-- one day more, but for three centuries of four.
def daysBeforeYear (year : Nat) : Nat := 365 * year + (year + 3) / 4 - (year + 99) / 100 + (year + 399) / 400

def isLeap (year : Nat) : Bool := year % 4 == 0 && (year % 100 != 0 || year % 400 == 0)

def monthLength (leap : Bool) : Nat → Nat
  | 0 => 31
  | 1 => if leap then 29 else 28
  | 2 => 31
  | 3 => 30
  | 4 => 31
  | 5 => 30
  | 6 => 31
  | 7 => 31
  | 8 => 30
  | 9 => 31
  | 10 => 30
  | 11 => 31
  | _ => 0

def monthStart (leap : Bool) : Nat → Nat
  | 0 => 0
  | month + 1 => monthStart leap month + monthLength leap month

def year (days : Nat) : Nat := place daysBeforeYear (days / 365) days

def dayOfYear (days : Nat) : Nat := offset daysBeforeYear (days / 365) days

-- Months and days count from 0 here.
def month (days : Nat) : Nat := place (monthStart (isLeap (year days))) 11 (dayOfYear days)

def dayOfMonth (days : Nat) : Nat := offset (monthStart (isLeap (year days))) 11 (dayOfYear days)

-- The day of a date.
def dayNumber (year month day : Nat) : Nat := daysBeforeYear year + monthStart (isLeap year) month + day

-- The first of January 1970.
def epoch : Nat := 719528

-- Times before the year 0 count as its first day.
def dayOf (time : Int) : Nat := (time / 86400 + epoch).toNat

def secondOf (time : Int) : Nat := (time % 86400).toNat

def dateText (yearText : Nat → List Char) (days : Nat) : List Char :=
  yearText (year days) ++ ('-' :: Decimal.fixed 2 (month days + 1) ++ '-' :: Decimal.fixed 2 (dayOfMonth days + 1))

def clockText (seconds : Nat) : List Char :=
  Decimal.fixed 2 (seconds / 3600) ++
    (':' :: Decimal.fixed 2 (seconds / 60 % 60) ++ ':' :: Decimal.fixed 2 (seconds % 60))

-- "%Y-%m-%d %H:%M:%S"
def text (yearText : Nat → List Char) (time : Int) : List Char :=
  dateText yearText (dayOf time) ++ ' ' :: clockText (secondOf time)

-- The first second of a year.
def yearStart (year : Nat) : Int := ((daysBeforeYear year : Int) - epoch) * 86400

example : String.ofList (text (Nat.toDigits 10) 1735689599) = "2024-12-31 23:59:59" := by decide +kernel

theorem days_before_next_year (year : Nat) :
    daysBeforeYear (year + 1) = daysBeforeYear year + 365 + if isLeap year then 1 else 0 := by
  have fourth := @Nat.succ_div (year + 3) 4
  have century := @Nat.succ_div (year + 99) 100
  have cycle := @Nat.succ_div (year + 399) 400
  have whole : (4 ∣ year + 3 + 1 ↔ year % 4 = 0) ∧ (100 ∣ year + 99 + 1 ↔ year % 100 = 0) ∧
      (400 ∣ year + 399 + 1 ↔ year % 400 = 0) := by omega
  have nested : (year % 400 = 0 → year % 100 = 0) ∧ (year % 100 = 0 → year % 4 = 0) := by omega
  have fewer : (year + 99) / 100 ≤ 365 * year + (year + 3) / 4 := by omega
  have leap : isLeap year = true ↔ year % 4 = 0 ∧ (¬year % 100 = 0 ∨ year % 400 = 0) := by
    simp [isLeap]
  simp only [whole.1, Nat.add_right_comm year 3 1] at fourth
  simp only [whole.2.1, Nat.add_right_comm year 99 1] at century
  simp only [whole.2.2, Nat.add_right_comm year 399 1] at cycle
  simp only [daysBeforeYear, leap, fourth, century, cycle]
  generalize (year + 3) / 4 = fourths at *
  generalize (year + 99) / 100 = centuries at *
  generalize (year + 399) / 400 = cycles at *
  generalize year % 4 = inFourth at *
  generalize year % 100 = inCentury at *
  generalize year % 400 = inCycle at *
  split <;> split <;> split <;> split <;> omega

theorem days_before_year_mono : Monotone daysBeforeYear :=
  monotone_nat_of_le_succ fun year => by
    rw [days_before_next_year]
    omega

theorem year_is_covered (days year : Nat) (started : daysBeforeYear year ≤ days) : year ≤ days / 365 := by
  have enough : 365 * year ≤ daysBeforeYear year := by
    rw [daysBeforeYear]
    omega
  omega

theorem le_year_iff (first days : Nat) : first ≤ year days ↔ daysBeforeYear first ≤ days :=
  le_place_iff daysBeforeYear _ rfl days_before_year_mono days (year_is_covered days) first

theorem day_of_year_lt (days : Nat) : dayOfYear days < 365 + if isLeap (year days) then 1 else 0 := by
  have next : ¬daysBeforeYear (year days + 1) ≤ days := by
    rw [← le_year_iff]
    omega
  rw [days_before_next_year] at next
  rw [dayOfYear, offset]
  change days - daysBeforeYear (year days) < _
  omega

theorem month_start_mono (leap : Bool) : Monotone (monthStart leap) :=
  monotone_nat_of_le_succ fun _ => Nat.le_add_right _ _

theorem month_is_covered (days index : Nat) (started : monthStart (isLeap (year days)) index ≤ dayOfYear days) :
    index ≤ 11 := by
  by_contra past
  have mono := month_start_mono (isLeap (year days)) (show 12 ≤ index by omega)
  have last : monthStart (isLeap (year days)) 12 = 365 + if isLeap (year days) then 1 else 0 := by
    cases isLeap (year days) <;> rfl
  have inside := day_of_year_lt days
  omega

theorem le_month_iff (days first : Nat) :
    first ≤ month days ↔ monthStart (isLeap (year days)) first ≤ dayOfYear days :=
  le_place_iff _ 11 rfl (month_start_mono _) _ (month_is_covered days) first

theorem day_of_month_lt (days : Nat) : dayOfMonth days < 31 := by
  have next : ¬monthStart (isLeap (year days)) (month days + 1) ≤ dayOfYear days := by
    rw [← le_month_iff]
    omega
  have short : monthLength (isLeap (year days)) (month days) ≤ 31 := by
    unfold monthLength
    split <;> (try split) <;> omega
  rw [monthStart] at next
  rw [dayOfMonth, offset]
  change dayOfYear days - monthStart (isLeap (year days)) (month days) < 31
  omega

theorem month_lt (days : Nat) : month days < 12 := by
  have inside : month days ≤ 11 := month_is_covered days _ (start_place_le _ 11 rfl _)
  omega

theorem year_day_number (first month day : Nat) (inYear : month < 12) (inMonth : day < monthLength (isLeap first) month) :
    year (dayNumber first month day) = first := by
  have last := month_start_mono (isLeap first) (show month + 1 ≤ 12 by omega)
  have whole : monthStart (isLeap first) 12 = 365 + if isLeap first then 1 else 0 := by
    cases isLeap first <;> rfl
  rw [monthStart] at last
  refine place_eq daysBeforeYear _ rfl days_before_year_mono _ (year_is_covered _) first ?_ ?_
  · rw [dayNumber]
    omega
  · rw [days_before_next_year, dayNumber]
    omega

theorem day_of_year_day_number (first month day : Nat) (inYear : month < 12)
    (inMonth : day < monthLength (isLeap first) month) :
    dayOfYear (dayNumber first month day) = monthStart (isLeap first) month + day := by
  have same := year_day_number first month day inYear inMonth
  change dayNumber first month day - daysBeforeYear (year (dayNumber first month day)) = _
  rw [same, dayNumber]
  omega

theorem month_day_number (first second day : Nat) (inYear : second < 12)
    (inMonth : day < monthLength (isLeap first) second) : month (dayNumber first second day) = second := by
  have leap := year_day_number first second day inYear inMonth
  have within := day_of_year_day_number first second day inYear inMonth
  have covered := month_is_covered (dayNumber first second day)
  rw [month]
  rw [leap, within] at *
  refine place_eq _ 11 rfl (month_start_mono _) _ covered second (Nat.le_add_right _ _) ?_
  rw [monthStart]
  omega

theorem day_of_month_day_number (first second day : Nat) (inYear : second < 12)
    (inMonth : day < monthLength (isLeap first) second) : dayOfMonth (dayNumber first second day) = day := by
  have same := month_day_number first second day inYear inMonth
  change dayOfYear _ - monthStart (isLeap (year _)) (month (dayNumber first second day)) = day
  rw [same, year_day_number first second day inYear inMonth, day_of_year_day_number first second day inYear inMonth]
  omega

theorem date_text_day_number (yearText : Nat → List Char) (first second day : Nat) (inYear : second < 12)
    (inMonth : day < monthLength (isLeap first) second) :
    dateText yearText (dayNumber first second day) =
      yearText first ++ ('-' :: Decimal.fixed 2 (second + 1) ++ '-' :: Decimal.fixed 2 (day + 1)) := by
  rw [dateText, year_day_number first second day inYear inMonth, month_day_number first second day inYear inMonth,
    day_of_month_day_number first second day inYear inMonth]

-- Of two values the later one has the later index, or the same index and lies further in.
theorem placed_lt (start : Nat → Nat) (first second index other : Nat) (less : first < second)
    (begun : start index ≤ first) (last : start index ≤ second → index ≤ other) :
    index < other ∨ index = other ∧ first - start index < second - start other := by
  rcases Nat.lt_or_eq_of_le (last (by omega)) with earlier | same
  · exact Or.inl earlier
  · subst same
    exact Or.inr ⟨rfl, by omega⟩

theorem field_lt (width first second : Nat) (separator : Char) (rest others : List Char) (inside : second < 10 ^ width)
    (less : first < second ∨ first = second ∧ rest < others) :
    Decimal.fixed width first ++ separator :: rest < Decimal.fixed width second ++ separator :: others := by
  rcases less with earlier | ⟨same, later⟩
  · refine Decimal.append_lt_append _ _ _ _ ?_ (Decimal.fixed_lt_fixed width first second earlier inside)
    rw [Decimal.length_fixed, Decimal.length_fixed]
  · subst same
    exact Decimal.append_lt_append_left _ _ _ (List.cons_lt_cons_iff.mpr (Or.inr ⟨rfl, later⟩))

theorem month_day_lt (first second : Nat) (same : year first = year second) (less : dayOfYear first < dayOfYear second) :
    month first < month second ∨ month first = month second ∧ dayOfMonth first < dayOfMonth second := by
  have placed := placed_lt (monthStart (isLeap (year first))) (dayOfYear first) (dayOfYear second) (month first)
    (month second) less ((le_month_iff first (month first)).mp (Nat.le_refl _))
    (fun begun => (le_month_iff second (month first)).mpr (same ▸ begun))
  have firstDay : dayOfMonth first = dayOfYear first - monthStart (isLeap (year first)) (month first) := rfl
  have secondDay : dayOfMonth second = dayOfYear second - monthStart (isLeap (year first)) (month second) := by
    rw [same]
    rfl
  rw [firstDay, secondDay]
  exact placed

theorem date_text_lt (first second : Nat) (less : first < second) (narrow : year second < 10000) :
    dateText (Decimal.fixed 4) first < dateText (Decimal.fixed 4) second := by
  have years := placed_lt daysBeforeYear first second (year first) (year second) less
    ((le_year_iff (year first) first).mp (Nat.le_refl _)) (fun begun => (le_year_iff (year first) second).mpr begun)
  refine field_lt 4 _ _ '-' _ _ narrow (years.imp_right fun later => ⟨later.1, ?_⟩)
  have months := month_day_lt first second later.1 (by rw [dayOfYear, dayOfYear, offset, offset]; exact later.2)
  have monthBound := month_lt second
  have dayBound := day_of_month_lt second
  refine field_lt 2 _ _ '-' _ _ (by omega) (months.imp (fun earlier => by omega) fun same => ⟨by omega, ?_⟩)
  exact Decimal.fixed_lt_fixed 2 _ _ (by omega) (by omega)

theorem date_text_inj (first second : Nat) (narrow : year first < 10000 ∧ year second < 10000)
    (same : dateText (Decimal.fixed 4) first = dateText (Decimal.fixed 4) second) : first = second := by
  by_contra different
  rcases Nat.lt_or_gt_of_ne different with earlier | later
  · have less := date_text_lt first second earlier narrow.2
    rw [same] at less
    exact List.lt_irrefl _ less
  · have less := date_text_lt second first later narrow.1
    rw [same] at less
    exact List.lt_irrefl _ less

theorem sixty_lt (first second : Nat) (less : first < second) :
    first / 60 < second / 60 ∨ first / 60 = second / 60 ∧ first % 60 < second % 60 := by omega

theorem clock_text_lt (first second : Nat) (less : first < second) (inside : second < 86400) :
    clockText first < clockText second := by
  have hour : ∀ seconds, seconds / 3600 = seconds / 60 / 60 := fun seconds => (Nat.div_div_eq_div_mul seconds 60 60).symm
  rw [clockText, clockText, hour, hour]
  rcases sixty_lt first second less with earlier | ⟨same, later⟩
  · refine field_lt 2 _ _ ':' _ _ (by omega) ((sixty_lt _ _ earlier).imp_right fun minutes => ⟨minutes.1, ?_⟩)
    exact field_lt 2 _ _ ':' _ _ (by omega) (Or.inl minutes.2)
  · rw [same]
    refine field_lt 2 _ _ ':' _ _ (by omega) (Or.inr ⟨rfl, ?_⟩)
    exact field_lt 2 _ _ ':' _ _ (by omega) (Or.inr ⟨rfl, Decimal.fixed_lt_fixed 2 _ _ later (by omega)⟩)

theorem year_start_le_iff (first : Nat) (positive : 0 < first) (time : Int) :
    yearStart first ≤ time ↔ first ≤ year (dayOf time) := by
  have days : 365 ≤ daysBeforeYear first := by
    have mono : daysBeforeYear 1 ≤ daysBeforeYear first := days_before_year_mono positive
    have year : daysBeforeYear 1 = 366 := rfl
    omega
  rw [le_year_iff, yearStart, dayOf]
  omega

theorem text_lt (first second : Int) (begun : yearStart 1 ≤ first) (narrow : second < yearStart 10000)
    (less : first < second) : text (Decimal.fixed 4) first < text (Decimal.fixed 4) second := by
  have inside : year (dayOf second) < 10000 := by
    have late := (year_start_le_iff 10000 (by decide) second).not
    omega
  have start : yearStart 1 = -62135596800 := by decide
  rw [start] at begun
  have days : dayOf first < dayOf second ∨ dayOf first = dayOf second ∧ secondOf first < secondOf second := by
    rw [dayOf, dayOf, secondOf, secondOf, epoch]
    omega
  have lengths : ∀ time, (dateText (Decimal.fixed 4) time).length = 10 := by
    intro time
    simp [dateText]
  rw [text, text]
  rcases days with earlier | ⟨same, later⟩
  · exact Decimal.append_lt_append _ _ _ _ (by rw [lengths, lengths]) (date_text_lt _ _ earlier inside)
  · rw [same]
    refine Decimal.append_lt_append_left _ _ _ (List.cons_lt_cons_iff.mpr (Or.inr ⟨rfl, clock_text_lt _ _ later ?_⟩))
    rw [secondOf]
    omega

-- From the year 1000 to the year 9999 the text has the same length at every time.
def FourDigits (time : Int) : Prop := yearStart 1000 ≤ time ∧ time < yearStart 10000

instance (time : Int) : Decidable (FourDigits time) := inferInstanceAs (Decidable (_ ∧ _))

theorem text_lt_iff (first second : Int) (firstYear : FourDigits first) (secondYear : FourDigits second) :
    text (Decimal.fixed 4) first < text (Decimal.fixed 4) second ↔ first < second := by
  have early : yearStart 1 ≤ yearStart 1000 := by decide
  refine ⟨fun less => ?_, text_lt first second (Int.le_trans early firstYear.1) secondYear.2⟩
  by_contra late
  rcases Int.lt_or_eq_of_le (Int.not_lt.mp late) with after | same
  · exact List.lt_asymm less (text_lt second first (Int.le_trans early secondYear.1) firstYear.2 after)
  · rw [same] at less
    exact List.lt_irrefl _ less

theorem date_text_unpadded (days : Nat) (wide : 1000 ≤ year days) (narrow : year days < 10000) :
    dateText (Nat.toDigits 10) days = dateText (Decimal.fixed 4) days := by
  rw [dateText, dateText, Decimal.fixed_printed 3 _ wide narrow]

theorem text_unpadded (time : Int) (years : FourDigits time) : text (Nat.toDigits 10) time = text (Decimal.fixed 4) time := by
  have late := (year_start_le_iff 1000 (by decide) time).mp years.1
  have early : year (dayOf time) < 10000 := by
    have past := (year_start_le_iff 10000 (by decide) time).not
    have before := years.2
    omega
  rw [text, text, date_text_unpadded _ late early]

end Calendar
