import EventDetection.Calendar
import Mathlib.Algebra.BigOperators.Intervals
import Mathlib.Algebra.Order.BigOperators.Group.Finset
import Mathlib.Data.Int.Init
import Mathlib.Tactic.IntervalCases

/-!
# The Gregorian calendar

A date has a number: the days from the first of January 1970 to it, which is the sum of the lengths of
the years and the months in between, negative before 1970.  A date is made of its number in eras of
400 years and years that start in March; here it is shown that this is the date of that number.

* `IsLeap`, `monthDays`, `yearDays`: the lengths of months and years.
* `yearStart`, `Date.dayNumber`: the number of a day, as a sum of lengths.
* `Date.Valid.eq_of_dayNumber`: **a date is determined by its number.**
* `yearStart_eq`: the closed form of the sum over the years.
* `exists_era_day`: centuries, leap periods and years within an era.
* `Date.valid_ofDays`, `Date.dayNumber_ofDays`: **every number is that of the date made of it.**
-/

namespace EventDetection.Calendar

open Finset (Ico range)

/-! ### Lengths of months and years -/

/-- A leap year: every fourth one, of the full centuries only every fourth one. -/
def IsLeap (y : Int) : Prop := 4 ∣ y ∧ (100 ∣ y → 400 ∣ y)

instance (y : Int) : Decidable (IsLeap y) := inferInstanceAs (Decidable (_ ∧ _))

def monthDays (y : Int) (month : Nat) : Nat :=
  if month = 2 then if IsLeap y then 29 else 28
  else if month = 4 ∨ month = 6 ∨ month = 9 ∨ month = 11 then 30
  else 31

/-- The days of a year before one of its months. -/
def monthStart (y : Int) (month : Nat) : Nat := ∑ m ∈ Ico 1 month, monthDays y m

def yearDays (y : Int) : Nat := monthStart y 13

/-- The days from the start of 1970 to the start of a year. -/
def yearStart (y : Int) : Int :=
  ∑ n ∈ range (y - 1970).toNat, (yearDays (1970 + n) : Int) -
    ∑ n ∈ range (1970 - y).toNat, (yearDays (y + n) : Int)

namespace Date

/-- A date that the calendar has. -/
structure Valid (d : Date) : Prop where
  one_le_month : 1 ≤ d.month
  month_le : d.month ≤ 12
  one_le_day : 1 ≤ d.day
  day_le : d.day ≤ monthDays d.year d.month

/-- The days from the first of January 1970 to a date. -/
def dayNumber (d : Date) : Int := yearStart d.year + monthStart d.year d.month + (d.day - 1)

end Date

theorem monthStart_succ (y : Int) {m : Nat} (hm : 1 ≤ m) :
    monthStart y (m + 1) = monthStart y m + monthDays y m :=
  Finset.sum_Ico_succ_top hm _

theorem monthStart_mono (y : Int) : Monotone (monthStart y) := by
  intro m n hmn
  exact Finset.sum_le_sum_of_subset (Finset.Ico_subset_Ico_right hmn)

theorem monthStart_of_le_two {y : Int} {m : Nat} (h1 : 1 ≤ m) (h2 : m ≤ 2) :
    monthStart y m = 31 * (m - 1) := by
  interval_cases m <;> rfl

/-- From March on, the months before one have as many days as in a year that starts in March, and
what January and February have. -/
theorem monthStart_of_three_le {y : Int} {m : Nat} (h3 : 3 ≤ m) (h13 : m ≤ 13) :
    monthStart y m = 59 + (if IsLeap y then 1 else 0) + (153 * (m - 3) + 2) / 5 := by
  have hmarch : monthStart y 3 = 59 + if IsLeap y then 1 else 0 := by
    rw [monthStart_succ y (by decide), monthStart_succ y (by decide)]
    by_cases hy : IsLeap y <;> simp [monthStart, monthDays, hy]
  have hlater (n : Nat) (hn : 3 ≤ n) :
      monthStart y (n + 1) =
        monthStart y n + if n = 4 ∨ n = 6 ∨ n = 9 ∨ n = 11 then 30 else 31 := by
    rw [monthStart_succ y (by omega), monthDays, if_neg (by omega)]
  induction m, h3 using Nat.le_induction with
  | base => exact hmarch
  | succ n hn ih =>
    have hn12 : n ≤ 12 := by omega
    rw [hlater n hn, ih (by omega)]
    interval_cases n <;> simp

theorem yearDays_eq (y : Int) : yearDays y = 365 + if IsLeap y then 1 else 0 := by
  rw [yearDays, monthStart_of_three_le (by decide) (by decide)]
  omega

/-! ### The start of a year -/

theorem yearStart_add_one (y : Int) : yearStart (y + 1) = yearStart y + yearDays y := by
  by_cases hy : 1970 ≤ y
  · have hafter : (y + 1 - 1970).toNat = (y - 1970).toNat + 1 := by omega
    have hbefore : (1970 - y).toNat = 0 ∧ (1970 - (y + 1)).toNat = 0 := by omega
    have hlast : 1970 + ((y - 1970).toNat : Int) = y := by omega
    rw [yearStart, yearStart, hafter, hbefore.1, hbefore.2, Finset.sum_range_succ, hlast,
      Finset.sum_range_zero, Finset.sum_range_zero]
    omega
  · have hafter : (y - 1970).toNat = 0 ∧ (y + 1 - 1970).toNat = 0 := by omega
    have hbefore : (1970 - y).toNat = (1970 - (y + 1)).toNat + 1 := by omega
    have hyear (n : Nat) : y + ((n + 1 : Nat) : Int) = y + 1 + n := by omega
    rw [yearStart, yearStart, hafter.1, hafter.2, hbefore, Finset.sum_range_succ',
      Finset.sum_range_zero]
    simp only [hyear, Nat.cast_zero, add_zero]
    omega

theorem yearStart_mono {y z : Int} (h : y ≤ z) : yearStart y ≤ yearStart z := by
  induction z, h using Int.leInduction with
  | base => exact le_rfl
  | succ z _ ih =>
    rw [yearStart_add_one]
    omega

/-- The days from the first of March of the year 0 to that of a year. -/
def marchStart (y : Int) : Int := 365 * y + y / 4 - y / 100 + y / 400

theorem marchStart_eq_add (y : Int) : marchStart y = marchStart (y - 1) + yearDays y := by
  rw [yearDays_eq, marchStart, marchStart]
  by_cases hy : IsLeap y
  · rw [if_pos hy]
    rw [IsLeap] at hy
    omega
  · rw [if_neg hy]
    rw [IsLeap] at hy
    omega

/-- **The closed form of the start of a year.** -/
theorem yearStart_eq (y : Int) : yearStart y = marchStart (y - 1) + 306 - epochDays := by
  have hstep (z : Int) : yearStart (z + 1) - marchStart z = yearStart z - marchStart (z - 1) := by
    rw [yearStart_add_one, marchStart_eq_add z]
    omega
  induction y using Int.inductionOn' (b := 1970) with
  | zero => rfl
  | succ k _ ih =>
    have := hstep k
    rw [Int.add_sub_cancel]
    omega
  | pred k _ ih =>
    have := hstep (k - 1)
    rw [Int.sub_add_cancel] at this
    omega

/-! ### Dates by their numbers -/

namespace Date.Valid

variable {d e : Date}

theorem yearStart_le (h : d.Valid) : yearStart d.year ≤ d.dayNumber := by
  have := h.one_le_day
  rw [dayNumber]
  omega

theorem lt_monthStart (h : d.Valid) :
    monthStart d.year d.month + (d.day - 1) < monthStart d.year (d.month + 1) := by
  have h1 := h.one_le_day
  have h2 := h.day_le
  rw [monthStart_succ d.year h.one_le_month]
  omega

theorem lt_yearStart (h : d.Valid) : d.dayNumber < yearStart (d.year + 1) := by
  have hmonth := h.lt_monthStart
  have hyear : monthStart d.year (d.month + 1) ≤ yearDays d.year :=
    monthStart_mono d.year (Nat.succ_le_succ h.month_le)
  have hday := h.one_le_day
  rw [dayNumber, yearStart_add_one]
  omega

theorem year_le (hd : d.Valid) (he : e.Valid) (h : d.dayNumber ≤ e.dayNumber) :
    d.year ≤ e.year := by
  by_contra hlt
  have hstart : yearStart (e.year + 1) ≤ yearStart d.year :=
    yearStart_mono (by omega)
  have h1 := he.lt_yearStart
  have h2 := hd.yearStart_le
  omega

theorem month_le_of_le (hd : d.Valid) (he : e.Valid) (hyear : d.year = e.year)
    (h : d.dayNumber ≤ e.dayNumber) : d.month ≤ e.month := by
  by_contra hlt
  have hstart : monthStart d.year (e.month + 1) ≤ monthStart d.year d.month :=
    monthStart_mono d.year (by omega)
  have h1 := he.lt_monthStart
  have h2 := hd.one_le_day
  have h3 := he.one_le_day
  rw [dayNumber, dayNumber, ← hyear] at h
  rw [← hyear] at h1
  omega

/-- **A date is determined by its number.** -/
theorem eq_of_dayNumber (hd : d.Valid) (he : e.Valid) (h : d.dayNumber = e.dayNumber) : d = e := by
  have hyear : d.year = e.year :=
    Int.le_antisymm (hd.year_le he h.le) (he.year_le hd h.ge)
  have hmonth : d.month = e.month :=
    Nat.le_antisymm (hd.month_le_of_le he hyear h.le) (he.month_le_of_le hd hyear.symm h.ge)
  have hday : d.day = e.day := by
    have h1 := hd.one_le_day
    have h2 := he.one_le_day
    rw [dayNumber, dayNumber, hyear, hmonth] at h
    omega
  cases d
  cases e
  simp_all

end Date.Valid

/-! ### Eras -/

/-- A day of an era lies in one of four centuries, in one of its periods of four years, and in one of
the years of that.  Only a year that ends with a leap day has 366 days: the last one of a period,
unless that is the last one of a century, and that is not the last century. -/
theorem exists_era_day {n : Nat} (hn : n < 146097) :
    ∃ c q y t, n = 36524 * c + 1461 * q + 365 * y + t ∧ c ≤ 3 ∧ q ≤ 24 ∧ y ≤ 3 ∧ t ≤ 365 ∧
      (t = 365 → y = 3 ∧ (q = 24 → c = 3)) := by
  let c := min 3 (n / 36524)
  let q := (n - 36524 * c) / 1461
  let y := min 3 ((n - 36524 * c - 1461 * q) / 365)
  have hc : c = min 3 (n / 36524) := rfl
  have hq : q = (n - 36524 * c) / 1461 := rfl
  have hy : y = min 3 ((n - 36524 * c - 1461 * q) / 365) := rfl
  refine ⟨c, q, y, n - 36524 * c - 1461 * q - 365 * y, ?_⟩
  clear_value c q y
  have hrest : n - 36524 * c ≤ 36524 := by omega
  have hperiod : n - 36524 * c - 1461 * q ≤ 1460 := by omega
  omega

/-- The year and the day within it are read off a day of an era.  In the first of the divisions a
year of a period is as long as the others, so that a day is taken away for each leap day before. -/
theorem yearOfEra_eq {c q y t : Nat} (hc : c ≤ 3) (hq : q ≤ 24) (hy : y ≤ 3) (ht : t ≤ 365)
    (hleap : t = 365 → y = 3 ∧ (q = 24 → c = 3)) :
    let n := 36524 * c + 1461 * q + 365 * y + t
    (n - n / 1460 + n / 36524 - n / 146096) / 365 = 100 * c + 4 * q + y := by
  intro n
  have hn : n = 36524 * c + 1461 * q + 365 * y + t := rfl
  clear_value n
  have hcenturies : n / 36524 = c + n / 146096 := by
    by_cases hlast : n = 146096
    · omega
    · have hcentury : 1461 * q + 365 * y + t < 36524 := by omega
      omega
  by_cases hover : 1460 ≤ 24 * c + q + 365 * y + t
  · have hquarters : n / 1460 = 25 * c + q + 1 := by omega
    omega
  · have hquarters : n / 1460 = 25 * c + q := by omega
    omega

/-! ### The date of a number -/

namespace Date

/-- The date that lies `t` days after the first of March of the year `y`. -/
def ofMarch (y : Int) (t : Nat) : Date :=
  let m := (5 * t + 2) / 153
  let month := if m < 10 then m + 3 else m - 9
  ⟨y + (if month ≤ 2 then 1 else 0), month, t - (153 * m + 2) / 5 + 1⟩

/-- A date is made of its number by the years that start in March. -/
theorem exists_ofMarch (days : Int) :
    ∃ (y : Int) (t : Nat), days + epochDays = marchStart y + t ∧ t < yearDays (y + 1) ∧
      ofDays days = ofMarch y t := by
  have hpos : 0 ≤ (days + epochDays) % eraDays := Int.emod_nonneg _ (by decide)
  have hlt : (days + epochDays) % eraDays < eraDays := Int.emod_lt_of_pos _ (by decide)
  have hdays := Int.mul_ediv_add_emod (days + epochDays) eraDays
  have hofDays : ofDays days =
      let n := ((days + epochDays) % eraDays).toNat
      let y := (n - n / 1460 + n / 36524 - n / 146096) / 365
      ofMarch (y + (days + epochDays) / eraDays * 400) (n - (365 * y + y / 4 - y / 100)) := rfl
  generalize (days + epochDays) / eraDays = era at hdays hofDays
  rw [eraDays] at hpos hlt hdays
  obtain ⟨c, q, y, t, hn, hc, hq, hy, ht, hleap⟩ :=
    exists_era_day (n := ((days + epochDays) % 146097).toNat) (by omega)
  dsimp only at hofDays
  rw [eraDays, hn, yearOfEra_eq hc hq hy ht hleap] at hofDays
  have hday : 36524 * c + 1461 * q + 365 * y + t -
      (365 * (100 * c + 4 * q + y) + (100 * c + 4 * q + y) / 4 - (100 * c + 4 * q + y) / 100) =
        t := by
    omega
  refine ⟨(100 * c + 4 * q + y : Nat) + era * 400, t, ?_, ?_, ?_⟩
  · have hfour : ((100 * c + 4 * q + y : Nat) + era * 400) / 4 = 25 * c + q + 100 * era := by omega
    have hcentury : ((100 * c + 4 * q + y : Nat) + era * 400) / 100 = c + 4 * era := by omega
    have hera : ((100 * c + 4 * q + y : Nat) + era * 400) / 400 = era := by omega
    rw [marchStart, hfour, hcentury, hera]
    omega
  · rw [yearDays_eq]
    by_cases hlast : t = 365
    · obtain ⟨hy3, hcentury⟩ := hleap hlast
      rw [if_pos (by rw [IsLeap]; omega)]
      omega
    · omega
  · rw [hofDays]
    rw [hday]

/-- From March to December, the year of a day is the one that it is counted in. -/
theorem valid_ofMarch_of_lt (y : Int) {t : Nat} (hten : (5 * t + 2) / 153 < 10) :
    (ofMarch y t).Valid ∧ (ofMarch y t).dayNumber + epochDays = marchStart y + t := by
  generalize hm : (5 * t + 2) / 153 = m at hten
  have hdate : ofMarch y t = ⟨y, m + 3, t - (153 * m + 2) / 5 + 1⟩ := by
    simp only [ofMarch, hm, if_pos hten]
    rw [if_neg (by omega), Int.add_zero]
  have hstart : monthStart y (m + 3) = 59 + (if IsLeap y then 1 else 0) + (153 * m + 2) / 5 :=
    monthStart_of_three_le (by omega) (by omega)
  have hend : monthStart y (m + 3 + 1) =
      59 + (if IsLeap y then 1 else 0) + (153 * (m + 1) + 2) / 5 :=
    monthStart_of_three_le (by omega) (by omega)
  rw [monthStart_succ y (by omega), hstart] at hend
  have hbefore := marchStart_eq_add y
  rw [yearDays_eq] at hbefore
  rw [hdate]
  refine ⟨⟨by simp, ?_, by simp, ?_⟩, ?_⟩
  · show m + 3 ≤ 12
    omega
  · show t - (153 * m + 2) / 5 + 1 ≤ monthDays y (m + 3)
    omega
  · show yearStart y + monthStart y (m + 3) + ((t - (153 * m + 2) / 5 + 1 : Nat) - 1) +
      epochDays = marchStart y + t
    rw [yearStart_eq, hstart]
    omega

/-- January and February are those of the next year, which may end with a leap day. -/
theorem valid_ofMarch_of_le {y : Int} {t : Nat} (hten : 10 ≤ (5 * t + 2) / 153)
    (ht : t < yearDays (y + 1)) :
    (ofMarch y t).Valid ∧ (ofMarch y t).dayNumber + epochDays = marchStart y + t := by
  rw [yearDays_eq] at ht
  have hmonth : (5 * t + 2) / 153 ≤ 11 := by
    by_cases hy : IsLeap (y + 1) <;> simp only [hy, if_true, if_false] at ht <;> omega
  generalize hm : (5 * t + 2) / 153 = m at hten hmonth
  have hdate : ofMarch y t = ⟨y + 1, m - 9, t - (153 * m + 2) / 5 + 1⟩ := by
    simp only [ofMarch, hm, if_neg (Nat.not_lt.2 hten)]
    rw [if_pos (by omega)]
  have hstart := monthStart_of_le_two (y := y + 1) (m := m - 9) (by omega) (by omega)
  rw [hdate]
  refine ⟨⟨?_, ?_, by simp, ?_⟩, ?_⟩
  · show 1 ≤ m - 9
    omega
  · show m - 9 ≤ 12
    omega
  · show t - (153 * m + 2) / 5 + 1 ≤ monthDays (y + 1) (m - 9)
    obtain rfl | rfl : m = 10 ∨ m = 11 := by omega
    · show t - 306 + 1 ≤ 31
      omega
    · show t - 337 + 1 ≤ if IsLeap (y + 1) then 29 else 28
      by_cases hy : IsLeap (y + 1) <;> simp only [hy, if_true, if_false] at ht ⊢ <;> omega
  · show yearStart (y + 1) + monthStart (y + 1) (m - 9) +
      ((t - (153 * m + 2) / 5 + 1 : Nat) - 1) + epochDays = marchStart y + t
    rw [yearStart_eq, hstart, Int.add_sub_cancel]
    omega

/-- A day that is counted from the first of March is in the month that it falls into, and has the
number that it should have. -/
theorem valid_ofMarch {y : Int} {t : Nat} (ht : t < yearDays (y + 1)) :
    (ofMarch y t).Valid ∧ (ofMarch y t).dayNumber + epochDays = marchStart y + t := by
  by_cases hten : (5 * t + 2) / 153 < 10
  · exact valid_ofMarch_of_lt y hten
  · exact valid_ofMarch_of_le (Nat.not_lt.1 hten) ht

/-- **Every number is that of the date made of it**, which is one that the calendar has. -/
theorem valid_ofDays (days : Int) : (ofDays days).Valid := by
  obtain ⟨y, t, -, ht, hdate⟩ := exists_ofMarch days
  rw [hdate]
  exact (valid_ofMarch ht).1

theorem dayNumber_ofDays (days : Int) : (ofDays days).dayNumber = days := by
  obtain ⟨y, t, hdays, ht, hdate⟩ := exists_ofMarch days
  have hnumber := (valid_ofMarch ht).2
  rw [hdate]
  omega

end Date

end EventDetection.Calendar
