import EventDetection.Proofs.Calendar.Gregorian

/-!
# Moments and their texts

A moment has a number of seconds, from the start of 1970 to it.  The moment that is shown for a number
of seconds is the only one that has it, and it is shown if its year is one of a range.

* `Moment.Valid`, `Moment.seconds`: the moments that there are, and their seconds.
* `Moment.Valid.eq_of_seconds`: **a moment is determined by its seconds.**
* `Moment.inRange_iff`: the seconds that can be shown are those of a range of years.
* `Moment.ofSeconds?_eq_some_iff`: **the moment that is shown for seconds is the one that has them.**
* `length_padded`, `ofDigitChars_padded`: a number of some places, and how it is read.
* `Moment.chars_inj`: **a moment is determined by its text.**
-/

namespace EventDetection.Calendar

namespace Moment

/-! ### Seconds -/

/-- A moment of a date that the calendar has. -/
structure Valid (m : Moment) : Prop where
  date : m.date.Valid
  hour_lt : m.hour < 24
  minute_lt : m.minute < 60
  second_lt : m.second < 60

/-- The seconds from the start of 1970 to a moment. -/
def seconds (m : Moment) : Int :=
  86400 * m.date.dayNumber + (3600 * m.hour + 60 * m.minute + m.second)

/-- The years of which moments are shown. -/
def InRange (m : Moment) : Prop := -262143 ≤ m.date.year ∧ m.date.year ≤ 262142

variable {m n : Moment} {s : Int}

/-- **A moment is determined by its seconds.** -/
theorem Valid.eq_of_seconds (hm : m.Valid) (hn : n.Valid) (h : m.seconds = n.seconds) : m = n := by
  obtain ⟨hdate, hhour, hminute, hsecond⟩ := hm
  obtain ⟨hdate', hhour', hminute', hsecond'⟩ := hn
  rw [seconds, seconds] at h
  have hday : m.date.dayNumber = n.date.dayNumber := by omega
  have heq : m.date = n.date := hdate.eq_of_dayNumber hdate' hday
  have htime : m.hour = n.hour ∧ m.minute = n.minute ∧ m.second = n.second := by omega
  cases m
  cases n
  simp_all

theorem yearStart_first : 86400 * yearStart (-262143) = firstSecond := by
  rw [yearStart_eq]
  rfl

theorem yearStart_last : 86400 * yearStart 262143 = lastSecond + 1 := by
  rw [yearStart_eq]
  rfl

/-- The seconds that can be shown are those of the years of the range, to the last second of each. -/
theorem inRange_iff (hm : m.Valid) :
    m.InRange ↔ firstSecond ≤ m.seconds ∧ m.seconds ≤ lastSecond := by
  obtain ⟨hdate, hhour, hminute, hsecond⟩ := hm
  have hlow := hdate.yearStart_le
  have hhigh := hdate.lt_yearStart
  have hfirst := yearStart_first
  have hlast := yearStart_last
  rw [InRange, seconds]
  constructor
  · rintro ⟨h1, h2⟩
    have hmono1 := yearStart_mono h1
    have hmono2 := yearStart_mono (show m.date.year + 1 ≤ 262143 by omega)
    omega
  · rintro ⟨h1, h2⟩
    refine ⟨?_, ?_⟩
    · by_contra hlt
      have hmono := yearStart_mono (show m.date.year + 1 ≤ -262143 by omega)
      omega
    · by_contra hlt
      have hmono := yearStart_mono (show 262143 ≤ m.date.year by omega)
      omega

/-- The moment that is shown for seconds that can be shown. -/
theorem exists_ofSeconds? (h : firstSecond ≤ s ∧ s ≤ lastSecond) :
    ∃ m, ofSeconds? s = some m ∧ m.Valid ∧ m.seconds = s := by
  have hrest : 0 ≤ s % 86400 ∧ s % 86400 < 86400 := by omega
  refine ⟨_, if_pos h, ⟨Date.valid_ofDays _, ?_, ?_, ?_⟩, ?_⟩
  · show (s % 86400).toNat / 3600 < 24
    omega
  · exact Nat.mod_lt _ (by decide)
  · exact Nat.mod_lt _ (by decide)
  · show 86400 * (Date.ofDays (s / 86400)).dayNumber +
      (3600 * ((s % 86400).toNat / 3600 : Nat) + 60 * ((s % 86400).toNat / 60 % 60 : Nat) +
        ((s % 86400).toNat % 60 : Nat)) = s
    rw [Date.dayNumber_ofDays]
    omega

/-- **The moment that is shown for seconds is the one that has them**, if its year is in the range. -/
theorem ofSeconds?_eq_some_iff : ofSeconds? s = some m ↔ m.Valid ∧ m.InRange ∧ m.seconds = s := by
  constructor
  · intro h
    by_cases hs : firstSecond ≤ s ∧ s ≤ lastSecond
    · obtain ⟨n, hn, hvalid, hseconds⟩ := exists_ofSeconds? hs
      obtain rfl := Option.some.inj (hn.symm.trans h)
      exact ⟨hvalid, (inRange_iff hvalid).2 (hseconds ▸ hs), hseconds⟩
    · rw [ofSeconds?, if_neg hs] at h
      exact nomatch h
  · rintro ⟨hvalid, hrange, rfl⟩
    obtain ⟨n, hn, hvalid', hseconds⟩ := exists_ofSeconds? ((inRange_iff hvalid).1 hrange)
    rw [hn, hvalid'.eq_of_seconds hvalid hseconds]

theorem ofSeconds?_eq_none_iff : ofSeconds? s = none ↔ ¬ (firstSecond ≤ s ∧ s ≤ lastSecond) := by
  rw [ofSeconds?]
  split <;> simp_all

end Moment

/-! ### Numbers of some places -/

theorem length_padded {width n : Nat} (hwidth : 0 < width) (h : n < 10 ^ width) :
    (padded width n).length = width := by
  have hdigits := (Nat.length_toDigits_le_iff (by decide) hwidth).2 h
  rw [padded, List.length_append, List.length_replicate]
  omega

/-- A number is read back from its places. -/
theorem ofDigitChars_padded (width n : Nat) : Nat.ofDigitChars 10 (padded width n) 0 = n := by
  rw [padded, Nat.ofDigitChars_append, Nat.ofDigitChars_replicate_zero, Nat.mul_zero]
  exact Nat.ofDigitChars_ten_toDigits

theorem padded_inj {width a b : Nat} (h : padded width a = padded width b) : a = b := by
  rw [← ofDigitChars_padded width a, h, ofDigitChars_padded]

theorem isDigit_of_mem_padded {width n : Nat} {c : Char} (h : c ∈ padded width n) :
    c.isDigit = true := by
  rcases List.mem_append.1 h with h | h
  · rw [List.eq_of_mem_replicate h]
    rfl
  · exact Nat.isDigit_of_mem_toDigits (by decide) (by decide) h

/-! ### Texts -/

theorem padded_ne_cons {width n : Nat} {sign : Char} {cs : List Char} (h : sign.isDigit = false) :
    padded width n ≠ sign :: cs := by
  intro heq
  have hdigit := isDigit_of_mem_padded (heq ▸ List.mem_cons_self)
  rw [h] at hdigit
  exact Bool.false_ne_true hdigit

/-- A year is determined by its text: by the sign, if there is one, and the number behind it. -/
theorem yearText_inj {y z : Int} (h : yearText y = yearText z) : y = z := by
  have hsign (x : Int) : (if x < 0 then '-' else '+').isDigit = false := by split <;> rfl
  rw [yearText, yearText] at h
  by_cases hy : 0 ≤ y ∧ y ≤ 9999
  · rw [if_pos hy] at h
    by_cases hz : 0 ≤ z ∧ z ≤ 9999
    · rw [if_pos hz] at h
      have hnumbers := padded_inj h
      omega
    · rw [if_neg hz] at h
      exact absurd h (padded_ne_cons (hsign z))
  · rw [if_neg hy] at h
    by_cases hz : 0 ≤ z ∧ z ≤ 9999
    · rw [if_pos hz] at h
      exact absurd h.symm (padded_ne_cons (hsign y))
    · rw [if_neg hz] at h
      obtain ⟨hsigns, htexts⟩ := List.cons.inj h
      have hnumbers := padded_inj htexts
      by_cases hy0 : y < 0 <;> by_cases hz0 : z < 0 <;> simp [hy0, hz0] at hsigns <;> omega

/-- What stands in front of two places, and what these are. -/
theorem append_padded_inj {as bs : List Char} {c : Char} {a b : Nat} (ha : a < 100) (hb : b < 100)
    (h : as ++ c :: padded 2 a = bs ++ c :: padded 2 b) : as = bs ∧ a = b := by
  have hlength : (c :: padded 2 a).length = (c :: padded 2 b).length := by
    rw [List.length_cons, List.length_cons, length_padded (by decide) ha,
      length_padded (by decide) hb]
  obtain ⟨hfront, hback⟩ := List.append_inj' h hlength
  exact ⟨hfront, padded_inj (List.cons.inj hback).2⟩

namespace Date.Valid

theorem day_lt {d : Date} (h : d.Valid) : d.day < 100 := by
  have hday := h.day_le
  rw [monthDays] at hday
  split_ifs at hday <;> omega

end Date.Valid

namespace Moment

/-- **A moment is determined by its text**, read from the end on. -/
theorem chars_inj {m n : Moment} (hm : m.Valid) (hn : n.Valid) (h : m.chars = n.chars) : m = n := by
  obtain ⟨hdate, hhour, hminute, hsecond⟩ := hm
  obtain ⟨hdate', hhour', hminute', hsecond'⟩ := hn
  have hmonth := hdate.month_le
  have hmonth' := hdate'.month_le
  rw [chars, chars] at h
  have h := List.append_cancel_right h
  obtain ⟨h, hseconds⟩ := append_padded_inj (by omega) (by omega) h
  obtain ⟨h, hminutes⟩ := append_padded_inj (by omega) (by omega) h
  obtain ⟨h, hhours⟩ := append_padded_inj (by omega) (by omega) h
  obtain ⟨h, hdays⟩ := append_padded_inj hdate.day_lt hdate'.day_lt h
  obtain ⟨h, hmonths⟩ := append_padded_inj (by omega) (by omega) h
  have hyears := yearText_inj h
  obtain ⟨⟨_, _, _⟩, _, _, _⟩ := m
  obtain ⟨⟨_, _, _⟩, _, _, _⟩ := n
  simp_all

end Moment

end EventDetection.Calendar
