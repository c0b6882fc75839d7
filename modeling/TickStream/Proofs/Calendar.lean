import Mathlib.Data.Nat.ModEq
import TickStream.Timestamp
/-
Days of the calendar.  Main statements: dates that exist stand in the order of their day numbers,
which is the order of the numbers they are read as; a day number and the date it means determine
each other; and the day after a date has the next number.
-/
namespace TickStream
namespace Date

/-! ## Years that begin in March -/

def countedYear (d : Date) : Nat := d.year + 400 - (if d.month ≤ 2 then 1 else 0)

def countedMonth (d : Date) : Nat := if d.month ≤ 2 then d.month + 9 else d.month - 3

def yearStart (year : Nat) : Nat := 365 * year + year / 4 - year / 100 + year / 400

/-- The days of a counted year before a counted month. -/
def monthStart (month : Nat) : Nat := (153 * month + 2) / 5

theorem dayNumber_eq (d : Date) :
    d.dayNumber = yearStart d.countedYear + monthStart d.countedMonth + d.day - 1 := rfl

theorem isLeap_iff (year : Nat) :
    isLeap year = true ↔ year % 4 = 0 ∧ (year % 100 ≠ 0 ∨ year % 400 = 0) := by
  simp [isLeap]

theorem isLeap_add_cycle (year : Nat) : isLeap (year + 400) = isLeap year := by
  have h4 : (year + 400) % 4 = year % 4 := by omega
  have h100 : (year + 400) % 100 = year % 100 := by omega
  have h400 : (year + 400) % 400 = year % 400 := by omega
  rw [isLeap, isLeap, h4, h100, h400]

/-- A counted year ends with its leap day, if it has one. -/
theorem yearStart_succ (year : Nat) :
    yearStart (year + 1) = yearStart year + 365 + if isLeap (year + 1) then 1 else 0 := by
  have hle : year / 100 ≤ year := Nat.div_le_self year 100
  have h400 : (year + 1) % 400 = 0 → (year + 1) % 100 = 0 := by omega
  have h100 : (year + 1) % 100 = 0 → (year + 1) % 4 = 0 := by omega
  simp only [yearStart, Nat.succ_div, Nat.dvd_iff_mod_eq_zero, isLeap_iff]
  generalize year / 4 = a, year / 100 = b, year / 400 = c at *
  generalize (year + 1) % 4 = i, (year + 1) % 100 = j, (year + 1) % 400 = k at *
  grind

theorem yearStart_mono {a b : Nat} (h : a ≤ b) : yearStart a ≤ yearStart b := by
  refine monotone_nat_of_le_succ (fun year => ?_) h
  rw [yearStart_succ]
  omega

theorem monthStart_mono {a b : Nat} (h : a ≤ b) : monthStart a ≤ monthStart b := by
  simp only [monthStart]
  omega

/-! ## The order of dates -/

variable {a b d : Date}

/-- The months from March to January are as long as the formula makes them. -/
theorem monthStart_succ (hlow : 1 ≤ d.month) (hhigh : d.month ≤ 12) (hfebruary : d.month ≠ 2) :
    monthStart (d.countedMonth + 1) = monthStart d.countedMonth + daysInMonth d.year d.month := by
  obtain ⟨year, month, day⟩ := d
  have hcases : month = 1 ∨ month = 3 ∨ month = 4 ∨ month = 5 ∨ month = 6 ∨ month = 7 ∨
      month = 8 ∨ month = 9 ∨ month = 10 ∨ month = 11 ∨ month = 12 := by
    simp only at hlow hhigh hfebruary
    omega
  rcases hcases with rfl | rfl | rfl | rfl | rfl | rfl | rfl | rfl | rfl | rfl | rfl <;>
    simp [countedMonth, monthStart, daysInMonth]

/-- February, the last counted month, lasts to the end of the counted year. -/
theorem yearStart_after_february (h : d.month = 2) :
    yearStart (d.countedYear + 1) =
      yearStart d.countedYear + monthStart d.countedMonth + daysInMonth d.year d.month := by
  have hyear : d.countedYear + 1 = d.year + 400 := by
    rw [countedYear, h, if_pos (Nat.le_refl 2)]
    omega
  have hmonth : monthStart d.countedMonth = 337 := by
    rw [countedMonth, h]
    rfl
  have hlength : daysInMonth d.year 2 = if isLeap d.year then 29 else 28 := rfl
  rw [yearStart_succ, hyear, isLeap_add_cycle, hmonth, h, hlength]
  split <;> omega

theorem countedMonth_le (h : d.Valid) : d.countedMonth ≤ 11 := by
  obtain ⟨-, hlow, hhigh, -, -⟩ := h
  simp only [countedMonth]
  split <;> omega

/-- A day of a month that is not the last one comes before the next month. -/
theorem day_le_monthStart (h : d.Valid) (hmonth : d.countedMonth < 11) :
    monthStart d.countedMonth + d.day ≤ monthStart (d.countedMonth + 1) := by
  obtain ⟨-, hlow, hhigh, -, hday⟩ := h
  have hfebruary : d.month ≠ 2 := by
    intro hm
    simp [countedMonth, hm] at hmonth
  rw [monthStart_succ hlow hhigh hfebruary]
  omega

theorem dayNumber_lt_yearStart (h : d.Valid) : d.dayNumber < yearStart (d.countedYear + 1) := by
  by_cases hmonth : d.countedMonth < 11
  · have hday := day_le_monthStart h hmonth
    have hnext : monthStart (d.countedMonth + 1) ≤ monthStart 11 := monthStart_mono hmonth
    have hlast : monthStart 11 = 337 := rfl
    rw [dayNumber_eq, yearStart_succ]
    omega
  · obtain ⟨-, hlow, hhigh, hpos, hday⟩ := h
    have hfebruary : d.month = 2 := by
      simp only [countedMonth] at hmonth
      split at hmonth <;> omega
    rw [dayNumber_eq, yearStart_after_february hfebruary]
    omega

/-- Counting from March does not change which of two dates comes first. -/
theorem counted_lt_of_ymd_lt (ha : a.Valid) (hb : b.Valid) (h : a.ymd < b.ymd) :
    a.countedYear < b.countedYear ∨ a.countedYear = b.countedYear ∧
      (a.countedMonth < b.countedMonth ∨ a.countedMonth = b.countedMonth ∧ a.day < b.day) := by
  have h31a := day_le_31 ha
  have h31b := day_le_31 hb
  obtain ⟨-, hlowa, hhigha, hposa, -⟩ := ha
  obtain ⟨-, hlowb, hhighb, hposb, -⟩ := hb
  simp only [ymd] at h
  simp only [countedYear, countedMonth]
  split <;> split <;> omega

/-- Of two dates the one that is read as the smaller number is the earlier one. -/
theorem dayNumber_lt_of_ymd_lt (ha : a.Valid) (hb : b.Valid) (h : a.ymd < b.ymd) :
    a.dayNumber < b.dayNumber := by
  have hposa : 1 ≤ a.day := ha.2.2.2.1
  have hposb : 1 ≤ b.day := hb.2.2.2.1
  rcases counted_lt_of_ymd_lt ha hb h with hyear | ⟨hyear, hmonth | ⟨hmonth, hday⟩⟩
  · have hbefore := dayNumber_lt_yearStart ha
    have hyears : yearStart (a.countedYear + 1) ≤ yearStart b.countedYear := yearStart_mono hyear
    rw [dayNumber_eq b]
    omega
  · have hlast := countedMonth_le hb
    have hbefore := day_le_monthStart ha (by omega)
    have hmonths : monthStart (a.countedMonth + 1) ≤ monthStart b.countedMonth :=
      monthStart_mono hmonth
    rw [dayNumber_eq, dayNumber_eq, hyear]
    omega
  · rw [dayNumber_eq, dayNumber_eq, hyear, hmonth]
    omega

/-- A date that exists is settled by the number it is read as. -/
theorem eq_of_ymd_eq (ha : a.Valid) (hb : b.Valid) (h : a.ymd = b.ymd) : a = b := by
  have hread := ofYmd?_ymd ha
  rw [h, ofYmd?_ymd hb] at hread
  exact (Option.some.inj hread).symm

theorem dayNumber_lt_iff (ha : a.Valid) (hb : b.Valid) :
    a.dayNumber < b.dayNumber ↔ a.ymd < b.ymd := by
  refine ⟨fun h => ?_, dayNumber_lt_of_ymd_lt ha hb⟩
  rcases Nat.lt_trichotomy a.ymd b.ymd with hlt | heq | hgt
  · exact hlt
  · rw [eq_of_ymd_eq ha hb heq] at h
    omega
  · have := dayNumber_lt_of_ymd_lt hb ha hgt
    omega

theorem dayNumber_le_iff (ha : a.Valid) (hb : b.Valid) :
    a.dayNumber ≤ b.dayNumber ↔ a.ymd ≤ b.ymd := by
  have := dayNumber_lt_iff hb ha
  omega

theorem dayNumber_injective (ha : a.Valid) (hb : b.Valid) (h : a.dayNumber = b.dayNumber) :
    a = b := by
  have hlt := dayNumber_lt_iff ha hb
  have hgt := dayNumber_lt_iff hb ha
  exact eq_of_ymd_eq ha hb (by omega)

/-! ## The date of a day number -/

def firstDay : Nat := 146037

/-- The day number of 31 December of the last year. -/
def lastDay : Nat := 95891801

theorem dayNumber_first : dayNumber ⟨0, 1, 1⟩ = firstDay := by decide

theorem dayNumber_last : dayNumber ⟨lastYear, 12, 31⟩ = lastDay := by decide

theorem yearStart_parts {q c f o : Nat} (hc : c ≤ 3) (hf : f ≤ 24) (ho : o ≤ 3) :
    yearStart (400 * q + 100 * c + 4 * f + o) = 146097 * q + 36524 * c + 1461 * f + 365 * o := by
  have h4 : (400 * q + 100 * c + 4 * f + o) / 4 = 100 * q + 25 * c + f := by omega
  have h100 : (400 * q + 100 * c + 4 * f + o) / 100 = 4 * q + c := by omega
  have h400 : (400 * q + 100 * c + 4 * f + o) / 400 = q := by omega
  rw [yearStart, h4, h100, h400]
  omega

/-- The date of a day of a counted year. -/
def ofYearDay (year r : Nat) : Date :=
  let month := (5 * r + 2) / 153
  let day := r - monthStart month + 1
  if month < 10 then ⟨year - 400, month + 3, day⟩ else ⟨year + 1 - 400, month - 9, day⟩

/-- A day number is that of some day of some counted year. -/
theorem ofDayNumber_cases (n : Nat) :
    ∃ year r, n = yearStart year + r ∧ n < yearStart (year + 1) ∧
      ofDayNumber n = ofYearDay year r := by
  obtain ⟨q, hq⟩ : ∃ q, q = n / 146097 := ⟨_, rfl⟩
  obtain ⟨i, hi⟩ : ∃ i, i = n % 146097 := ⟨_, rfl⟩
  obtain ⟨c, hc⟩ : ∃ c, c = min (i / 36524) 3 := ⟨_, rfl⟩
  obtain ⟨j, hj⟩ : ∃ j, j = i - 36524 * c := ⟨_, rfl⟩
  obtain ⟨f, hf⟩ : ∃ f, f = j / 1461 := ⟨_, rfl⟩
  obtain ⟨k, hk⟩ : ∃ k, k = j % 1461 := ⟨_, rfl⟩
  obtain ⟨o, ho⟩ : ∃ o, o = min (k / 365) 3 := ⟨_, rfl⟩
  obtain ⟨r, hr⟩ : ∃ r, r = k - 365 * o := ⟨_, rfl⟩
  have hdate : ofDayNumber n = ofYearDay (400 * q + 100 * c + 4 * f + o) r := by
    subst hr ho hk hf hj hc hi hq
    rfl
  have hc3 : c ≤ 3 := by omega
  have hj' : j ≤ 36524 ∧ (c < 3 → j < 36524) := by omega
  have hf24 : f ≤ 24 := by omega
  have ho3 : o ≤ 3 := by omega
  have hr' : r ≤ 365 ∧ (r = 365 → o = 3 ∧ (f = 24 → c = 3)) := by omega
  have hstart := yearStart_parts (q := q) hc3 hf24 ho3
  refine ⟨400 * q + 100 * c + 4 * f + o, r, by omega, ?_, hdate⟩
  rw [yearStart_succ]
  -- Only a leap year has a day left over.
  have hleap : r = 365 → isLeap (400 * q + 100 * c + 4 * f + o + 1) = true := by
    intro h365
    rw [isLeap_iff]
    omega
  by_cases h365 : r = 365
  · rw [if_pos (hleap h365)]
    omega
  · omega

variable {year r : Nat}

theorem le_365_of_lt (hr : yearStart year + r < yearStart (year + 1)) : r ≤ 365 := by
  rw [yearStart_succ] at hr
  split at hr <;> omega

theorem ofYearDay_parts (hfirst : firstDay ≤ yearStart year + r)
    (hr : yearStart year + r < yearStart (year + 1)) :
    (ofYearDay year r).countedYear = year ∧
      (ofYearDay year r).countedMonth = (5 * r + 2) / 153 ∧
      monthStart ((5 * r + 2) / 153) + (ofYearDay year r).day = r + 1 := by
  have hr' := le_365_of_lt hr
  have h399 : yearStart 399 = 145731 := rfl
  rw [firstDay] at hfirst
  -- The subtractions are exact: the counted year 399 is met from January on, and no earlier one.
  have hlow : 399 ≤ year := by
    by_contra hlt
    have hle : yearStart (year + 1) ≤ yearStart 399 := yearStart_mono (by omega)
    omega
  have hmonth : year = 399 → 10 ≤ (5 * r + 2) / 153 := by
    rintro rfl
    omega
  have hday : monthStart ((5 * r + 2) / 153) ≤ r := by
    rw [monthStart]
    omega
  simp only [ofYearDay, countedYear, countedMonth]
  split
  · simp only
    refine ⟨?_, ?_, ?_⟩
    · rw [if_neg (by omega)]
      omega
    · rw [if_neg (by omega)]
      omega
    · omega
  · simp only
    refine ⟨?_, ?_, ?_⟩
    · rw [if_pos (by omega)]
      omega
    · rw [if_pos (by omega)]
      omega
    · omega

theorem dayNumber_ofYearDay (hfirst : firstDay ≤ yearStart year + r)
    (hr : yearStart year + r < yearStart (year + 1)) :
    (ofYearDay year r).dayNumber = yearStart year + r := by
  obtain ⟨hyear, hmonth, hday⟩ := ofYearDay_parts hfirst hr
  rw [dayNumber_eq, hyear, hmonth]
  omega

theorem year_le_lastYear (hmonth : 1 ≤ d.month) (hday : 1 ≤ d.day) (h : d.dayNumber ≤ lastDay) :
    d.year ≤ lastYear := by
  by_contra hlate
  have hjanuary : yearStart 262542 = 95891496 := rfl
  have hmarch : yearStart 262543 = 95891861 := rfl
  rw [lastYear] at hlate
  rw [dayNumber_eq, lastDay, countedYear, countedMonth] at h
  by_cases hm : d.month ≤ 2
  · rw [if_pos hm, if_pos hm] at h
    have hyear : yearStart 262542 ≤ yearStart (d.year + 400 - 1) := yearStart_mono (by omega)
    have hmonth : monthStart 10 ≤ monthStart (d.month + 9) := monthStart_mono (by omega)
    have hten : monthStart 10 = 306 := rfl
    omega
  · rw [if_neg hm] at h
    have hyear : yearStart 262543 ≤ yearStart (d.year + 400 - 0) := yearStart_mono (by omega)
    omega

theorem valid_ofYearDay (hfirst : firstDay ≤ yearStart year + r)
    (hr : yearStart year + r < yearStart (year + 1)) (hlast : yearStart year + r ≤ lastDay) :
    (ofYearDay year r).Valid := by
  obtain ⟨hyear, hmonth, hday⟩ := ofYearDay_parts hfirst hr
  have hnumber := dayNumber_ofYearDay hfirst hr
  have hr' := le_365_of_lt hr
  have hbounds : 1 ≤ (ofYearDay year r).month ∧ (ofYearDay year r).month ≤ 12 ∧
      1 ≤ (ofYearDay year r).day := by
    simp only [ofYearDay]
    split <;> simp only <;> omega
  generalize ofYearDay year r = d at *
  obtain ⟨hlow, hhigh, hpos⟩ := hbounds
  refine ⟨year_le_lastYear hlow hpos (hnumber ▸ hlast), hlow, hhigh, hpos, ?_⟩
  by_cases hfebruary : d.month = 2
  · have hnext := yearStart_after_february hfebruary
    rw [hyear, hmonth] at hnext
    omega
  · have hnext := monthStart_succ hlow hhigh hfebruary
    have hbefore : r < monthStart ((5 * r + 2) / 153 + 1) := by
      rw [monthStart]
      omega
    rw [hmonth] at hnext
    omega

theorem dayNumber_ofDayNumber {n : Nat} (h : firstDay ≤ n) : (ofDayNumber n).dayNumber = n := by
  obtain ⟨year, r, rfl, hr, hdate⟩ := ofDayNumber_cases n
  rw [hdate, dayNumber_ofYearDay h hr]

theorem valid_ofDayNumber {n : Nat} (hfirst : firstDay ≤ n) (hlast : n ≤ lastDay) :
    (ofDayNumber n).Valid := by
  obtain ⟨year, r, rfl, hr, hdate⟩ := ofDayNumber_cases n
  rw [hdate]
  exact valid_ofYearDay hfirst hr hlast

theorem firstDay_le (h : d.Valid) : firstDay ≤ d.dayNumber := by
  rw [← dayNumber_first, dayNumber_le_iff (by decide) h]
  obtain ⟨-, hlow, -, hpos, -⟩ := h
  simp only [ymd]
  omega

theorem le_lastDay (h : d.Valid) : d.dayNumber ≤ lastDay := by
  rw [← dayNumber_last, dayNumber_le_iff h (by decide)]
  have h31 := day_le_31 h
  obtain ⟨hyear, -, hhigh, -, -⟩ := h
  simp only [ymd]
  omega

theorem ofDayNumber_dayNumber (h : d.Valid) : ofDayNumber d.dayNumber = d := by
  have hfirst := firstDay_le h
  exact dayNumber_injective (valid_ofDayNumber hfirst (le_lastDay h)) h (dayNumber_ofDayNumber hfirst)

/-! ## From day to day -/

theorem daysInMonth_pos (year : Nat) {month : Nat} (hlow : 1 ≤ month) (hhigh : month ≤ 12) :
    1 ≤ daysInMonth year month := by
  have hcases : month = 1 ∨ month = 2 ∨ month = 3 ∨ month = 4 ∨ month = 5 ∨ month = 6 ∨ month = 7 ∨
      month = 8 ∨ month = 9 ∨ month = 10 ∨ month = 11 ∨ month = 12 := by omega
  have hfebruary : 1 ≤ daysInMonth year 2 := by
    simp only [daysInMonth]
    split <;> omega
  rcases hcases with rfl | rfl | rfl | rfl | rfl | rfl | rfl | rfl | rfl | rfl | rfl | rfl
  case inr.inl => exact hfebruary
  all_goals exact of_decide_eq_true rfl

/-- The first day of a month follows the last day of the month before it. -/
theorem dayNumber_nextMonth (hlow : 1 ≤ d.month) (hhigh : d.month < 12)
    (hlast : d.day = daysInMonth d.year d.month) :
    dayNumber ⟨d.year, d.month + 1, 1⟩ = d.dayNumber + 1 := by
  have hpos := daysInMonth_pos d.year hlow (Nat.le_of_lt hhigh)
  have hnext : dayNumber ⟨d.year, d.month + 1, 1⟩ = yearStart (countedYear ⟨d.year, d.month + 1, 1⟩) +
      monthStart (countedMonth ⟨d.year, d.month + 1, 1⟩) := rfl
  rw [hnext, dayNumber_eq]
  by_cases hfebruary : d.month = 2
  · have hyear : countedYear ⟨d.year, d.month + 1, 1⟩ = d.countedYear + 1 := by
      rw [countedYear, countedYear, hfebruary]
      show d.year + 400 - 0 = d.year + 400 - 1 + 1
      omega
    have hmonth : monthStart (countedMonth ⟨d.year, d.month + 1, 1⟩) = 0 := by
      simp [countedMonth, monthStart, hfebruary]
    have hleap := yearStart_after_february hfebruary
    rw [hyear, hmonth, hleap]
    omega
  · have hyear : countedYear ⟨d.year, d.month + 1, 1⟩ = d.countedYear := by
      simp only [countedYear]
      split <;> split <;> omega
    have hmonth : countedMonth ⟨d.year, d.month + 1, 1⟩ = d.countedMonth + 1 := by
      simp only [countedMonth]
      split <;> split <;> omega
    rw [hyear, hmonth, monthStart_succ hlow (Nat.le_of_lt hhigh) hfebruary]
    omega

/-- The first day of January follows the last day of December. -/
theorem dayNumber_nextYear (hmonth : d.month = 12) (hlast : d.day = 31) :
    dayNumber ⟨d.year + 1, 1, 1⟩ = d.dayNumber + 1 := by
  have hyear : countedYear ⟨d.year + 1, 1, 1⟩ = d.countedYear := by
    rw [countedYear, countedYear, hmonth]
    show d.year + 1 + 400 - 1 = d.year + 400 - 0
    omega
  have hjanuary : monthStart (countedMonth ⟨d.year + 1, 1, 1⟩) = 306 := by
    simp [countedMonth, monthStart]
  have hnext : dayNumber ⟨d.year + 1, 1, 1⟩ = yearStart d.countedYear + 306 := by
    rw [dayNumber_eq, hyear, hjanuary]
    rfl
  have hdecember : monthStart d.countedMonth = 275 := by
    rw [countedMonth, hmonth]
    rfl
  rw [hnext, dayNumber_eq, hdecember]
  omega

/-- Every day of the calendar but the last one has a day after it. -/
theorem exists_next (h : d.Valid) (hlast : d.dayNumber < lastDay) :
    ∃ e, d.next? = some e ∧ e.Valid ∧ e.dayNumber = d.dayNumber + 1 := by
  obtain ⟨hyear, hlow, hhigh, hpos, hday⟩ := h
  rw [next?]
  by_cases hshort : d.day < daysInMonth d.year d.month
  · rw [if_pos hshort]
    refine ⟨_, rfl, ⟨hyear, hlow, hhigh, Nat.le_add_left 1 d.day, hshort⟩, ?_⟩
    show yearStart d.countedYear + monthStart d.countedMonth + (d.day + 1) - 1 = d.dayNumber + 1
    rw [dayNumber_eq]
    omega
  have hfull : d.day = daysInMonth d.year d.month := Nat.le_antisymm hday (Nat.le_of_not_lt hshort)
  rw [if_neg hshort]
  by_cases hmonth : d.month < 12
  · rw [if_pos hmonth]
    refine ⟨_, rfl, ⟨hyear, Nat.le_add_left 1 d.month, hmonth, Nat.le_refl 1, ?_⟩,
      dayNumber_nextMonth hlow hmonth hfull⟩
    exact daysInMonth_pos d.year (Nat.le_add_left 1 d.month) hmonth
  have hdecember : d.month = 12 := Nat.le_antisymm hhigh (Nat.le_of_not_lt hmonth)
  have h31 : d.day = 31 := by
    rw [hfull, hdecember]
    rfl
  have hnumber := dayNumber_nextYear hdecember h31
  rw [if_neg hmonth]
  by_cases hbefore : d.year < lastYear
  · rw [if_pos hbefore]
    exact ⟨_, rfl, ⟨hbefore, of_decide_eq_true rfl, of_decide_eq_true rfl, Nat.le_refl 1,
      of_decide_eq_true rfl⟩, hnumber⟩
  · -- This is 31 December of the last year.
    have hend : d = ⟨lastYear, 12, 31⟩ := by
      rw [← hdecember, ← h31, ← Nat.le_antisymm hyear (Nat.le_of_not_lt hbefore)]
    rw [hend, dayNumber_last] at hlast
    exact absurd hlast (Nat.lt_irrefl _)

def after? (d : Date) : Nat → Option Date
  | 0 => some d
  | n + 1 => (d.after? n).bind next?

theorem after?_eq (h : d.Valid) {n : Nat} (hn : d.dayNumber + n ≤ lastDay) :
    d.after? n = some (ofDayNumber (d.dayNumber + n)) := by
  induction n with
  | zero =>
    rw [after?, Nat.add_zero, ofDayNumber_dayNumber h]
  | succ n ih =>
    have hfirst := firstDay_le h
    have hnumber := dayNumber_ofDayNumber (n := d.dayNumber + n) (by omega)
    have hvalid := valid_ofDayNumber (n := d.dayNumber + n) (by omega) (by omega)
    obtain ⟨e, hnext, he, hday⟩ := exists_next hvalid (by omega)
    rw [hnumber] at hday
    rw [after?, ih (by omega), Option.bind_some, hnext, ← ofDayNumber_dayNumber he, hday,
      Nat.add_assoc]

/-! ## Stretches of dates -/

/-- The dates of a stretch are those that are read as numbers from its first one up to, but not
including, its last one. -/
theorem mem_range (ha : a.Valid) (hb : b.Valid) (hd : d.Valid) :
    d ∈ range a b ↔ a.ymd ≤ d.ymd ∧ d.ymd < b.ymd := by
  rw [← dayNumber_le_iff ha hd, ← dayNumber_lt_iff hd hb, range]
  simp only [List.mem_map, List.mem_range]
  constructor
  · rintro ⟨i, hi, rfl⟩
    have hfirst := firstDay_le ha
    rw [dayNumber_ofDayNumber (by omega)]
    omega
  · rintro ⟨hfrom, hto⟩
    refine ⟨d.dayNumber - a.dayNumber, by omega, ?_⟩
    rw [Nat.add_sub_cancel' hfrom, ofDayNumber_dayNumber hd]

theorem range_eq_nil (h : b.dayNumber ≤ a.dayNumber) : range a b = [] := by
  rw [range, Nat.sub_eq_zero_of_le h]
  rfl

/-- A stretch that is not empty is its first day and the stretch from the next day on. -/
theorem range_eq_cons (ha : a.Valid) (h : a.dayNumber < b.dayNumber)
    (hnext : d.dayNumber = a.dayNumber + 1) : range a b = a :: range d b := by
  obtain ⟨n, hn⟩ : ∃ n, b.dayNumber - a.dayNumber = n + 1 := ⟨b.dayNumber - a.dayNumber - 1, by omega⟩
  have hrest : b.dayNumber - d.dayNumber = n := by omega
  rw [range, range, hn, hrest, List.range_succ_eq_map, List.map_cons, List.map_map, Nat.add_zero,
    ofDayNumber_dayNumber ha, hnext]
  congr 1
  refine List.map_congr_left fun i _ => ?_
  show ofDayNumber (a.dayNumber + (i + 1)) = ofDayNumber (a.dayNumber + 1 + i)
  rw [Nat.add_assoc, Nat.add_comm 1 i]

/-- The order of the calendar: by the year, then by the month, then by the day. -/
def Before (a b : Date) : Prop :=
  a.year < b.year ∨ a.year = b.year ∧ (a.month < b.month ∨ a.month = b.month ∧ a.day < b.day)

instance (a b : Date) : Decidable (a.Before b) := by unfold Before; infer_instance

theorem before_iff (ha : a.Valid) (hb : b.Valid) : a.Before b ↔ a.dayNumber < b.dayNumber := by
  have h31a := day_le_31 ha
  have h31b := day_le_31 hb
  rw [dayNumber_lt_iff ha hb, Before, ymd, ymd]
  obtain ⟨-, -, hhigha, -, -⟩ := ha
  obtain ⟨-, -, hhighb, -, -⟩ := hb
  omega

/-- A stretch has the days of the calendar that are not before its first date, and before its
last one. -/
theorem mem_range_iff (ha : a.Valid) (hb : b.Valid) :
    d ∈ range a b ↔ d.Valid ∧ ¬ d.Before a ∧ d.Before b := by
  have hmem (hd : d.Valid) : d ∈ range a b ↔ ¬ d.Before a ∧ d.Before b := by
    rw [mem_range ha hb hd, before_iff hd ha, before_iff hd hb, ← dayNumber_le_iff ha hd,
      ← dayNumber_lt_iff hd hb, Nat.not_lt]
  refine ⟨fun h => ?_, fun h => (hmem h.1).2 h.2⟩
  suffices hd : d.Valid from ⟨hd, (hmem hd).1 h⟩
  rw [range, List.mem_map] at h
  obtain ⟨i, hi, rfl⟩ := h
  have hfirst := firstDay_le ha
  have hlast := le_lastDay hb
  have hi := List.mem_range.1 hi
  exact valid_ofDayNumber (by omega) (by omega)

theorem valid_of_ofYmd? {n : Nat} (h : ofYmd? n = some d) : d.Valid := by
  simp only [ofYmd?] at h
  split at h
  · rename_i hvalid
    injection h with h
    rw [← h]
    exact hvalid
  · exact absurd h (by simp)

theorem ofYmd?_eq_some_iff {n : Nat} : ofYmd? n = some d ↔ d.Valid ∧ d.ymd = n := by
  constructor
  · exact fun h => ⟨valid_of_ofYmd? h, ymd_of_ofYmd? h⟩
  · rintro ⟨hd, rfl⟩
    exact ofYmd?_ymd hd

end Date

namespace Timestamp

/-- Every timestamp lies in the calendar. -/
theorem valid_date (ts : UInt64) : (date ts).Valid := by
  have hlt : ts.toNat < 18446744073709551616 := ts.toNat_lt
  refine Date.valid_ofDayNumber ?_ ?_
  · rw [Date.firstDay, Date.epochDay]
    omega
  · simp only [Date.lastDay, Date.epochDay, split, Moment.nanosPerSecond]
    omega

/-- The date of a timestamp is found by counting days from 1 January 1970. -/
theorem after?_epoch (ts : UInt64) :
    Date.after? ⟨1970, 1, 1⟩ (ts.toNat / 86400000000000) = some (date ts) := by
  have hlt : ts.toNat < 18446744073709551616 := ts.toNat_lt
  have hepoch : Date.dayNumber ⟨1970, 1, 1⟩ = Date.epochDay := Date.epochDay_eq
  have hlast : Date.dayNumber ⟨1970, 1, 1⟩ + ts.toNat / 86400000000000 ≤ Date.lastDay := by
    rw [hepoch, Date.epochDay, Date.lastDay]
    omega
  have hdays : ts.toNat / 86400000000000 = (split ts).1 / 86400 := by
    rw [split, Moment.nanosPerSecond, Nat.div_div_eq_div_mul]
  rw [Date.after?_eq (by decide) hlast, hepoch, hdays, date]

end Timestamp
end TickStream
