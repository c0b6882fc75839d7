import TickStream.Text.Numeral
/-
The proleptic Gregorian calendar from the year 0 on.

Days are counted from 1 March of the year -400, so that leap days end a counted year
and no count is negative.  Main statement: the count and the date determine each other.
-/
namespace TickStream

structure Date where
  year : Nat
  month : Nat
  day : Nat
  deriving DecidableEq, Hashable, Repr

namespace Date

def isLeap (year : Nat) : Bool := year % 4 == 0 && (year % 100 != 0 || year % 400 == 0)

def daysInMonth (year month : Nat) : Nat :=
  match month with
  | 1 | 3 | 5 | 7 | 8 | 10 | 12 => 31
  | 4 | 6 | 9 | 11 => 30
  | 2 => if isLeap year then 29 else 28
  | _ => 0

def lastYear : Nat := 262142

def Valid (d : Date) : Prop :=
  d.year ≤ lastYear ∧ 1 ≤ d.month ∧ d.month ≤ 12 ∧ 1 ≤ d.day ∧ d.day ≤ daysInMonth d.year d.month

instance (d : Date) : Decidable d.Valid := by unfold Valid; infer_instance

/-- The number of days from 1 March of the year -400. -/
def dayNumber (d : Date) : Nat :=
  let year := d.year + 400 - (if d.month ≤ 2 then 1 else 0)
  let month := if d.month ≤ 2 then d.month + 9 else d.month - 3
  365 * year + year / 4 - year / 100 + year / 400 + (153 * month + 2) / 5 + d.day - 1

/-- The date of a day number: the cycle of 400 years, the century, the four years, the
year and the month are split off one after the other. -/
def ofDayNumber (n : Nat) : Date :=
  let cycle := n / 146097
  let inCycle := n % 146097
  let century := min (inCycle / 36524) 3
  let inCentury := inCycle - 36524 * century
  let four := inCentury / 1461
  let inFour := inCentury % 1461
  let one := min (inFour / 365) 3
  let inYear := inFour - 365 * one
  let month := (5 * inYear + 2) / 153
  let day := inYear - (153 * month + 2) / 5 + 1
  let year := 400 * cycle + 100 * century + 4 * four + one
  if month < 10 then ⟨year - 400, month + 3, day⟩ else ⟨year + 1 - 400, month - 9, day⟩

/-- The day number of 1 January 1970. -/
def epochDay : Nat := 865565

theorem epochDay_eq : dayNumber ⟨1970, 1, 1⟩ = epochDay := by decide

def ymd (d : Date) : Nat := d.year * 10000 + d.month * 100 + d.day

def ofYmd? (n : Nat) : Option Date :=
  let d : Date := ⟨n / 10000, n / 100 % 100, n % 100⟩
  if d.Valid then some d else none

/-- The day after a date; none after the last one of the calendar. -/
def next? (d : Date) : Option Date :=
  if d.day < daysInMonth d.year d.month then some ⟨d.year, d.month, d.day + 1⟩
  else if d.month < 12 then some ⟨d.year, d.month + 1, 1⟩
  else if d.year < lastYear then some ⟨d.year + 1, 1, 1⟩
  else none

/-- The date in words; a year of more than four digits has a sign. -/
def text (d : Date) : String :=
  let sign := if d.year < 10000 then "" else "+"
  sign ++ Text.padded 4 d.year ++ "-" ++ Text.padded 2 d.month ++ "-" ++ Text.padded 2 d.day

def range (first last : Date) : List Date :=
  (List.range (last.dayNumber - first.dayNumber)).map fun i => ofDayNumber (first.dayNumber + i)

theorem daysInMonth_le (year month : Nat) : daysInMonth year month ≤ 31 := by
  unfold daysInMonth
  split <;> try split
  all_goals omega

theorem day_le_31 {d : Date} (h : d.Valid) : d.day ≤ 31 := by
  obtain ⟨_, h1, h2, _, h3⟩ := h
  have := daysInMonth_le d.year d.month
  omega

/-- Going on from day to day comes to an end: the parts of the date grow, the year first. -/
theorem next?_later {d e : Date} (h : d.next? = some e) :
    Prod.Lex (· < ·) (Prod.Lex (· < ·) (· < ·))
      (lastYear - e.year, 12 - e.month, 31 - e.day) (lastYear - d.year, 12 - d.month, 31 - d.day) := by
  simp only [next?] at h
  split at h
  · rename_i hday
    injection h with h
    have hshort := daysInMonth_le d.year d.month
    have hless : 31 - (d.day + 1) < 31 - d.day := by omega
    exact h ▸ .right _ (.right _ hless)
  · split at h
    · rename_i hmonth
      injection h with h
      have hless : 12 - (d.month + 1) < 12 - d.month := by omega
      exact h ▸ .right _ (.left _ _ hless)
    · split at h
      · rename_i hyear
        injection h with h
        have hless : lastYear - (d.year + 1) < lastYear - d.year := by omega
        exact h ▸ .left _ _ hless
      · exact absurd h (by simp)

/-- The number of an existing date reads back as the date. -/
theorem ofYmd?_ymd {d : Date} (h : d.Valid) : ofYmd? d.ymd = some d := by
  have h31 := day_le_31 h
  obtain ⟨y, m, day⟩ := d
  have hm : m ≤ 12 := h.2.2.1
  simp only at h31
  have e1 : ymd ⟨y, m, day⟩ / 10000 = y := by simp only [ymd]; omega
  have e2 : ymd ⟨y, m, day⟩ / 100 % 100 = m := by simp only [ymd]; omega
  have e3 : ymd ⟨y, m, day⟩ % 100 = day := by simp only [ymd]; omega
  simp only [ofYmd?, e1, e2, e3, h, if_true]

/-- The date of a number has that number. -/
theorem ymd_of_ofYmd? {n : Nat} {d : Date} (h : ofYmd? n = some d) : d.ymd = n := by
  simp only [ofYmd?] at h
  split at h
  · injection h with h
    subst h
    simp only [ymd]
    omega
  · simp at h

end Date
end TickStream
