import TickStream.Proofs.Moments
import TickStream.Proofs.Calendar
/-
Dates as numbers.  Main statement: the numbers that are read as dates give these numbers back and
stand in the order of the calendar, in which a date comes before another one if going on from day
to day leads to it; and a timestamp has the number of the date that lies as many days behind
1 January 1970 as it has whole days, so that later timestamps have no smaller numbers.
-/
namespace TickStream
namespace Date

variable {d e : Date} {a b : UInt32}

/-! ## From day to day -/

/-- One step goes to the next day number. -/
theorem dayNumber_next? (h : d.Valid) (hnext : d.next? = some e) :
    e.Valid ∧ e.dayNumber = d.dayNumber + 1 := by
  by_cases hlast : d.dayNumber < lastDay
  · obtain ⟨e', he', hvalid, hday⟩ := exists_next h hlast
    obtain rfl : e' = e := Option.some.inj (he'.symm.trans hnext)
    exact ⟨hvalid, hday⟩
  · have hend : d.dayNumber = dayNumber ⟨lastYear, 12, 31⟩ := by
      have hle := le_lastDay h
      rw [dayNumber_last]
      omega
    have hnone : next? ⟨lastYear, 12, 31⟩ = none := by decide
    rw [dayNumber_injective h (by decide) hend, hnone] at hnext
    cases hnext

/-- All steps: the day number counts them. -/
theorem dayNumber_after? (h : d.Valid) {n : Nat} (hn : d.after? n = some e) :
    e.Valid ∧ e.dayNumber = d.dayNumber + n := by
  induction n generalizing e with
  | zero =>
    cases hn
    exact ⟨h, rfl⟩
  | succ n ih =>
    obtain ⟨c, hc, hnext⟩ := Option.bind_eq_some_iff.1 hn
    obtain ⟨hvalid, hday⟩ := ih hc
    obtain ⟨he, hlast⟩ := dayNumber_next? hvalid hnext
    exact ⟨he, by rw [hlast, hday, Nat.add_assoc]⟩

/-- What comes before a date leads to it. -/
theorem before_iff_after? (hd : d.Valid) (he : e.Valid) :
    d.Before e ↔ ∃ n, 0 < n ∧ d.after? n = some e := by
  rw [before_iff hd he]
  constructor
  · intro hlt
    have hlast := le_lastDay he
    refine ⟨e.dayNumber - d.dayNumber, by omega, ?_⟩
    rw [after?_eq hd (by omega), Nat.add_sub_cancel' (Nat.le_of_lt hlt), ofDayNumber_dayNumber he]
  · rintro ⟨n, hpos, hn⟩
    have hday := (dayNumber_after? hd hn).2
    omega

/-! ## Numbers -/

/-- Numbers that are read as dates are in their order. -/
theorem before_iff_lt (ha : ofYmd? a.toNat = some d) (hb : ofYmd? b.toNat = some e) :
    d.Before e ↔ a < b := by
  have hd := valid_of_ofYmd? ha
  have he := valid_of_ofYmd? hb
  rw [before_iff hd he, dayNumber_lt_iff hd he, ymd_of_ofYmd? ha, ymd_of_ofYmd? hb,
    UInt32.lt_iff_toNat_lt]

/-- The number of a date fits 32 bits. -/
theorem ymd_lt_size (h : d.Valid) : d.ymd < UInt32.size := by
  have h31 := day_le_31 h
  obtain ⟨hyear, -, hmonth, -, -⟩ := h
  rw [lastYear] at hyear
  rw [ymd, UInt32.size]
  omega

end Date

namespace Timestamp

open Date

variable {ts ts' : UInt64}

theorem ymd_eq (h : ts ≠ undefined) : ymd ts = (date ts).ymd := if_neg h

theorem dayNumber_date (ts : UInt64) :
    (date ts).dayNumber = epochDay + ts.toNat / 86400000000000 := by
  have hfirst : dayNumber ⟨1970, 1, 1⟩ = epochDay := epochDay_eq
  rw [(dayNumber_after? (by decide) (after?_epoch ts)).2, hfirst]

/-- Timestamps have the numbers in the order of their days. -/
theorem ymd_le_iff (h : ts ≠ undefined) (h' : ts' ≠ undefined) :
    ymd ts ≤ ymd ts' ↔ ts.toNat / 86400000000000 ≤ ts'.toNat / 86400000000000 := by
  rw [ymd_eq h, ymd_eq h', ← dayNumber_le_iff (valid_date ts) (valid_date ts'),
    dayNumber_date, dayNumber_date, Nat.add_le_add_iff_left]

/-- The moment of a timestamp lies in the day that is its date. -/
theorem exists_moment_in_day (h : ts ≠ undefined) :
    ∃ m, toMoment? ts = some m ∧ m.seconds / 86400 = (ts.toNat / 86400000000000 : Nat) := by
  refine ⟨_, toMoment?_eq h, ?_⟩
  simp only [split, Moment.nanosPerSecond]
  omega

end Timestamp

/-- Numbers that are read as dates are the numbers of these dates, and the smaller one belongs to
the date that comes first, from which one gets to the other one day by day.  A timestamp has the
number of the date that as many days lead to from 1 January 1970 as its moment is past it, and a
later one has no smaller number. -/
theorem ymd_in_order :
    (∀ (a b : UInt32) (d e : Date), Date.ofYmd? a.toNat = some d → Date.ofYmd? b.toNat = some e →
      d.ymd = a.toNat ∧ (a < b ↔ d.Before e) ∧
        (d.Before e ↔ ∃ n, 0 < n ∧ d.after? n = some e)) ∧
    (∀ ts : UInt64, ts ≠ Timestamp.undefined → ∃ m d, Timestamp.toMoment? ts = some m ∧
      m.seconds / 86400 = (ts.toNat / 86400000000000 : Nat) ∧
      Date.after? ⟨1970, 1, 1⟩ (ts.toNat / 86400000000000) = some d ∧
      Timestamp.ymd ts = d.ymd ∧ d.ymd < UInt32.size) ∧
    (∀ ts ts' : UInt64, ts' ≠ Timestamp.undefined → ts ≤ ts' →
      Timestamp.ymd ts ≤ Timestamp.ymd ts') := by
  refine ⟨fun a b d e ha hb => ?_, fun ts h => ?_, fun ts ts' h' hle => ?_⟩
  · have hbefore := Date.before_iff_after? (Date.valid_of_ofYmd? ha) (Date.valid_of_ofYmd? hb)
    exact ⟨Date.ymd_of_ofYmd? ha, (Date.before_iff_lt ha hb).symm, hbefore⟩
  · obtain ⟨m, hm, hday⟩ := Timestamp.exists_moment_in_day h
    exact ⟨m, Timestamp.date ts, hm, hday, Timestamp.after?_epoch ts, Timestamp.ymd_eq h,
      Date.ymd_lt_size (Timestamp.valid_date ts)⟩
  · have hnat := UInt64.le_iff_toNat_le.1 hle
    -- The undefined timestamp is the last one.
    have h : ts ≠ Timestamp.undefined := by
      rintro rfl
      have hlast : ts'.toNat < 18446744073709551616 := ts'.toNat_lt
      have hundefined : Timestamp.undefined.toNat = 18446744073709551615 := rfl
      exact h' (UInt64.toNat_inj.1 (by omega))
    exact (Timestamp.ymd_le_iff h h').2 (Nat.div_le_div_right hnat)

/-- The leap day of 2024 and the day after it: their numbers, and the last nanosecond of the one
and the first of the other. -/
theorem ymd_in_order_leap :
    (20240229 : UInt32) < 20240301 ∧
    (∃ n, 0 < n ∧ Date.after? ⟨2024, 2, 29⟩ n = some ⟨2024, 3, 1⟩) ∧
    (∃ d, Date.after? ⟨1970, 1, 1⟩ 19782 = some d ∧ d.ymd = 20240229) ∧
    Timestamp.ymd 1709251199999999999 ≤ Timestamp.ymd 1709251200000000000 := by
  obtain ⟨horder, hdate, hlater⟩ := ymd_in_order
  obtain ⟨-, hlt, hsteps⟩ := horder 20240229 20240301 ⟨2024, 2, 29⟩ ⟨2024, 3, 1⟩
    (by decide) (by decide)
  have hbefore : Date.Before ⟨2024, 2, 29⟩ ⟨2024, 3, 1⟩ := by decide
  obtain ⟨m, d, -, -, hd, hymd, -⟩ := hdate 1709251199999999999 (by decide)
  have hnumber : Timestamp.ymd 1709251199999999999 = 20240229 := by decide
  exact ⟨hlt.2 hbefore, hsteps.1 hbefore, ⟨d, hd, hymd.symm.trans hnumber⟩,
    hlater _ _ (by decide) (by decide)⟩

end TickStream
