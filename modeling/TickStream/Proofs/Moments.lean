import TickStream.Timestamp
/-
Timestamps and the moments that they name.  Main statement: every timestamp but the undefined one
names a moment of the calendar, and the timestamp of that moment is the same one exactly below the
middle of the range; moments before 1970 become 0, later moments do not get smaller timestamps,
and a moment has a timestamp at all, exactly as far as its nanoseconds fit a signed word.
-/
namespace TickStream
namespace Moment

def InCalendar (m : Moment) : Prop := ofParts? m.seconds m.nanos = some m

instance (m : Moment) : Decidable m.InCalendar := inferInstanceAs (Decidable (_ = _))

/-- The order of moments.  A leap second stands before the second that follows it, even where it
has more nanoseconds. -/
def Before (m m' : Moment) : Prop :=
  m.seconds < m'.seconds ∨ m.seconds = m'.seconds ∧ m.nanos < m'.nanos

instance (m m' : Moment) : Decidable (m.Before m') := inferInstanceAs (Decidable (_ ∨ _))

def epoch : Moment := ⟨0, 0⟩

/-- The nanoseconds since 1970 fit a signed word of 64 bits. -/
def FitsSigned (m : Moment) : Prop := -0x8000000000000000 ≤ m.total ∧ m.total < 0x8000000000000000

instance (m : Moment) : Decidable m.FitsSigned := inferInstanceAs (Decidable (_ ∧ _))

variable {m m' : Moment}

theorem inCalendar_of_ofParts? {seconds : Int} {nanos : Nat} (h : ofParts? seconds nanos = some m) :
    m.InCalendar := by
  have hparts : m = ⟨seconds, nanos⟩ := by
    simp only [ofParts?] at h
    split at h
    · cases h
    · split at h
      · exact (Option.some.inj h).symm
      · split at h
        · exact (Option.some.inj h).symm
        · cases h
  rw [InCalendar, hparts, h, hparts]

/-- Outside leap seconds the nanoseconds grow with the moments. -/
theorem Before.total_lt (h : m.Before m') (hnanos : m.nanos < nanosPerSecond) :
    m.total < m'.total := by
  simp only [total, nanosPerSecond] at hnanos ⊢
  rcases h with h | ⟨h, h'⟩ <;> omega

end Moment

namespace Timestamp

open Moment

variable {ts : UInt64} {m m' : Moment}

/-! ## The moment of a timestamp -/

theorem total_split (ts : UInt64) : total ⟨(split ts).1, (split ts).2⟩ = ts.toNat := by
  have hparts := Nat.div_add_mod ts.toNat nanosPerSecond
  simp only [total, split, nanosPerSecond] at hparts ⊢
  omega

/-- All the seconds of a timestamp are in the calendar. -/
theorem toMoment?_eq (h : ts ≠ undefined) :
    toMoment? ts = some ⟨(split ts).1, (split ts).2⟩ := by
  have hlast : ts.toNat < 2 ^ 64 := ts.toNat_lt
  have hnanos : (split ts).2 < nanosPerSecond := Nat.mod_lt _ (by decide)
  have hseconds : ((split ts).1 : Int) ≤ lastSecond := by
    simp only [split, nanosPerSecond, lastSecond]
    omega
  have hfirst : firstSecond ≤ (split ts).1 := by
    simp only [firstSecond]
    omega
  rw [toMoment?, if_neg h, ofParts?, if_neg (by simp [hfirst, hseconds]), if_pos hnanos]

/-- A timestamp that is not the undefined one counts the nanoseconds of the moment it names. -/
theorem exists_moment (h : ts ≠ undefined) :
    ∃ m, toMoment? ts = some m ∧ m.InCalendar ∧ m.total = ts.toNat := by
  have hparts := toMoment?_eq h
  refine ⟨_, hparts, ?_, total_split ts⟩
  rw [toMoment?, if_neg h] at hparts
  exact inCalendar_of_ofParts? hparts

/-! ## The timestamp of a moment -/

theorem ofMoment_of_fitsSigned (h : m.FitsSigned) : (ofMoment m).toNat = m.total.toNat := by
  obtain ⟨hlow, hhigh⟩ := h
  rw [ofMoment, if_pos (by simp [hlow, hhigh])]
  exact Nat.mod_eq_of_lt (by omega)

theorem ofMoment_of_not_fitsSigned (h : ¬ m.FitsSigned) : ofMoment m = undefined := by
  rw [FitsSigned] at h
  exact if_neg (by simpa using h)

theorem ofMoment_lt_undefined (h : m.FitsSigned) : (ofMoment m).toNat < undefined.toNat := by
  have hundefined : undefined.toNat = 0xffffffffffffffff := rfl
  have hhigh := h.2
  rw [ofMoment_of_fitsSigned h, hundefined]
  omega

/-- The moments without a timestamp are those whose nanoseconds a signed word does not hold. -/
theorem ofMoment_eq_undefined_iff : ofMoment m = undefined ↔ ¬ m.FitsSigned := by
  refine ⟨fun h hfits => ?_, ofMoment_of_not_fitsSigned⟩
  have hless := ofMoment_lt_undefined hfits
  rw [h] at hless
  exact Nat.lt_irrefl _ hless

/-- A moment has the timestamp `ts` when `ts` counts its nanoseconds, the ones before 1970 not
counted, and a signed word holds them. -/
theorem ofMoment_eq_iff (h : ts ≠ undefined) :
    ofMoment m = ts ↔ m.FitsSigned ∧ m.total.toNat = ts.toNat := by
  by_cases hfits : m.FitsSigned
  · simp only [hfits, true_and, ← UInt64.toNat_inj, ofMoment_of_fitsSigned hfits]
  · simp only [hfits, false_and, iff_false, ofMoment_of_not_fitsSigned hfits]
    exact h.symm

/-- The undefined timestamp is the greatest, so that no moment with a timestamp comes behind one
without. -/
theorem ofMoment_le_iff :
    ofMoment m ≤ ofMoment m' ↔
      ¬ m'.FitsSigned ∨ m.FitsSigned ∧ (m.total ≤ m'.total ∨ m.total ≤ 0) := by
  by_cases hfits' : m'.FitsSigned
  · by_cases hfits : m.FitsSigned
    · rw [UInt64.le_iff_toNat_le, ofMoment_of_fitsSigned hfits, ofMoment_of_fitsSigned hfits']
      simp only [hfits, hfits', not_true_eq_false, false_or, true_and]
      omega
    · have hless := ofMoment_lt_undefined hfits'
      simp only [hfits, hfits', not_true_eq_false, false_or, false_and, iff_false,
        ofMoment_of_not_fitsSigned hfits, UInt64.le_iff_toNat_le]
      omega
  · have hlast : (ofMoment m).toNat < 2 ^ 64 := (ofMoment m).toNat_lt
    have hundefined : undefined.toNat = 0xffffffffffffffff := rfl
    simp only [hfits', not_false_eq_true, true_or, iff_true, ofMoment_of_not_fitsSigned hfits',
      UInt64.le_iff_toNat_le]
    omega

/-- Timestamps come back from the moments that they name exactly in the lower half of their range.
Moments before 1970 have the timestamp 0, and later moments no smaller timestamps, exactly as far
as a signed word holds the nanoseconds; the undefined timestamp stands for every moment beyond.
A leap second counts the nanoseconds of the second that follows. -/
theorem returns_iff_fitsSigned (ts : UInt64) (m m' : Moment) :
    (ts ≠ undefined → ∃ n, toMoment? ts = some n ∧ n.InCalendar ∧ n.total = ts.toNat ∧
      (ofMoment n = ts ↔ ts.toNat < 0x8000000000000000)) ∧
    (m.InCalendar → m.Before epoch →
      (ofMoment m = 0 ↔ -0x8000000000000000 ≤ m.total ∧ m.total ≤ 0)) ∧
    (m.InCalendar → m'.InCalendar → m.Before m' →
      (ofMoment m ≤ ofMoment m' ↔
        ¬ m'.FitsSigned ∨ m.FitsSigned ∧ (m.total ≤ m'.total ∨ m.total ≤ 0)) ∧
      (m.nanos < nanosPerSecond → m.total < m'.total)) ∧
    (m.InCalendar → m.total < undefined.toNat → (ofMoment m = undefined ↔ ¬ m.FitsSigned)) := by
  refine ⟨fun hts => ?_, fun _ _ => ?_, fun _ _ hbefore => ?_, fun _ _ => ?_⟩
  · obtain ⟨n, hn, hcalendar, htotal⟩ := exists_moment hts
    refine ⟨n, hn, hcalendar, htotal, ?_⟩
    rw [ofMoment_eq_iff hts, FitsSigned, htotal]
    omega
  · have hnone : (0 : UInt64) ≠ undefined := by decide
    have hzero : (0 : UInt64).toNat = 0 := rfl
    rw [ofMoment_eq_iff hnone, FitsSigned, hzero]
    omega
  · exact ⟨ofMoment_le_iff, hbefore.total_lt⟩
  · exact ofMoment_eq_undefined_iff

/-- The two timestamps at the middle of the range, and moments of the years 1600 and 1700. -/
theorem returns_iff_fitsSigned_at_edges :
    let early : Moment := ⟨-11676096000, 0⟩
    let late : Moment := ⟨-8520336000, 0⟩
    (toMoment? 0x7fffffffffffffff).map ofMoment = some 0x7fffffffffffffff ∧
    (toMoment? 0x8000000000000000).map ofMoment ≠ some 0x8000000000000000 ∧
    ofMoment late = 0 ∧ ¬ ofMoment early ≤ ofMoment late ∧ ofMoment early = undefined := by
  intro early late
  obtain ⟨hbelow, hepoch, -, -⟩ := returns_iff_fitsSigned 0x7fffffffffffffff late late
  obtain ⟨habove, -, horder, hundefined⟩ := returns_iff_fitsSigned 0x8000000000000000 early late
  obtain ⟨m, hm, -, -, hreturns⟩ := hbelow (by decide)
  obtain ⟨m', hm', -, -, hreturns'⟩ := habove (by decide)
  refine ⟨?_, ?_, ?_, ?_, ?_⟩
  · rw [hm, Option.map_some, hreturns.2 (by decide)]
  · rw [hm', Option.map_some]
    exact fun h => absurd (hreturns'.1 (Option.some.inj h)) (by decide)
  · exact (hepoch (by decide) (by decide)).2 (by decide)
  · exact fun h => absurd ((horder (by decide) (by decide) (by decide)).1.1 h) (by decide)
  · exact (hundefined (by decide) (by decide)).2 (by decide)

/-- The year 1600 is before 1970 and has no timestamp, and neither has the moment that the
timestamp at the middle of the range names. -/
theorem outside_signed_undefined :
    (InCalendar ⟨-11676096000, 0⟩ ∧ Before ⟨-11676096000, 0⟩ epoch ∧
      ofMoment ⟨-11676096000, 0⟩ = undefined) ∧
    (0x8000000000000000 ≠ undefined ∧
      (toMoment? 0x8000000000000000).map ofMoment = some undefined) := by
  decide

end Timestamp
end TickStream
