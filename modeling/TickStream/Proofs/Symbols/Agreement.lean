import TickStream.Proofs.Symbols.ByDate
import TickStream.Proofs.Symbols.History
/-
The two maps of symbols side by side.  Main statement: where the mappings of metadata can be
entered day by day, they can be entered as they hold at any moment of the query, and both maps
then give every instrument the same symbol at that moment.
-/
namespace TickStream

open Step

namespace Assignment

variable {a : Assignment} {start stop : Date}

/-- An assignment holds on the days from its first date up to its last. -/
theorem Lasts.holdsOn_iff (h : a.Lasts start stop) {d : Date} (hd : d.Valid) :
    CurrentSymbols.holdsOn d.ymd a = true ↔ d ∈ Date.range start stop := by
  rw [Date.mem_range (Date.valid_of_ofYmd? h.first) (Date.valid_of_ofYmd? h.last) hd,
    Date.ymd_of_ofYmd? h.first, Date.ymd_of_ofYmd? h.last]
  simp [CurrentSymbols.holdsOn]

/-- No date is read as zero, so nothing holds at the undefined timestamp. -/
theorem Lasts.not_holdsOn_zero (h : a.Lasts start stop) : CurrentSymbols.holdsOn 0 a = false := by
  have hfirst : a.first.toNat ≠ 0 := by
    intro hzero
    have hread := h.first
    have hnone : Date.ofYmd? 0 = none := by decide
    rw [hzero, hnone] at hread
    exact absurd hread (by simp)
  simp [CurrentSymbols.holdsOn, hfirst]

end Assignment

namespace DatedSymbols

variable {s : DatedSymbols} {a : Assignment} {start stop : Date}

/-- At a given moment only an assignment that holds then makes a difference. -/
theorem getAt?_put (h : a.Lasts start stop) (ts : UInt64) (n other : UInt32) :
    (s.put n a.symbol (Date.range start stop)).getAt? ts other =
      if CurrentSymbols.holdsOn (Timestamp.ymd ts) a = true ∧ n = other then some a.symbol
      else s.getAt? ts other := by
  rw [getAt?, getAt?, Timestamp.ymd]
  by_cases hts : ts = Timestamp.undefined
  · rw [if_pos hts, if_pos hts, if_pos hts, h.not_holdsOn_zero, if_neg (by simp)]
  · rw [if_neg hts, if_neg hts, if_neg hts, get?_put]
    simp only [h.holdsOn_iff (Timestamp.valid_date ts), and_comm]

end DatedSymbols

namespace CurrentSymbols

/-- The map gives every instrument the symbol that it has in the other map at a moment. -/
def Shows (c : CurrentSymbols) (s : DatedSymbols) (ts : UInt64) : Prop :=
  ∀ instrument, c.get? instrument = s.getAt? ts instrument

variable {s t : DatedSymbols} {c : CurrentSymbols} {a : Assignment} {as : List Assignment}
variable {ts : UInt64}

theorem shows_empty (ts : UInt64) : empty.Shows DatedSymbols.empty ts := by
  intro instrument
  rw [get?_empty, DatedSymbols.getAt?, DatedSymbols.get?_empty, ite_self]

/-- What one assignment does to both maps. -/
theorem Shows.after_assign (h : c.Shows s ts) (ha : EStateM.run (DatedSymbols.assign a) s = .ok () t) :
    if holdsOn (Timestamp.ymd ts) a then
      ∃ d, EStateM.run (assign a) c = .ok () d ∧ d.Shows t ts
    else c.Shows t ts := by
  obtain ⟨n, start, stop, hn, hlasts, rfl⟩ := DatedSymbols.run_assign_eq_ok.1 ha
  have hat (other : UInt32) : (s.put n a.symbol (Date.range start stop)).getAt? ts other = _ :=
    DatedSymbols.getAt?_put hlasts ts n other
  split <;> rename_i hholds
  · refine ⟨c.put n a.symbol, bind_ok (run_ofExcept_ok hn c), fun other => ?_⟩
    rw [hat, get?_put, h other]
    simp only [hholds, true_and]
  · intro other
    rw [hat, h other, if_neg (fun both => hholds both.1)]

/-- Assignments that can all be entered day by day can be entered as they hold at a moment. -/
theorem Shows.after_all (h : c.Shows s ts)
    (has : EStateM.run (as.forM DatedSymbols.assign) s = .ok () t) :
    ∃ d, EStateM.run ((as.filter (holdsOn (Timestamp.ymd ts))).forM assign) c = .ok () d ∧
      d.Shows t ts := by
  induction as generalizing s c with
  | nil =>
    injection has with _ hs
    exact ⟨c, rfl, hs ▸ h⟩
  | cons a as ih =>
    obtain ⟨u, ha, hrest⟩ := run_forM_eq_ok.1 has
    have hone := h.after_assign ha
    rw [List.filter_cons]
    split at hone <;> rename_i hholds
    · obtain ⟨d, hd, hshows⟩ := hone
      rw [if_pos hholds, run_forM_ok hd]
      exact ih hshows hrest
    · rw [if_neg hholds]
      exact ih hone hrest

/-- The map of the mappings at a moment of the query, whatever stood in it before, agrees with the
map of all days. -/
theorem agrees_in_query {m : Metadata} (hs : DatedSymbols.ofMetadata m = .ok s)
    (hstart : m.start ≤ ts) (hstop : ∀ stop, m.stop? = some stop → ts < stop)
    (c : CurrentSymbols) :
    ∃ d, EStateM.run (fill m ts) c = .ok () d ∧
      ∀ instrument, d.get? instrument = s.getAt? ts instrument := by
  obtain ⟨inverse, hinverse, hall⟩ := DatedSymbols.ofMetadata_eq_ok.1 hs
  obtain ⟨d, hd, hshows⟩ := (shows_empty ts).after_all hall
  refine ⟨d, ?_, hshows⟩
  rw [run_fill hinverse (inQuery_iff.2 ⟨hstart, hstop⟩), hd]

/-- Two symbols that stand for one instrument at a time, with an interval in which one of them
stands for none: the later mapping counts. -/
theorem agrees_in_query_overlap :
    let m : Metadata := ⟨.v2, "GLBX.MDP3", some .ohlcv1s, 1609160400000000000,
      1609372800000000000, 0, some .rawSymbol, .instrumentId, false, ["ESH1", "NQH1"], [], [],
      [⟨"ESH1", [⟨20201228, 20201231, "5482"⟩, ⟨20201229, 20201230, ""⟩]⟩,
       ⟨"NQH1", [⟨20201229, 20201231, "5482"⟩, ⟨20201229, 20201229, "5483"⟩]⟩]⟩
    let ts : UInt64 := 1609245000000000000
    ∃ s, DatedSymbols.ofMetadata m = .ok s ∧ ∃ d, EStateM.run (fill m ts) empty = .ok () d ∧
      d.get? 5482 = some "NQH1" ∧ s.getAt? ts 5482 = some "NQH1" := by
  intro m ts
  let days := Date.range ⟨2020, 12, 28⟩ ⟨2020, 12, 31⟩
  let s := ((DatedSymbols.empty.put 5482 "ESH1" days).put 5482 "NQH1" days.tail).put 5483 "NQH1" []
  have hall : m.assignments false = [⟨"5482", "ESH1", 20201228, 20201231⟩,
      ⟨"5482", "NQH1", 20201229, 20201231⟩, ⟨"5483", "NQH1", 20201229, 20201229⟩] := by decide
  have hs : DatedSymbols.ofMetadata m = .ok s := by
    refine DatedSymbols.ofMetadata_eq_ok.2 ⟨false, by decide, ?_⟩
    rw [hall]
    refine run_forM_eq_ok.2 ⟨_, DatedSymbols.run_assign_eq_ok.2 ⟨5482, ⟨2020, 12, 28⟩,
      ⟨2020, 12, 31⟩, by decide, ⟨by decide, by decide, by decide⟩, rfl⟩, ?_⟩
    refine run_forM_eq_ok.2 ⟨_, DatedSymbols.run_assign_eq_ok.2 ⟨5482, ⟨2020, 12, 29⟩,
      ⟨2020, 12, 31⟩, by decide, ⟨by decide, by decide, by decide⟩, rfl⟩, ?_⟩
    refine run_forM_eq_ok.2 ⟨_, DatedSymbols.run_assign_eq_ok.2 ⟨5483, ⟨2020, 12, 29⟩,
      ⟨2020, 12, 29⟩, by decide, ⟨by decide, by decide, by decide⟩, rfl⟩, rfl⟩
  have hshown : s.getAt? ts 5482 = some "NQH1" := by
    rw [DatedSymbols.getAt?, if_neg (by decide)]
    simp only [s, DatedSymbols.get?_put]
    decide
  have hstart : m.start ≤ ts := by decide
  have hstop (stop : UInt64) (h : m.stop? = some stop) : ts < stop := by
    have hlast : m.stop? = some 1609372800000000000 := rfl
    rw [hlast] at h
    injection h with h
    exact h ▸ (by decide)
  obtain ⟨d, hd, hagrees⟩ := agrees_in_query hs hstart hstop empty
  exact ⟨s, hs, d, hd, (hagrees 5482).trans hshown, hshown⟩

end CurrentSymbols
end TickStream
