import TickStream.Proofs.Symbols.ByDate
import TickStream.Proofs.Symbols.Placed
/-
What the map of symbols day by day answers, read off the intervals of the mappings.  Main
statement: a map made of metadata gives an instrument on a day the symbol of the last interval
that names it then; it gives it for every timestamp of that day; and a single insertion changes the
days of its stretch and nothing else, if its dates exist and are in order, and otherwise nothing at
all.
-/
namespace TickStream

open Step

/-- The numbers are read as dates that exist. -/
structure Date.Bounds (first last : UInt32) (start stop : Date) : Prop where
  start_valid : start.Valid
  start_ymd : start.ymd = first.toNat
  stop_valid : stop.Valid
  stop_ymd : stop.ymd = last.toNat

theorem Date.bounds_iff {first last : UInt32} {start stop : Date} :
    Bounds first last start stop ↔
      ofYmd? first.toNat = some start ∧ ofYmd? last.toNat = some stop := by
  rw [ofYmd?_eq_some_iff, ofYmd?_eq_some_iff]
  constructor
  · rintro ⟨hstart, hfirst, hstop, hlast⟩
    exact ⟨⟨hstart, hfirst⟩, hstop, hlast⟩
  · rintro ⟨⟨hstart, hfirst⟩, hstop, hlast⟩
    exact ⟨hstart, hfirst, hstop, hlast⟩

namespace PlacedInterval

/-- The interval gives a symbol to the instrument on the day. -/
structure Names (inverse : Bool) (day : Date) (n : UInt32) (x : PlacedInterval) : Prop where
  symbol : x.interval.symbol ≠ ""
  number : Text.uint32? (x.instrument inverse) = some n
  lasts : ∃ start stop, Date.Bounds x.interval.first x.interval.last start stop ∧
    ¬ day.Before start ∧ day.Before stop

/-- The last of the intervals that name the instrument on the day gives it this symbol. -/
def NamesLast (inverse : Bool) (day : Date) (n : UInt32) (xs : List PlacedInterval)
    (symbol : String) : Prop :=
  ∃ before x after, xs = before ++ x :: after ∧ x.Names inverse day n ∧ x.name inverse = symbol ∧
    ∀ y ∈ after, ¬ y.Names inverse day n

variable {inverse : Bool} {day : Date} {n : UInt32} {x : PlacedInterval}
  {xs : List PlacedInterval} {symbol : String}

/-- Only if no later interval names the instrument does it matter what an earlier one does. -/
theorem namesLast_cons : NamesLast inverse day n (x :: xs) symbol ↔
    NamesLast inverse day n xs symbol ∨
      (∀ y ∈ xs, ¬ y.Names inverse day n) ∧ x.Names inverse day n ∧ x.name inverse = symbol := by
  constructor
  · rintro ⟨before, y, after, hxs, hnames, hname, hafter⟩
    cases before with
    | nil =>
      obtain ⟨rfl, rfl⟩ := List.cons.inj hxs
      exact .inr ⟨hafter, hnames, hname⟩
    | cons z before =>
      obtain ⟨rfl, rfl⟩ := List.cons.inj hxs
      exact .inl ⟨before, y, after, rfl, hnames, hname, hafter⟩
  · rintro (⟨before, y, after, rfl, hnames, hname, hafter⟩ | ⟨hxs, hnames, hname⟩)
    · exact ⟨x :: before, y, after, rfl, hnames, hname, hafter⟩
    · exact ⟨[], x, xs, rfl, hnames, hname, hxs⟩

theorem exists_namesLast_iff :
    (∃ symbol, NamesLast inverse day n xs symbol) ↔ ∃ x ∈ xs, x.Names inverse day n := by
  constructor
  · rintro ⟨symbol, before, x, after, rfl, hnames, -⟩
    exact ⟨x, List.mem_append_right before List.mem_cons_self, hnames⟩
  · intro h
    induction xs with
    | nil => simp at h
    | cons x xs ih =>
      by_cases hlater : ∃ y ∈ xs, y.Names inverse day n
      · obtain ⟨symbol, hlast⟩ := ih hlater
        exact ⟨symbol, namesLast_cons.2 (.inl hlast)⟩
      · have hnone : ∀ y ∈ xs, ¬ y.Names inverse day n := fun y hy hnames =>
          hlater ⟨y, hy, hnames⟩
        have hnames : x.Names inverse day n := by simpa [hlater] using h
        exact ⟨_, namesLast_cons.2 (.inr ⟨hnone, hnames, rfl⟩)⟩

end PlacedInterval

namespace DatedSymbols

variable {s t : DatedSymbols} {m : Metadata} {inverse : Bool} {day : Date} {n : UInt32}
  {x : PlacedInterval} {xs : List PlacedInterval} {a : Assignment} {symbol : String}

/-! ## One insertion -/

/-- An insertion succeeds if its dates exist and are in order. -/
theorem exists_run_insert_iff {first last : UInt32} :
    (∃ t, EStateM.run (insert n first last symbol) s = .ok () t) ↔
      ∃ start stop, Date.Bounds first last start stop ∧ ¬ stop.Before start := by
  constructor
  · rintro ⟨t, h⟩
    obtain ⟨start, stop, hstart, hstop, hordered, -⟩ := run_insert_eq_ok.1 h
    have hbounds := Date.bounds_iff.2 ⟨date_eq_ok.1 hstart, date_eq_ok.1 hstop⟩
    refine ⟨start, stop, hbounds, ?_⟩
    rw [Date.before_iff hbounds.stop_valid hbounds.start_valid]
    omega
  · rintro ⟨start, stop, hbounds, hordered⟩
    rw [Date.before_iff hbounds.stop_valid hbounds.start_valid, Nat.not_lt] at hordered
    obtain ⟨hstart, hstop⟩ := Date.bounds_iff.1 hbounds
    exact ⟨_, run_insert_eq_ok.2
      ⟨start, stop, date_eq_ok.2 hstart, date_eq_ok.2 hstop, hordered, rfl⟩⟩

theorem get?_put_range {start stop : Date} (hstart : start.Valid) (hstop : stop.Valid)
    (s : DatedSymbols) (n : UInt32) (symbol : String) (day : Date) (other : UInt32) :
    (s.put n symbol (Date.range start stop)).get? day other =
      if other = n ∧ day.Valid ∧ ¬ day.Before start ∧ day.Before stop then some symbol
      else s.get? day other := by
  rw [get?_put]
  simp only [Date.mem_range_iff hstart hstop, @eq_comm _ n]

theorem get?_insert {first last : UInt32} {start stop : Date}
    (h : EStateM.run (insert n first last symbol) s = .ok () t)
    (hbounds : Date.Bounds first last start stop) (day : Date) (other : UInt32) :
    t.get? day other =
      if other = n ∧ day.Valid ∧ ¬ day.Before start ∧ day.Before stop then some symbol
      else s.get? day other := by
  obtain ⟨start', stop', hstart', hstop', -, rfl⟩ := run_insert_eq_ok.1 h
  obtain ⟨hstart, hstop⟩ := Date.bounds_iff.1 hbounds
  obtain rfl : start' = start := Option.some.inj ((date_eq_ok.1 hstart').symm.trans hstart)
  obtain rfl : stop' = stop := Option.some.inj ((date_eq_ok.1 hstop').symm.trans hstop)
  exact get?_put_range hbounds.start_valid hbounds.stop_valid s n symbol day other

theorem date_error_ne_overflow {ymd : UInt32} {e : Error} (h : date ymd = .error e) (day : Date) :
    e ≠ .symbolMap (.dateOverflow day) := by
  rw [date] at h
  rintro rfl
  cases hymd : Date.ofYmd? ymd.toNat <;> simp [hymd] at h

/-- Whether an insertion fails does not depend on the map, and one that fails leaves the map as it
is.  The days never run out. -/
theorem run_insert_cases (n first last : UInt32) (symbol : String) :
    (∃ e, (∀ s, EStateM.run (insert n first last symbol) s = .error e s) ∧
      ∀ day, e ≠ .symbolMap (.dateOverflow day)) ∨
    ∃ start stop, ∀ s, EStateM.run (insert n first last symbol) s =
      .ok () (s.put n symbol (Date.range start stop)) := by
  simp only [run_insert]
  cases hstart : date first with
  | error e => exact .inl ⟨e, fun _ => rfl, date_error_ne_overflow hstart⟩
  | ok start =>
    cases hstop : date last with
    | error e => exact .inl ⟨e, fun _ => rfl, date_error_ne_overflow hstop⟩
    | ok stop =>
      by_cases hreversed : stop.dayNumber < start.dayNumber
      · exact .inl ⟨_, fun _ => if_pos hreversed, fun day => by simp⟩
      · exact .inr ⟨start, stop, fun _ => if_neg hreversed⟩

theorem run_insert_eq_error {first last : UInt32} {e : Error}
    (h : EStateM.run (insert n first last symbol) s = .error e t) :
    t = s ∧ (∀ u, EStateM.run (insert n first last symbol) u = .error e u) ∧
      ∀ day, e ≠ .symbolMap (.dateOverflow day) := by
  obtain ⟨e', hfails, hdays⟩ | ⟨start, stop, hok⟩ := run_insert_cases n first last symbol
  · rw [hfails] at h
    injection h with he ht
    subst he ht
    exact ⟨rfl, hfails, hdays⟩
  · rw [hok] at h
    cases h

/-! ## The intervals of metadata -/

/-- An interval that is entered changes what it names, and nothing else. -/
theorem get?_assign (hx : x.assignment? inverse = some a)
    (h : EStateM.run (assign a) s = .ok () t) (hday : day.Valid) (n : UInt32) :
    (x.Names inverse day n → t.get? day n = some (x.name inverse)) ∧
      (¬ x.Names inverse day n → t.get? day n = s.get? day n) := by
  obtain ⟨hsymbol, rfl⟩ := PlacedInterval.assignment?_eq_some.1 hx
  obtain ⟨n', start, stop, hnumber, hlasts, rfl⟩ := run_assign_eq_ok.1 h
  have hbounds : Date.Bounds x.interval.first x.interval.last start stop :=
    Date.bounds_iff.2 ⟨hlasts.first, hlasts.last⟩
  have hget := get?_put_range hbounds.start_valid hbounds.stop_valid s n' (x.name inverse) day n
  have hread := Assignment.number_eq_ok.1 hnumber
  constructor
  · rintro ⟨-, hn, start', stop', hbounds', hafter, hbefore⟩
    obtain rfl : n' = n := Option.some.inj (hread.symm.trans hn)
    obtain ⟨hstart', hstop'⟩ := Date.bounds_iff.1 hbounds'
    obtain rfl : start = start' := Option.some.inj (hlasts.first.symm.trans hstart')
    obtain rfl : stop = stop' := Option.some.inj (hlasts.last.symm.trans hstop')
    rw [hget, if_pos ⟨rfl, hday, hafter, hbefore⟩]
  · intro hnot
    rw [hget, if_neg]
    rintro ⟨rfl, -, hafter, hbefore⟩
    exact hnot ⟨hsymbol, hread, start, stop, hbounds, hafter, hbefore⟩

theorem not_names_of_none (hx : x.assignment? inverse = none) : ¬ x.Names inverse day n :=
  fun h => h.symbol (PlacedInterval.assignment?_eq_none.1 hx)

/-- Intervals that are entered one after the other give what the last of them says, and leave
what none of them says. -/
theorem get?_intervals
    (h : EStateM.run ((xs.filterMap (PlacedInterval.assignment? inverse)).forM assign) s = .ok () t)
    (hday : day.Valid) (n : UInt32) (symbol : String) :
    t.get? day n = some symbol ↔
      PlacedInterval.NamesLast inverse day n xs symbol ∨
        (∀ x ∈ xs, ¬ x.Names inverse day n) ∧ s.get? day n = some symbol := by
  induction xs generalizing s with
  | nil =>
    injection h with _ hs
    subst hs
    simp [PlacedInterval.NamesLast]
  | cons x xs ih =>
    rw [PlacedInterval.namesLast_cons, List.forall_mem_cons]
    cases hx : x.assignment? inverse with
    | none =>
      have hnot : ¬ x.Names inverse day n := not_names_of_none hx
      rw [List.filterMap_cons_none hx] at h
      rw [ih h]
      simp [hnot]
    | some a =>
      rw [List.filterMap_cons_some hx] at h
      obtain ⟨u, ha, hrest⟩ := run_forM_eq_ok.1 h
      obtain ⟨hnamed, hother⟩ := get?_assign hx ha hday n
      rw [ih hrest]
      by_cases hnames : x.Names inverse day n
      · rw [hnamed hnames]
        simp [hnames]
      · rw [hother hnames]
        simp [hnames]

/-- Assignments can be entered, whatever the map holds, if each of them has an instrument and dates
in order. -/
theorem exists_run_assignments {as : List Assignment} (s : DatedSymbols)
    (h : ∀ a ∈ as, ∃ n start stop, a.number = .ok n ∧ a.Lasts start stop) :
    ∃ t, EStateM.run (as.forM assign) s = .ok () t := by
  induction as generalizing s with
  | nil => exact ⟨s, rfl⟩
  | cons a as ih =>
    obtain ⟨⟨n, start, stop, hn, hlasts⟩, hmore⟩ := List.forall_mem_cons.1 h
    obtain ⟨t, ht⟩ := ih (s.put n a.symbol (Date.range start stop)) hmore
    exact ⟨t, run_forM_eq_ok.2 ⟨_, run_assign_eq_ok.2 ⟨n, start, stop, hn, hlasts, rfl⟩, ht⟩⟩

theorem get?_intervals_empty
    (h : EStateM.run ((xs.filterMap (PlacedInterval.assignment? inverse)).forM assign) empty =
      .ok () t) (hday : day.Valid) (n : UInt32) :
    (∀ symbol, t.get? day n = some symbol ↔ PlacedInterval.NamesLast inverse day n xs symbol) ∧
      (t.get? day n = none ↔ ∀ x ∈ xs, ¬ x.Names inverse day n) := by
  have hsome (symbol : String) :
      t.get? day n = some symbol ↔ PlacedInterval.NamesLast inverse day n xs symbol := by
    rw [get?_intervals h hday n symbol, get?_empty]
    simp
  refine ⟨hsome, ?_⟩
  rw [Option.eq_none_iff_forall_ne_some]
  simp only [ne_eq, hsome, ← not_exists, PlacedInterval.exists_namesLast_iff]
  simp only [not_exists, not_and]

theorem get?_ofMetadata (hs : ofMetadata m = .ok s) :
    ∃ inverse, m.isInverse = .ok inverse ∧ ∀ day, day.Valid → ∀ n,
      (∀ symbol, s.get? day n = some symbol ↔
        PlacedInterval.NamesLast inverse day n m.intervals symbol) ∧
      (s.get? day n = none ↔ ∀ x ∈ m.intervals, ¬ x.Names inverse day n) := by
  obtain ⟨inverse, hinverse, h⟩ := ofMetadata_eq_ok.1 hs
  rw [Metadata.assignments_eq] at h
  exact ⟨inverse, hinverse, fun day hday n => get?_intervals_empty h hday n⟩

/-- A map of metadata answers by their intervals, at a timestamp as on the day in which it lies.  An
insertion changes its stretch and nothing else, or fails and changes nothing; the calendar does not
end on its way. -/
theorem answers_by_interval :
    (∀ (m : Metadata) (s : DatedSymbols), ofMetadata m = .ok s →
      ∃ inverse, m.isInverse = .ok inverse ∧ ∀ day, day.Valid → ∀ n,
        (∀ symbol, s.get? day n = some symbol ↔
          PlacedInterval.NamesLast inverse day n m.intervals symbol) ∧
        (s.get? day n = none ↔ ∀ x ∈ m.intervals, ¬ x.Names inverse day n)) ∧
    (∀ (s : DatedSymbols) (ts : UInt64) (n : UInt32), ts ≠ Timestamp.undefined →
      ∃ day, Date.after? ⟨1970, 1, 1⟩ (ts.toNat / 86400000000000) = some day ∧ day.Valid ∧
        s.getAt? ts n = s.get? day n) ∧
    ∀ (s : DatedSymbols) (n first last : UInt32) (symbol : String),
      ((∃ t, EStateM.run (insert n first last symbol) s = .ok () t) ↔
        ∃ start stop, Date.Bounds first last start stop ∧ ¬ stop.Before start) ∧
      (∀ t start stop, EStateM.run (insert n first last symbol) s = .ok () t →
        Date.Bounds first last start stop → ∀ day other, t.get? day other =
          if other = n ∧ day.Valid ∧ ¬ day.Before start ∧ day.Before stop then some symbol
          else s.get? day other) ∧
      ∀ e t, EStateM.run (insert n first last symbol) s = .error e t →
        t = s ∧ ∀ day, e ≠ .symbolMap (.dateOverflow day) := by
  refine ⟨fun m s hs => get?_ofMetadata hs, fun s ts n hts => ?_, fun s n first last symbol => ?_⟩
  · refine ⟨Timestamp.date ts, Timestamp.after?_epoch ts, Timestamp.valid_date ts, ?_⟩
    rw [getAt?, if_neg hts]
  · refine ⟨exists_run_insert_iff, fun _ _ _ h hbounds => get?_insert h hbounds, fun e t h => ?_⟩
    obtain ⟨ht, -, hdays⟩ := run_insert_eq_error h
    exact ⟨ht, hdays⟩

/-- Three days around a leap day, on which the instrument has another symbol. -/
theorem answers_by_interval_leap :
    let m : Metadata := ⟨.v2, "GLBX.MDP3", some .ohlcv1d, 1709078400000000000,
      1709337600000000000, 0, some .instrumentId, .rawSymbol, false, ["5482"], [], [],
      [⟨"5482", [⟨20240228, 20240302, "ESH4"⟩, ⟨20240229, 20240301, "ESM4"⟩,
        ⟨20240229, 20240301, ""⟩]⟩]⟩
    ∃ s, ofMetadata m = .ok s ∧ s.get? ⟨2024, 2, 29⟩ 5482 = some "ESM4" ∧
      s.getAt? 1709208000000000000 5482 = some "ESM4" ∧ s.get? ⟨2024, 2, 29⟩ 5483 = none ∧
      ∃ t, EStateM.run (insert 5482 20240302 20240303 "ESU4") s = .ok () t ∧
        t.get? ⟨2024, 3, 2⟩ 5482 = some "ESU4" ∧ t.get? ⟨2024, 2, 29⟩ 5482 = some "ESM4" := by
  intro m
  let outer : PlacedInterval := ⟨m.mappings[0], ⟨20240228, 20240302, "ESH4"⟩⟩
  let inner : PlacedInterval := ⟨m.mappings[0], ⟨20240229, 20240301, "ESM4"⟩⟩
  let blank : PlacedInterval := ⟨m.mappings[0], ⟨20240229, 20240301, ""⟩⟩
  have hintervals : m.intervals = [outer, inner, blank] := rfl
  have hall : m.assignments true =
      [⟨"5482", "ESH4", 20240228, 20240302⟩, ⟨"5482", "ESM4", 20240229, 20240301⟩] := by decide
  obtain ⟨s, hs⟩ : ∃ s, EStateM.run ((m.assignments true).forM assign) empty = .ok () s := by
    refine exists_run_assignments empty ?_
    rw [hall]
    simp only [List.forall_mem_cons]
    exact ⟨⟨5482, ⟨2024, 2, 28⟩, ⟨2024, 3, 2⟩, by decide, by decide, by decide, by decide⟩,
      ⟨5482, ⟨2024, 2, 29⟩, ⟨2024, 3, 1⟩, by decide, by decide, by decide, by decide⟩, nofun⟩
  have hmap : ofMetadata m = .ok s := ofMetadata_eq_ok.2 ⟨true, by decide, hs⟩
  obtain ⟨hfilled, hat, hinserted⟩ := answers_by_interval
  obtain ⟨inverse, hinverse, hanswers⟩ := hfilled m s hmap
  obtain rfl : true = inverse := Except.ok.inj hinverse
  have hblank (day : Date) : ¬ blank.Names true day 5482 := fun h => h.symbol rfl
  have hleap : s.get? ⟨2024, 2, 29⟩ 5482 = some "ESM4" := by
    refine ((hanswers ⟨2024, 2, 29⟩ (by decide) 5482).1 "ESM4").2 ⟨[outer], inner, [blank],
      hintervals, ⟨by decide, by decide, ⟨2024, 2, 29⟩, ⟨2024, 3, 1⟩, ?_, by decide, by decide⟩, rfl, ?_⟩
    · exact ⟨by decide, by decide, by decide, by decide⟩
    · simpa using hblank _
  have hother : s.get? ⟨2024, 2, 29⟩ 5483 = none := by
    refine (hanswers ⟨2024, 2, 29⟩ (by decide) 5483).2.2 ?_
    rw [hintervals]
    simp only [List.forall_mem_cons]
    exact ⟨fun h => absurd h.number (by decide), fun h => absurd h.number (by decide),
      fun h => absurd h.number (by decide), nofun⟩
  obtain ⟨hinsert, hchanged, -⟩ := hinserted s 5482 20240302 20240303 "ESU4"
  have hbounds : Date.Bounds 20240302 20240303 ⟨2024, 3, 2⟩ ⟨2024, 3, 3⟩ := by
    exact ⟨by decide, by decide, by decide, by decide⟩
  obtain ⟨t, ht⟩ := hinsert.2 ⟨_, _, hbounds, by decide⟩
  have hchange := hchanged t _ _ ht hbounds
  refine ⟨s, hmap, hleap, ?_, hother, t, ht, ?_, ?_⟩
  · obtain ⟨day, hday, -, hsame⟩ := hat s 1709208000000000000 5482 (by decide)
    have hdate : Timestamp.date 1709208000000000000 = ⟨2024, 2, 29⟩ := by decide
    rw [Timestamp.after?_epoch, hdate] at hday
    obtain rfl : ⟨2024, 2, 29⟩ = day := Option.some.inj hday
    exact hsame.trans hleap
  · rw [hchange, if_pos (by decide)]
  · rw [hchange, if_neg (by decide), hleap]

end DatedSymbols
end TickStream
