import TickStream.Proofs.Symbols.History
import TickStream.Proofs.Symbols.Intervals
/-
What a filling that fails leaves behind.  Main statement: if the metadata or the timestamp is
refused, the map of present symbols is left alone, and the map by days is empty; and both maps, if
they fail at one of the mappings, have lost what was in them and hold what the mappings in front
of that one say.
-/
namespace TickStream

open Step

namespace CurrentSymbols

variable {s t : CurrentSymbols} {m : Metadata} {ts : UInt64} {e : Error} {inverse : Bool}
  {a : Assignment} {as : List Assignment}

theorem run_assign_eq_error :
    EStateM.run (assign a) s = .error e t ↔ a.number = .error e ∧ t = s := by
  rw [assign]
  cases hn : a.number with
  | error e' =>
    rw [bind_error (run_ofExcept_error rfl s)]
    simp [eq_comm]
  | ok n =>
    have hput : EStateM.run (modify fun s => s.put n a.symbol : Edit Unit) s =
        .ok () (s.put n a.symbol) := rfl
    rw [bind_ok (run_ofExcept_ok rfl s), hput]
    simp

/-- A filling refused for its metadata or for its timestamp changes nothing. -/
theorem eq_of_refused (h : EStateM.run (fill m ts) s = .error e t)
    (hrefused : m.isInverse.isOk = false ∨ inQuery m ts = false) : t = s := by
  cases hinverse : m.isInverse with
  | error e' =>
    rw [fill, bind_error (run_ofExcept_error hinverse s)] at h
    injection h with _ ht
    exact ht.symm
  | ok inverse =>
    have hquery : inQuery m ts = false := by
      refine hrefused.resolve_left ?_
      rw [hinverse]
      exact Bool.noConfusion
    rw [run_fill_outside hinverse hquery] at h
    injection h with _ ht
    exact ht.symm

/-- The map holds what the assignments say, and nothing else: who got which symbol last. -/
structure Holds (t : CurrentSymbols) (entered : List Assignment) : Prop where
  run : EStateM.run (entered.forM assign) empty = .ok () t
  get? : ∀ n, t.get? n = lastSymbol? (named entered) n
  instrument? : ∀ symbol n, t.instrument? symbol = some n ↔
    lastOwner? (named entered) symbol = some n ∧ lastSymbol? (named entered) n = some symbol

theorem holds_of_run (h : EStateM.run (as.forM assign) empty = .ok () t) : t.Holds as := by
  have hended := ended_assignments as empty
  rw [ended, h] at hended
  have ht : t = empty.after (named as) := hended
  refine ⟨h, fun n => ?_, fun symbol n => ?_⟩
  · rw [ht, get?_after]
  · rw [ht, instrument?_after]

/-- A filling that fails later has lost what was in the map, and holds what it has entered. -/
theorem holds_of_failed (hinverse : m.isInverse = .ok inverse) (hquery : inQuery m ts = true)
    (h : EStateM.run (fill m ts) s = .error e t) :
    ∃ entered bad rest,
      (m.assignments inverse).filter (holdsOn (Timestamp.ymd ts)) = entered ++ bad :: rest ∧
        bad.number = .error e ∧ t.Holds entered := by
  rw [run_fill hinverse hquery] at h
  obtain ⟨entered, bad, rest, u, hsplit, hentered, hbad⟩ := run_forM_eq_error.1 h
  obtain ⟨hnumber, rfl⟩ := run_assign_eq_error.1 hbad
  exact ⟨entered, bad, rest, hsplit, hnumber, holds_of_run hentered⟩

end CurrentSymbols

namespace DatedSymbols

variable {s t u : DatedSymbols} {m : Metadata} {e : Error} {inverse : Bool} {a : Assignment}

theorem run_fill (hinverse : m.isInverse = .ok inverse) (s : DatedSymbols) :
    EStateM.run (fill m) s = EStateM.run ((m.assignments inverse).forM assign) empty := by
  show EStateM.run (ofExcept m.isInverse >>= fun inverse => (m.assignments inverse).forM assign)
    empty = _
  rw [bind_ok (run_ofExcept_ok hinverse empty)]

theorem run_fill_refused (hinverse : m.isInverse = .error e) (s : DatedSymbols) :
    EStateM.run (fill m) s = .error e empty := by
  show EStateM.run (ofExcept m.isInverse >>= fun inverse => (m.assignments inverse).forM assign)
    empty = _
  rw [bind_error (run_ofExcept_error hinverse empty)]

/-- Metadata that are refused leave an empty map. -/
theorem eq_empty_of_refused (h : EStateM.run (fill m) s = .error e t)
    (hrefused : m.isInverse.isOk = false) : t = empty := by
  cases hinverse : m.isInverse with
  | ok inverse =>
    rw [hinverse] at hrefused
    cases hrefused
  | error e' =>
    rw [run_fill_refused hinverse] at h
    injection h with _ ht
    exact ht.symm

/-- An assignment that cannot be entered fails in the same way whatever the map holds, and leaves
the map. -/
theorem run_assign_eq_error (h : EStateM.run (assign a) s = .error e t) :
    t = s ∧ ∀ u, EStateM.run (assign a) u = .error e u := by
  rw [assign] at h
  simp only [assign]
  cases hn : a.number with
  | error e' =>
    rw [hn, bind_error (run_ofExcept_error rfl s)] at h
    injection h with he ht
    subst he
    exact ⟨ht.symm, fun u => bind_error (run_ofExcept_error rfl u)⟩
  | ok n =>
    rw [hn, bind_ok (run_ofExcept_ok rfl s)] at h
    obtain ⟨ht, hfails, -⟩ := run_insert_eq_error h
    refine ⟨ht, fun u => ?_⟩
    rw [bind_ok (run_ofExcept_ok rfl u)]
    exact hfails u

/-- The map answers by these intervals and by nothing else. -/
structure Holds (t : DatedSymbols) (inverse : Bool) (entered : List PlacedInterval) : Prop where
  run : EStateM.run
    ((entered.filterMap (PlacedInterval.assignment? inverse)).forM assign) empty = .ok () t
  get? : ∀ day, day.Valid → ∀ n symbol, t.get? day n = some symbol ↔
    PlacedInterval.NamesLast inverse day n entered symbol

/-- A filling that fails at an interval has lost what was in the map, and holds what the intervals
in front of that one say. -/
theorem holds_of_failed (hinverse : m.isInverse = .ok inverse)
    (h : EStateM.run (fill m) s = .error e t) :
    ∃ entered x bad rest, m.intervals = entered ++ x :: rest ∧ x.assignment? inverse = some bad ∧
      (∀ u, EStateM.run (assign bad) u = .error e u) ∧ t.Holds inverse entered := by
  rw [run_fill hinverse, Metadata.assignments_eq] at h
  obtain ⟨before, bad, after, u, hsplit, hbefore, hbad⟩ := run_forM_eq_error.1 h
  obtain ⟨rfl, hfails⟩ := run_assign_eq_error hbad
  -- Intervals without a symbol may stand between the last one entered and the bad one.
  obtain ⟨front, back, hintervals, rfl, hback⟩ := List.filterMap_eq_append_iff.1 hsplit
  obtain ⟨blanks, x, rest, rfl, hblank, hx, -⟩ := List.filterMap_eq_cons_iff.1 hback
  have hentered : (front ++ blanks).filterMap (PlacedInterval.assignment? inverse) =
      front.filterMap (PlacedInterval.assignment? inverse) := by
    rw [List.filterMap_append, List.filterMap_eq_nil_iff.2 hblank, List.append_nil]
  rw [← hentered] at hbefore
  refine ⟨front ++ blanks, x, bad, rest, ?_, hx, hfails, hbefore, fun day hday n symbol => ?_⟩
  · rw [hintervals, List.append_assoc]
  · exact (get?_intervals_empty hbefore hday n).1 symbol

end DatedSymbols

/-- What a filling that fails leaves behind, whatever was in the map. -/
theorem failed_fill :
    (∀ (s : CurrentSymbols) (m : Metadata) (ts : UInt64) (e : Error) (t : CurrentSymbols),
      EStateM.run (CurrentSymbols.fill m ts) s = .error e t →
        (m.isInverse.isOk = false ∨ CurrentSymbols.inQuery m ts = false → t = s) ∧
        ∀ inverse, m.isInverse = .ok inverse → CurrentSymbols.inQuery m ts = true →
          ∃ entered bad rest,
            (m.assignments inverse).filter (CurrentSymbols.holdsOn (Timestamp.ymd ts)) =
              entered ++ bad :: rest ∧ bad.number = .error e ∧ t.Holds entered) ∧
    ∀ (s : DatedSymbols) (m : Metadata) (e : Error) (t : DatedSymbols),
      EStateM.run (DatedSymbols.fill m) s = .error e t →
        (m.isInverse.isOk = false → t = DatedSymbols.empty ∧
          ∀ day n symbol, t.get? day n = some symbol → s.get? day n = some symbol) ∧
        ∀ inverse, m.isInverse = .ok inverse →
          ∃ entered x bad rest, m.intervals = entered ++ x :: rest ∧
            x.assignment? inverse = some bad ∧
            (∀ u, EStateM.run (DatedSymbols.assign bad) u = .error e u) ∧
            t.Holds inverse entered := by
  constructor
  · intro s m ts e t h
    exact ⟨CurrentSymbols.eq_of_refused h,
      fun inverse hinverse hquery => CurrentSymbols.holds_of_failed hinverse hquery h⟩
  · intro s m e t h
    refine ⟨fun hrefused => ?_, fun inverse hinverse => DatedSymbols.holds_of_failed hinverse h⟩
    have hempty := DatedSymbols.eq_empty_of_refused h hrefused
    refine ⟨hempty, fun day n symbol hget => ?_⟩
    rw [hempty, DatedSymbols.get?_empty] at hget
    cases hget

/-- Metadata with a mapping to no instrument behind one that is good. -/
def halfGood : Metadata :=
  ⟨.v2, "GLBX.MDP3", some .ohlcv1s, 1609160400000000000, 1609372800000000000, 0, some .rawSymbol,
    .instrumentId, false, ["ESH1", "NQH1"], [], [],
    [⟨"ESH1", [⟨20201228, 20201231, "5482"⟩]⟩, ⟨"NQH1", [⟨20201228, 20201231, "NQ"⟩]⟩]⟩

theorem isInverse_halfGood : halfGood.isInverse = .ok false := by decide

theorem assignments_halfGood : halfGood.assignments false =
    [⟨"5482", "ESH1", 20201228, 20201231⟩, ⟨"NQ", "NQH1", 20201228, 20201231⟩] := by decide

theorem run_fill_halfGood (s : DatedSymbols) : EStateM.run (DatedSymbols.fill halfGood) s =
    .error (.symbolMap (.badInstrument "NQ"))
      (DatedSymbols.empty.put 5482 "ESH1" (Date.range ⟨2020, 12, 28⟩ ⟨2020, 12, 31⟩)) := by
  have hfirst : EStateM.run (DatedSymbols.assign ⟨"5482", "ESH1", 20201228, 20201231⟩)
      DatedSymbols.empty = .ok () _ :=
    DatedSymbols.run_assign_eq_ok.2 ⟨5482, ⟨2020, 12, 28⟩, ⟨2020, 12, 31⟩, by decide,
      ⟨by decide, by decide, by decide⟩, rfl⟩
  rw [DatedSymbols.run_fill isInverse_halfGood s, assignments_halfGood, run_forM_ok hfirst]
  exact run_forM_error (bind_error (run_ofExcept_error (by decide) _))

theorem run_fill_halfGood_now (c : CurrentSymbols) :
    EStateM.run (CurrentSymbols.fill halfGood 1609245000000000000) c =
      .error (.symbolMap (.badInstrument "NQ")) (CurrentSymbols.empty.put 5482 "ESH1") := by
  have hall : (halfGood.assignments false).filter
      (CurrentSymbols.holdsOn (Timestamp.ymd 1609245000000000000)) = halfGood.assignments false := by
    decide
  have hfirst : EStateM.run (CurrentSymbols.assign ⟨"5482", "ESH1", 20201228, 20201231⟩)
      CurrentSymbols.empty = .ok () (CurrentSymbols.empty.put 5482 "ESH1") :=
    bind_ok (run_ofExcept_ok (by decide) _)
  rw [CurrentSymbols.run_fill isInverse_halfGood (by decide) c, hall, assignments_halfGood,
    run_forM_ok hfirst]
  exact run_forM_error (bind_error (run_ofExcept_error (by decide) _))

/-- Refused for a timestamp and for a naming, and failing at the second mapping. -/
theorem failed_fill_halfGood :
    let c := CurrentSymbols.empty.put 7 "OLD"
    let s := DatedSymbols.empty.put 7 "OLD" [⟨2020, 12, 28⟩]
    let m := { halfGood with stypeOut := .continuous }
    (∃ e t, EStateM.run (CurrentSymbols.fill halfGood 0) c = .error e t ∧
      t.get? 7 = some "OLD") ∧
    (∃ e t, EStateM.run (CurrentSymbols.fill halfGood 1609245000000000000) c = .error e t ∧
      ∃ entered bad rest, (halfGood.assignments false).filter
          (CurrentSymbols.holdsOn (Timestamp.ymd 1609245000000000000)) = entered ++ bad :: rest ∧
        bad.number = .error e ∧ t.Holds entered) ∧
    (∃ e t, EStateM.run (DatedSymbols.fill m) s = .error e t ∧ t = DatedSymbols.empty ∧
      ∀ symbol, t.get? ⟨2020, 12, 28⟩ 7 = some symbol → symbol = "OLD") ∧
    ∃ e t, EStateM.run (DatedSymbols.fill halfGood) s = .error e t ∧
      ∃ entered x bad rest, halfGood.intervals = entered ++ x :: rest ∧
        x.assignment? false = some bad ∧ t.Holds false entered := by
  intro c s m
  obtain ⟨hnow, hdated⟩ := failed_fill
  obtain ⟨t, hout⟩ : ∃ t, EStateM.run (CurrentSymbols.fill halfGood 0) c = .error _ t :=
    ⟨c, CurrentSymbols.run_fill_outside isInverse_halfGood (by decide) c⟩
  have hinverse : m.isInverse = .error (.symbolMap .noInstrumentSide) := by decide
  obtain ⟨u, hrefused⟩ : ∃ u, EStateM.run (DatedSymbols.fill m) s = .error _ u :=
    ⟨DatedSymbols.empty, DatedSymbols.run_fill_refused hinverse s⟩
  refine ⟨⟨_, t, hout, ?_⟩, ⟨_, _, run_fill_halfGood_now c, ?_⟩, ⟨_, u, hrefused, ?_⟩, _, _,
    run_fill_halfGood s, ?_⟩
  · rw [(hnow c halfGood 0 _ t hout).1 (.inr (by decide)), CurrentSymbols.get?_put, if_pos rfl]
  · exact (hnow c halfGood _ _ _ (run_fill_halfGood_now c)).2 false isInverse_halfGood (by decide)
  · obtain ⟨hempty, hnothing⟩ := (hdated s m _ u hrefused).1 (by decide)
    refine ⟨hempty, fun symbol hget => ?_⟩
    have hold := hnothing _ _ symbol hget
    rw [DatedSymbols.get?_put, if_pos (by decide)] at hold
    exact (Option.some.inj hold).symm
  · obtain ⟨entered, x, bad, rest, hintervals, hbad, -, hholds⟩ :=
      (hdated s halfGood _ _ (run_fill_halfGood s)).2 false isInverse_halfGood
    exact ⟨entered, x, bad, rest, hintervals, hbad, hholds⟩

/-- What was in both maps is lost when a filling fails. -/
theorem failed_fill_forgets :
    let name : SymbolMappingMessage := ⟨255, "OLD.FUT", 255, "OLD", 0, 18446744073709551615⟩
    let c := CurrentSymbols.empty.follow ⟨44, 22, 0, 7, 1609160400000000000⟩ name
    ∃ s, EStateM.run (DatedSymbols.insert 7 20201228 20201229 "OLD") DatedSymbols.empty = .ok () s ∧
      (∃ e t, EStateM.run (DatedSymbols.fill halfGood) s = .error e t ∧
        s.get? ⟨2020, 12, 28⟩ 7 = some "OLD" ∧ t.get? ⟨2020, 12, 28⟩ 7 = none) ∧
      ∃ e t, EStateM.run (CurrentSymbols.fill halfGood 1609245000000000000) c = .error e t ∧
        c.get? 7 = some "OLD" ∧ t.get? 7 = none := by
  intro name c
  have hbounds : Date.Bounds 20201228 20201229 ⟨2020, 12, 28⟩ ⟨2020, 12, 29⟩ := by
    exact ⟨by decide, by decide, by decide, by decide⟩
  obtain ⟨s, hs⟩ : ∃ s, EStateM.run (DatedSymbols.insert 7 20201228 20201229 "OLD")
      DatedSymbols.empty = .ok () s :=
    DatedSymbols.exists_run_insert_iff.2 ⟨_, _, hbounds, by decide⟩
  refine ⟨s, hs, ⟨_, _, run_fill_halfGood s, ?_, ?_⟩, _, _, run_fill_halfGood_now c, ?_, ?_⟩
  · rw [DatedSymbols.get?_insert hs hbounds, if_pos (by decide)]
  · rw [DatedSymbols.get?_put, if_neg (by decide), DatedSymbols.get?_empty]
  · show (CurrentSymbols.empty.put 7 "OLD").get? 7 = some "OLD"
    rw [CurrentSymbols.get?_put, if_pos rfl]
  · rw [CurrentSymbols.get?_put, if_neg (by decide), CurrentSymbols.get?_empty]

end TickStream
