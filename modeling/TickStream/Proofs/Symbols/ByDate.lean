import TickStream.Proofs.Calendar
import TickStream.Proofs.Step
import TickStream.Symbols.ByDate
/-
What an assignment does to the symbols of instruments day by day.  Main statement: it is entered
exactly when its instrument is a number, its dates exist and they are in order, and then it
settles the symbol of that instrument on the days from its first date up to its last.  The calendar
never ends on the way from one date to a later one.
-/
namespace TickStream

open Step

namespace Assignment

variable {a : Assignment} {n : UInt32}

/-- The dates are those of the assignment, and in order. -/
structure Lasts (a : Assignment) (start stop : Date) : Prop where
  first : Date.ofYmd? a.first.toNat = some start
  last : Date.ofYmd? a.last.toNat = some stop
  ordered : start.dayNumber ≤ stop.dayNumber

end Assignment

namespace DatedSymbols

variable {s t : DatedSymbols} {a : Assignment}

theorem date_eq_ok {ymd : UInt32} {d : Date} :
    date ymd = .ok d ↔ Date.ofYmd? ymd.toNat = some d := by
  rw [date]
  cases Date.ofYmd? ymd.toNat <;> simp

/-- Going from day to day ends at the last date, and enters every day on the way. -/
theorem run_enter {n : UInt32} {symbol : String} {start stop : Date} (hstart : start.Valid)
    (hstop : stop.Valid) : EStateM.run (enter n symbol start stop) s =
      .ok () (s.put n symbol (Date.range start stop)) := by
  -- The induction is on the days that are left.
  induction hleft : stop.dayNumber - start.dayNumber generalizing s start with
  | zero =>
    have hdone : ¬ start.dayNumber < stop.dayNumber := by omega
    rw [enter, if_neg hdone, Date.range_eq_nil (Nat.le_of_not_lt hdone)]
    rfl
  | succ left ih =>
    have hbefore : start.dayNumber < stop.dayNumber := by omega
    have hlast := Date.le_lastDay hstop
    obtain ⟨next, hnext, hvalid, hday⟩ := Date.exists_next hstart (Nat.lt_of_lt_of_le hbefore hlast)
    rw [enter, if_pos hbefore, run_modify_bind, Date.range_eq_cons hstart hbefore hday]
    split
    · rename_i d hd
      rw [hnext] at hd
      injection hd with hd
      subst hd
      exact ih hvalid (by omega)
    · rename_i hnone
      rw [hnext] at hnone
      exact absurd hnone (by simp)

/-- Every way in which an insertion ends: with what it has entered, or with a map that it has not
touched. -/
theorem run_insert (n first last : UInt32) (symbol : String) (s : DatedSymbols) :
    EStateM.run (insert n first last symbol) s =
      match date first, date last with
      | .error e, _ => .error e s
      | .ok _, .error e => .error e s
      | .ok start, .ok stop =>
        if stop.dayNumber < start.dayNumber then .error (.symbolMap (.reversed first last)) s
        else .ok () (s.put n symbol (Date.range start stop)) := by
  rw [insert]
  cases hstart : date first with
  | error e => exact bind_error (run_ofExcept_error rfl s)
  | ok start =>
    rw [bind_ok (run_ofExcept_ok rfl s)]
    cases hstop : date last with
    | error e => exact bind_error (run_ofExcept_error rfl s)
    | ok stop =>
      rw [bind_ok (run_ofExcept_ok rfl s)]
      have hrun : EStateM.run (enter n symbol start stop) s =
          .ok () (s.put n symbol (Date.range start stop)) :=
        run_enter (Date.valid_of_ofYmd? (date_eq_ok.1 hstart))
          (Date.valid_of_ofYmd? (date_eq_ok.1 hstop))
      by_cases hreversed : stop.dayNumber < start.dayNumber
      · simp only [if_pos hreversed]
        rfl
      · simp only [if_neg hreversed]
        exact hrun

theorem run_insert_eq_ok {n first last : UInt32} {symbol : String} :
    EStateM.run (insert n first last symbol) s = .ok () t ↔
      ∃ start stop, date first = .ok start ∧ date last = .ok stop ∧
        start.dayNumber ≤ stop.dayNumber ∧ t = s.put n symbol (Date.range start stop) := by
  rw [run_insert]
  cases date first with
  | error e => simp
  | ok start =>
    cases date last with
    | error e => simp
    | ok stop =>
      by_cases hreversed : stop.dayNumber < start.dayNumber
      · simp [hreversed]
      · simp [hreversed, Nat.le_of_not_lt hreversed, eq_comm]

theorem run_assign_eq_ok :
    EStateM.run (assign a) s = .ok () t ↔
      ∃ n start stop, a.number = .ok n ∧ a.Lasts start stop ∧
        t = s.put n a.symbol (Date.range start stop) := by
  rw [assign, run_bind_eq_ok]
  constructor
  · rintro ⟨n, s₁, hread, h⟩
    obtain ⟨hn, rfl⟩ := run_ofExcept_eq_ok.1 hread
    obtain ⟨start, stop, hstart, hstop, hordered, rfl⟩ := run_insert_eq_ok.1 h
    exact ⟨n, start, stop, hn, ⟨date_eq_ok.1 hstart, date_eq_ok.1 hstop, hordered⟩, rfl⟩
  · rintro ⟨n, start, stop, hn, ⟨hstart, hstop, hordered⟩, rfl⟩
    refine ⟨n, s, run_ofExcept_ok hn s, run_insert_eq_ok.2 ?_⟩
    exact ⟨start, stop, date_eq_ok.2 hstart, date_eq_ok.2 hstop, hordered, rfl⟩

/-- A map is made of metadata by entering all their assignments, one after the other. -/
theorem ofMetadata_eq_ok {m : Metadata} :
    ofMetadata m = .ok s ↔ ∃ inverse, m.isInverse = .ok inverse ∧
      EStateM.run ((m.assignments inverse).forM assign) empty = .ok () s := by
  have hrun : EStateM.run (fill m) empty = EStateM.run (do
      let inverse ← ofExcept m.isInverse
      (m.assignments inverse).forM assign) empty := rfl
  have hof : ofMetadata m = .ok s ↔ EStateM.run (fill m) empty = .ok () s := by
    show _ ↔ fill m empty = .ok () s
    rw [ofMetadata]
    cases fill m empty <;> simp
  rw [hof, hrun, run_bind_eq_ok]
  constructor
  · rintro ⟨inverse, t, hread, h⟩
    obtain ⟨hinverse, rfl⟩ := run_ofExcept_eq_ok.1 hread
    exact ⟨inverse, hinverse, h⟩
  · rintro ⟨inverse, hinverse, h⟩
    exact ⟨inverse, empty, run_ofExcept_ok hinverse empty, h⟩

end DatedSymbols
end TickStream
