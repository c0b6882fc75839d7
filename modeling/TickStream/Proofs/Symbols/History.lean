import Mathlib.Data.List.Induction
import TickStream.Proofs.Step
import TickStream.Proofs.Symbols.Placed
import TickStream.Symbols.Current
/-
The map of present symbols after any calls.  What the calls say is read off the calls alone: who
got which symbol, in order, since the map was last cleared.  Main statements: an instrument has
the symbol that it got last, and a symbol leads to the instrument that got it last, as long as
that instrument still has it and to none after that.

So a symbol that two instruments share is lost when the later of them gets another one: the
earlier one still has it, and the entry that led to it was overwritten.
-/
namespace TickStream

open Step

namespace CurrentSymbols

/-! ## Names in the order they are given -/

/-- An instrument gets a symbol. -/
structure Naming where
  instrument : UInt32
  symbol : String
  deriving DecidableEq, Repr

def lastSymbol? (ns : List Naming) (instrument : UInt32) : Option String :=
  (ns.reverse.find? fun n => n.instrument = instrument).map Naming.symbol

def lastOwner? (ns : List Naming) (symbol : String) : Option UInt32 :=
  (ns.reverse.find? fun n => n.symbol = symbol).map Naming.instrument

def after (s : CurrentSymbols) (ns : List Naming) : CurrentSymbols :=
  ns.foldl (fun s n => s.put n.instrument n.symbol) s

theorem lastSymbol?_concat (ns : List Naming) (n : Naming) (instrument : UInt32) :
    lastSymbol? (ns ++ [n]) instrument =
      if n.instrument = instrument then some n.symbol else lastSymbol? ns instrument := by
  rw [lastSymbol?, List.reverse_concat, List.find?_cons]
  by_cases h : n.instrument = instrument <;> simp [h, lastSymbol?]

theorem lastOwner?_concat (ns : List Naming) (n : Naming) (symbol : String) :
    lastOwner? (ns ++ [n]) symbol =
      if n.symbol = symbol then some n.instrument else lastOwner? ns symbol := by
  rw [lastOwner?, List.reverse_concat, List.find?_cons]
  by_cases h : n.symbol = symbol <;> simp [h, lastOwner?]

theorem after_concat (s : CurrentSymbols) (ns : List Naming) (n : Naming) :
    s.after (ns ++ [n]) = (s.after ns).put n.instrument n.symbol := by
  rw [after, after, List.foldl_append, List.foldl_cons, List.foldl_nil]

theorem get?_after (ns : List Naming) (instrument : UInt32) :
    (empty.after ns).get? instrument = lastSymbol? ns instrument := by
  induction ns using List.reverseRecOn with
  | nil => exact get?_empty instrument
  | append_singleton ns n ih => rw [after_concat, get?_put, lastSymbol?_concat, ih]

/-- A symbol is found as long as the instrument that got it last has it. -/
theorem instrument?_after (ns : List Naming) (symbol : String) (instrument : UInt32) :
    (empty.after ns).instrument? symbol = some instrument ↔
      lastOwner? ns symbol = some instrument ∧ lastSymbol? ns instrument = some symbol := by
  induction ns using List.reverseRecOn generalizing instrument with
  | nil =>
    rw [after, List.foldl_nil, instrument?_empty]
    simp [lastOwner?]
  | append_singleton ns n ih =>
    have howner := lastOwner?_concat ns n symbol
    have hsymbol := lastSymbol?_concat ns n instrument
    have hold := ih n.instrument
    rw [after_concat, instrument?_put, get?_after, howner, hsymbol]
    by_cases hnew : n.symbol = symbol
    · rw [if_pos hnew, if_pos hnew]
      grind
    · rw [if_neg hnew, if_neg hnew]
      by_cases hlost : lastSymbol? ns n.instrument = some symbol ∧
          (empty.after ns).instrument? symbol = some n.instrument
      · -- The instrument that got the symbol last gets another one: nothing leads to it now.
        have hlast := (hold.1 hlost.2).1
        rw [if_pos hlost, hlast]
        grind
      · rw [if_neg hlost, ih instrument]
        grind

/-! ## Filling -/

theorem inQuery_iff {m : Metadata} {ts : UInt64} :
    inQuery m ts = true ↔ m.start ≤ ts ∧ ∀ stop, m.stop? = some stop → ts < stop := by
  rw [inQuery, Bool.and_eq_true, decide_eq_true_iff, Option.all_eq_true]
  simp only [decide_eq_true_iff]

theorem run_fill {m : Metadata} {ts : UInt64} {inverse : Bool} (hinverse : m.isInverse = .ok inverse)
    (hquery : inQuery m ts = true) (c : CurrentSymbols) :
    EStateM.run (fill m ts) c = EStateM.run
      (((m.assignments inverse).filter (holdsOn (Timestamp.ymd ts))).forM assign) empty := by
  rw [fill, bind_ok (run_ofExcept_ok hinverse c)]
  show EStateM.run (if (!inQuery m ts) = true then _ else _) c = _
  rw [hquery]
  rfl

theorem run_fill_outside {m : Metadata} {ts : UInt64} {inverse : Bool}
    (hinverse : m.isInverse = .ok inverse) (hquery : inQuery m ts = false) (c : CurrentSymbols) :
    EStateM.run (fill m ts) c = .error (.symbolMap (.outsideQuery ts)) c := by
  rw [fill, bind_ok (run_ofExcept_ok hinverse c)]
  show EStateM.run (if (!inQuery m ts) = true then _ else _) c = _
  rw [hquery]
  rfl

/-- The map when an edit ends, also when it ends in a failure. -/
def ended (edit : Edit Unit) (s : CurrentSymbols) : CurrentSymbols :=
  match EStateM.run edit s with
  | .ok _ t => t
  | .error _ t => t

/-- What assignments name before one turns up whose instrument is no number. -/
def named : List Assignment → List Naming
  | [] => []
  | a :: as =>
    match a.number with
    | .ok n => ⟨n, a.symbol⟩ :: named as
    | .error _ => []

theorem ended_assignments (as : List Assignment) (s : CurrentSymbols) :
    ended (as.forM assign) s = s.after (named as) := by
  induction as generalizing s with
  | nil => rfl
  | cons a as ih =>
    rw [named]
    cases hn : a.number with
    | error e =>
      have hfails : EStateM.run (assign a) s = .error e s := bind_error (run_ofExcept_error hn s)
      rw [ended, run_forM_error hfails]
      rfl
    | ok n =>
      have hput : EStateM.run (assign a) s = .ok () (s.put n a.symbol) :=
        bind_ok (run_ofExcept_ok hn s)
      rw [ended, run_forM_ok hput]
      exact ih (s.put n a.symbol)

/-! ## Intervals in force -/

/-- The interval has a symbol, and the day lies in it. -/
def InForce (ymd : Nat) (x : PlacedInterval) : Prop :=
  x.interval.symbol ≠ "" ∧ x.interval.first.toNat ≤ ymd ∧ ymd < x.interval.last.toNat

instance (ymd : Nat) (x : PlacedInterval) : Decidable (InForce ymd x) :=
  inferInstanceAs (Decidable (_ ∧ _))

/-- Who gets which symbol from the intervals in force, before one turns up whose instrument is no
number. -/
def namedInForce (inverse : Bool) (ymd : Nat) : List PlacedInterval → List Naming
  | [] => []
  | x :: xs =>
    if InForce ymd x then
      match Text.uint32? (x.instrument inverse) with
      | some n => ⟨n, x.name inverse⟩ :: namedInForce inverse ymd xs
      | none => []
    else namedInForce inverse ymd xs

/-- A filling enters what the intervals in force say. -/
theorem named_filter (inverse : Bool) (ymd : Nat) (xs : List PlacedInterval) :
    named ((xs.filterMap (PlacedInterval.assignment? inverse)).filter (holdsOn ymd)) =
      namedInForce inverse ymd xs := by
  induction xs with
  | nil => rfl
  | cons x xs ih =>
    rw [namedInForce]
    cases hx : x.assignment? inverse with
    | none =>
      have hsymbol := PlacedInterval.assignment?_eq_none.1 hx
      rw [List.filterMap_cons_none hx, if_neg fun h => h.1 hsymbol, ih]
    | some a =>
      obtain ⟨hsymbol, rfl⟩ := PlacedInterval.assignment?_eq_some.1 hx
      have hholds : holdsOn ymd ⟨x.instrument inverse, x.name inverse, x.interval.first,
          x.interval.last⟩ = true ↔ InForce ymd x := by
        simp [holdsOn, InForce, hsymbol]
      rw [List.filterMap_cons_some hx]
      by_cases hforce : InForce ymd x
      · rw [List.filter_cons_of_pos (hholds.2 hforce), if_pos hforce, named, Assignment.number, ih]
        cases Text.uint32? (x.instrument inverse) <;> rfl
      · rw [List.filter_cons_of_neg fun h => hforce (hholds.1 h), if_neg hforce, ih]

/-! ## Calls -/

inductive Call where
  | record (r : Record)
  | mapping (h : Header) (m : SymbolMappingMessage)
  | fill (m : Metadata) (ts : UInt64)

namespace Call

/-- A filling clears the map if the metadata and the timestamp are good. -/
def clears : Call → Bool
  | fill m ts => m.isInverse.isOk && inQuery m ts
  | _ => false

/-- Who gets which symbol. -/
def namings : Call → List Naming
  | record (.known h .symbolMapping m) => [⟨h.instrumentId, SymbolMappingMessage.stypeOutSymbol m⟩]
  | record _ => []
  | mapping h m => [⟨h.instrumentId, m.stypeOutSymbol⟩]
  | fill m ts =>
    match m.isInverse with
    | .ok inverse =>
      if inQuery m ts then namedInForce inverse (Timestamp.ymd ts) m.intervals else []
    | .error _ => []

end Call

/-- The map after a call, also after one that fails. -/
def afterCall (s : CurrentSymbols) : Call → CurrentSymbols
  | .record r => (s.apply r).2
  | .mapping h m => s.follow h m
  | .fill m ts => ended (fill m ts) s

def afterCalls (cs : List Call) : CurrentSymbols := cs.foldl afterCall empty

/-- The names after a call: a filling of good metadata at a good timestamp does away with those
before it. -/
def standingAfter (ns : List Naming) (c : Call) : List Naming :=
  (if c.clears then [] else ns) ++ c.namings

/-- Who got which symbol since the map was last cleared. -/
def standing (cs : List Call) : List Naming := cs.foldl standingAfter []

/-- One call clears the map or leaves it, and then gives the names that it gives. -/
theorem afterCall_eq (s : CurrentSymbols) (c : Call) :
    s.afterCall c = (if c.clears then empty else s).after c.namings := by
  cases c with
  | record r =>
    cases r with
    | unrecognized h bytes => rfl
    | known h k body => cases k <;> rfl
  | mapping h m => rfl
  | fill m ts =>
    -- Only a filling that is refused for its metadata or its timestamp leaves the old names; one
    -- that fails later has cleared them and keeps what it entered.
    cases hinverse : m.isInverse with
    | error e =>
      have hfails : EStateM.run (fill m ts) s = .error e s :=
        bind_error (run_ofExcept_error hinverse s)
      simp [afterCall, ended, hfails, Call.clears, Call.namings, hinverse, after, Except.isOk,
        Except.toBool]
    | ok inverse =>
      cases hquery : inQuery m ts with
      | false =>
        have hfails := run_fill_outside hinverse hquery s
        simp [afterCall, ended, hfails, Call.clears, Call.namings, hinverse, hquery, after]
      | true =>
        have hended := ended_assignments
          ((m.assignments inverse).filter (holdsOn (Timestamp.ymd ts))) empty
        rw [ended, ← run_fill hinverse hquery s, Metadata.assignments_eq, named_filter] at hended
        simpa [afterCall, ended, Call.clears, Call.namings, hinverse, hquery, Except.isOk,
          Except.toBool] using hended

theorem afterCall_after (ns : List Naming) (c : Call) :
    (empty.after ns).afterCall c = empty.after (standingAfter ns c) := by
  rw [afterCall_eq, standingAfter]
  cases c.clears with
  | true => rfl
  | false => exact List.foldl_append.symm

theorem afterCalls_eq (cs : List Call) : afterCalls cs = empty.after (standing cs) := by
  induction cs using List.reverseRecOn with
  | nil => rfl
  | append_singleton cs c ih =>
    have hcalls : afterCalls (cs ++ [c]) = (afterCalls cs).afterCall c := by
      rw [afterCalls, List.foldl_append]
      rfl
    have hstanding : standing (cs ++ [c]) = standingAfter (standing cs) c := by
      rw [standing, List.foldl_append]
      rfl
    rw [hcalls, hstanding, ih, afterCall_after]

variable (cs : List Call)

theorem get?_afterCalls (instrument : UInt32) :
    (afterCalls cs).get? instrument = lastSymbol? (standing cs) instrument := by
  rw [afterCalls_eq, get?_after]

theorem instrument?_afterCalls (symbol : String) (instrument : UInt32) :
    (afterCalls cs).instrument? symbol = some instrument ↔
      lastOwner? (standing cs) symbol = some instrument ∧
        (afterCalls cs).get? instrument = some symbol := by
  rw [afterCalls_eq, instrument?_after, get?_after]

/-- An instrument has the symbol that it got last.  A symbol leads only to an instrument that has
it, and to none if none has it. -/
theorem never_stale :
    (∀ instrument, (afterCalls cs).get? instrument = lastSymbol? (standing cs) instrument) ∧
      (∀ symbol instrument, (afterCalls cs).instrument? symbol = some instrument →
        (afterCalls cs).get? instrument = some symbol) ∧
      ∀ symbol, (∀ instrument, (afterCalls cs).get? instrument ≠ some symbol) →
        (afterCalls cs).instrument? symbol = none := by
  have hcarries (symbol : String) (instrument : UInt32)
      (h : (afterCalls cs).instrument? symbol = some instrument) :
      (afterCalls cs).get? instrument = some symbol :=
    ((instrument?_afterCalls cs symbol instrument).1 h).2
  refine ⟨get?_afterCalls cs, hcarries, fun symbol hnone => ?_⟩
  cases hfound : (afterCalls cs).instrument? symbol with
  | none => rfl
  | some instrument => exact absurd (hcarries symbol instrument hfound) (hnone instrument)

/-- A symbol that instruments have leads to one of them exactly if the one that got it last still
has it. -/
theorem found_iff_last_has (symbol : String) :
    ((∃ instrument, (afterCalls cs).get? instrument = some symbol) →
      ∃ instrument, (afterCalls cs).instrument? symbol = some instrument ∧
        (afterCalls cs).get? instrument = some symbol) ↔
    ((∃ instrument, (afterCalls cs).get? instrument = some symbol) →
      ∃ instrument, lastOwner? (standing cs) symbol = some instrument ∧
        (afterCalls cs).get? instrument = some symbol) := by
  have hfound (instrument : UInt32) :
      ((afterCalls cs).instrument? symbol = some instrument ∧
        (afterCalls cs).get? instrument = some symbol) ↔
      (lastOwner? (standing cs) symbol = some instrument ∧
        (afterCalls cs).get? instrument = some symbol) := by
    rw [instrument?_afterCalls, and_assoc, and_self]
  simp only [hfound]

/-- Two instruments get one symbol and the later of them another: the first one is not found any
more by the symbol that it has. -/
theorem shared_symbol_lost :
    let name (instrument : UInt32) (symbol : String) : Call :=
      .record (.known ⟨44, 22, 0, instrument, 1609160400000000000⟩ .symbolMapping
        (⟨255, "ES.FUT", 255, symbol, 0, 18446744073709551615⟩ : SymbolMappingMessage))
    let s := afterCalls [name 1 "A", name 2 "A", name 2 "B"]
    s.get? 1 = some "A" ∧ s.instrument? "A" = none := by
  intro name s
  have hhas : s.get? 1 = some "A" := by
    rw [get?_afterCalls]
    decide
  have hlast : lastOwner? (standing [name 1 "A", name 2 "A", name 2 "B"]) "A" = some 2 := by decide
  have hrenamed : s.get? 2 = some "B" := by
    rw [get?_afterCalls]
    decide
  refine ⟨hhas, ?_⟩
  cases hfound : s.instrument? "A" with
  | none => rfl
  | some instrument =>
    obtain ⟨howner, hcarries⟩ := (instrument?_afterCalls _ "A" instrument).1 hfound
    grind

end CurrentSymbols
end TickStream
