import Std.Data.HashMap
import TickStream.Record.Basic
import TickStream.Symbols.Assignment
/-
The symbols that instruments have now, in both directions.
-/
namespace TickStream

/-- The present symbol of each instrument, and an instrument for each symbol. -/
structure CurrentSymbols where
  byInstrument : Std.HashMap UInt32 String
  bySymbol : Std.HashMap String UInt32

namespace CurrentSymbols

/-- A change of the map.  A failure leaves the map as far as it was changed. -/
abbrev Edit := EStateM Error CurrentSymbols

def empty : CurrentSymbols := ⟨∅, ∅⟩

def isEmpty (s : CurrentSymbols) : Bool := s.byInstrument.isEmpty

def size (s : CurrentSymbols) : Nat := s.byInstrument.size

def get? (s : CurrentSymbols) (instrument : UInt32) : Option String := s.byInstrument[instrument]?

def instrument? (s : CurrentSymbols) (symbol : String) : Option UInt32 := s.bySymbol[symbol]?

/-- The instruments of symbols, without the entry that leads from an instrument's old
symbol to it. -/
def release (s : CurrentSymbols) (instrument : UInt32) : Std.HashMap String UInt32 :=
  match s.get? instrument with
  | some old => if s.instrument? old = some instrument then s.bySymbol.erase old else s.bySymbol
  | none => s.bySymbol

/-- The map after an instrument has got a symbol. -/
def put (s : CurrentSymbols) (instrument : UInt32) (symbol : String) : CurrentSymbols :=
  ⟨s.byInstrument.insert instrument symbol, (s.release instrument).insert symbol instrument⟩

@[simp] theorem get?_empty (instrument : UInt32) : empty.get? instrument = none :=
  Std.HashMap.getElem?_empty

@[simp] theorem instrument?_empty (symbol : String) : empty.instrument? symbol = none :=
  Std.HashMap.getElem?_empty

/-- The instrument has its new symbol; the others keep theirs. -/
theorem get?_put (s : CurrentSymbols) (instrument : UInt32) (symbol : String) (other : UInt32) :
    (s.put instrument symbol).get? other =
      if instrument = other then some symbol else s.get? other := by
  simp [put, get?, Std.HashMap.getElem?_insert]

/-- Only the entry of the old symbol goes, and only if it leads to the instrument. -/
theorem getElem?_release (s : CurrentSymbols) (instrument : UInt32) (other : String) :
    (s.release instrument)[other]? =
      if s.get? instrument = some other ∧ s.instrument? other = some instrument then none
      else s.instrument? other := by
  simp only [release]
  cases s.get? instrument with
  | none => simp [instrument?]
  | some old =>
    by_cases he : old = other
    · subst he
      by_cases hb : s.instrument? old = some instrument
      · simp [hb]
      · simp only [hb, and_false, if_false]
        rfl
    · have skip : ¬(some old = some other ∧ s.instrument? other = some instrument) := by simp [he]
      rw [if_neg skip]
      by_cases hb : s.instrument? old = some instrument
      · simp only [if_pos hb, Std.HashMap.getElem?_erase, beq_iff_eq, he, if_false]
        rfl
      · simp only [if_neg hb]
        rfl

/-- The new symbol leads to the instrument, and the old one no longer does. -/
theorem instrument?_put (s : CurrentSymbols) (instrument : UInt32) (symbol other : String) :
    (s.put instrument symbol).instrument? other =
      if symbol = other then some instrument
      else if s.get? instrument = some other ∧ s.instrument? other = some instrument then none
      else s.instrument? other := by
  rw [← getElem?_release]
  simp [put, instrument?, Std.HashMap.getElem?_insert]

/-- The map after a message that names the instrument of its header. -/
def follow (s : CurrentSymbols) (h : Header) (m : SymbolMappingMessage) : CurrentSymbols :=
  s.put h.instrumentId m.stypeOutSymbol

/-- Whether a record names an instrument, and the map after it. -/
def apply (s : CurrentSymbols) (r : Record) : Bool × CurrentSymbols :=
  match r with
  | .known h .symbolMapping m => (true, s.follow h m)
  | _ => (false, s)

def holdsOn (ymd : Nat) (a : Assignment) : Bool := a.first.toNat ≤ ymd && ymd < a.last.toNat

def assign (a : Assignment) : Edit Unit := do
  let n ← ofExcept a.number
  modify fun s => s.put n a.symbol

def inQuery (m : Metadata) (ts : UInt64) : Bool :=
  m.start ≤ ts && m.stop?.all fun stop => ts < stop

/-- Replaces the contents by the mappings of metadata that hold at a timestamp in its
query.  The old contents go when the timestamp has been found good. -/
def fill (m : Metadata) (ts : UInt64) : Edit Unit := do
  let inverse ← ofExcept m.isInverse
  if !inQuery m ts then throw (.symbolMap (.outsideQuery ts))
  set empty
  ((m.assignments inverse).filter (holdsOn (Timestamp.ymd ts))).forM assign

end CurrentSymbols
end TickStream
