import Std.Data.HashMap
import TickStream.Record.Basic
import TickStream.Symbols.Assignment
/-
The symbols of instruments, day by day.
-/
namespace TickStream

/-- Which symbol an instrument had on which day. -/
structure DatedSymbols where
  entries : Std.HashMap (Date × UInt32) String

namespace DatedSymbols

/-- A change of the map.  A failure leaves the map as far as it was changed. -/
abbrev Edit := EStateM Error DatedSymbols

def empty : DatedSymbols := ⟨∅⟩

def isEmpty (s : DatedSymbols) : Bool := s.entries.isEmpty

def size (s : DatedSymbols) : Nat := s.entries.size

def get? (s : DatedSymbols) (day : Date) (instrument : UInt32) : Option String :=
  s.entries[(day, instrument)]?

/-- The symbol of an instrument on the UTC date of a timestamp. -/
def getAt? (s : DatedSymbols) (ts : UInt64) (instrument : UInt32) : Option String :=
  if ts = Timestamp.undefined then none else s.get? (Timestamp.date ts) instrument

/-- The symbol of a record's instrument on the date of the event. -/
def getFor? (s : DatedSymbols) (r : Record) : Option String :=
  s.getAt? r.header.tsEvent r.header.instrumentId

/-- The map with a symbol for an instrument on each of the days. -/
def put (s : DatedSymbols) (instrument : UInt32) (symbol : String) (days : List Date) :
    DatedSymbols :=
  ⟨days.foldl (fun entries day => entries.insert (day, instrument) symbol) s.entries⟩

@[simp] theorem get?_empty (day : Date) (instrument : UInt32) : empty.get? day instrument = none :=
  Std.HashMap.getElem?_empty

/-- An instrument has its new symbol on the given days; nothing else changes. -/
theorem get?_put (s : DatedSymbols) (instrument : UInt32) (symbol : String) (days : List Date)
    (day : Date) (other : UInt32) :
    (s.put instrument symbol days).get? day other =
      if instrument = other ∧ day ∈ days then some symbol else s.get? day other := by
  induction days generalizing s with
  | nil => simp [put]
  | cons first rest ih =>
    have h := ih ⟨s.entries.insert (first, instrument) symbol⟩
    simp only [put, get?, List.foldl_cons, Std.HashMap.getElem?_insert, beq_iff_eq,
      Prod.mk.injEq, List.mem_cons] at h ⊢
    rw [h]
    grind

def date (ymd : UInt32) : Except Error Date :=
  match Date.ofYmd? ymd.toNat with
  | some d => .ok d
  | none => .error (.symbolMap (.badDate ymd))

/-- Gives an instrument a symbol day by day, from `day` up to, but not including, `stop`. -/
def enter (instrument : UInt32) (symbol : String) (day stop : Date) : Edit Unit := do
  if day.dayNumber < stop.dayNumber then
    modify fun s => s.put instrument symbol [day]
    match _ : day.next? with
    | some next => enter instrument symbol next stop
    | none => throw (.symbolMap (.dateOverflow day))
termination_by (Date.lastYear - day.year, 12 - day.month, 31 - day.day)
decreasing_by exact Date.next?_later (by assumption)

def insert (instrument : UInt32) (first last : UInt32) (symbol : String) : Edit Unit := do
  let start ← ofExcept (date first)
  let stop ← ofExcept (date last)
  if stop.dayNumber < start.dayNumber then throw (.symbolMap (.reversed first last))
  enter instrument symbol start stop

def assign (a : Assignment) : Edit Unit := do
  insert (← ofExcept a.number) a.first a.last a.symbol

/-- Replaces the contents by the mappings of metadata.  The old contents go first. -/
def fill (m : Metadata) : Edit Unit := do
  set empty
  let inverse ← ofExcept m.isInverse
  (m.assignments inverse).forM assign

def ofMetadata (m : Metadata) : Except Error DatedSymbols :=
  match fill m empty with
  | .ok _ s => .ok s
  | .error e _ => .error e

end DatedSymbols
end TickStream
