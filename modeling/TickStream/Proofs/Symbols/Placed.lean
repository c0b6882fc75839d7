import TickStream.Symbols.Assignment
/-
The intervals of metadata, each with the mapping that it stands in.  An interval names an
instrument by its own symbol or by that of its mapping, and gives it the other one of the two; the
assignments of metadata say this of one interval after the other, leaving out those without a
symbol.
-/
namespace TickStream

/-- An interval together with the mapping that it stands in. -/
structure PlacedInterval where
  mapping : SymbolMapping
  interval : MappingInterval

/-- The intervals of all mappings, in the order they stand. -/
def Metadata.intervals (m : Metadata) : List PlacedInterval :=
  m.mappings.flatMap fun mapping => mapping.intervals.map (⟨mapping, ·⟩)

namespace PlacedInterval

def instrument (inverse : Bool) (x : PlacedInterval) : String :=
  if inverse then x.mapping.symbol else x.interval.symbol

def name (inverse : Bool) (x : PlacedInterval) : String :=
  if inverse then x.interval.symbol else x.mapping.symbol

variable {inverse : Bool} {x : PlacedInterval} {a : Assignment}

/-- What the interval says, if it has a symbol. -/
def assignment? (inverse : Bool) (x : PlacedInterval) : Option Assignment :=
  Assignment.ofInterval? inverse x.mapping x.interval

theorem assignment?_eq_none : x.assignment? inverse = none ↔ x.interval.symbol = "" := by
  rw [assignment?, Assignment.ofInterval?]
  cases inverse <;> simp

theorem assignment?_eq_some : x.assignment? inverse = some a ↔
    x.interval.symbol ≠ "" ∧
      a = ⟨x.instrument inverse, x.name inverse, x.interval.first, x.interval.last⟩ := by
  rw [assignment?, Assignment.ofInterval?, instrument, name]
  by_cases hsymbol : x.interval.symbol = ""
  · simp [hsymbol]
  · cases inverse <;> simp [hsymbol, @eq_comm _ a]

end PlacedInterval

/-- The assignments of metadata are what the intervals say. -/
theorem Metadata.assignments_eq (m : Metadata) (inverse : Bool) :
    m.assignments inverse = m.intervals.filterMap (PlacedInterval.assignment? inverse) := by
  rw [assignments, intervals, List.filterMap_flatMap]
  refine congrArg (m.mappings.flatMap ·) (funext fun mapping => ?_)
  rw [List.filterMap_map]
  rfl

theorem Assignment.number_eq_ok {a : Assignment} {n : UInt32} :
    a.number = .ok n ↔ Text.uint32? a.instrument = some n := by
  rw [number]
  cases Text.uint32? a.instrument <;> simp

end TickStream
