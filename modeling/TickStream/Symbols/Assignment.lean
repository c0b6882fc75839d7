import TickStream.Metadata.Basic
import TickStream.Text.Numeral
/-
What the mappings of metadata say about instruments, whichever way they lead.
-/
namespace TickStream

/-- An instrument, by the text of its number, and the symbol it has from the date `first`
up to, but not including, the date `last`. -/
structure Assignment where
  instrument : String
  symbol : String
  first : UInt32
  last : UInt32
  deriving DecidableEq, Repr

namespace Assignment

/-- What one interval of a mapping says.  An interval without a symbol says nothing. -/
def ofInterval? (inverse : Bool) (m : SymbolMapping) (i : MappingInterval) : Option Assignment :=
  if i.symbol.isEmpty then none
  else if inverse then some ⟨m.symbol, i.symbol, i.first, i.last⟩
  else some ⟨i.symbol, m.symbol, i.first, i.last⟩

def number (a : Assignment) : Except Error UInt32 :=
  match Text.uint32? a.instrument with
  | some n => .ok n
  | none => .error (.symbolMap (.badInstrument a.instrument))

end Assignment

namespace Metadata

/-- What all mappings say, in the order they stand. -/
def assignments (m : Metadata) (inverse : Bool) : List Assignment :=
  m.mappings.flatMap fun mapping =>
    mapping.intervals.filterMap (Assignment.ofInterval? inverse mapping)

end Metadata
end TickStream
