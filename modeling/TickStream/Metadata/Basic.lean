import TickStream.Record.Codec
import TickStream.Vocabulary.Schema
import TickStream.Vocabulary.Symbology
/-
Metadata: what a stream of records was asked for, and which symbol stood for which
instrument when.
-/
namespace TickStream

/-- The time a symbol stands for another one: from the date `first` up to, but not
including, the date `last`.  Dates are numbers read `YYYYMMDD`. -/
structure MappingInterval where
  first : UInt32
  last : UInt32
  symbol : String
  deriving DecidableEq, Repr

/-- A requested symbol and what it stands for over time. -/
structure SymbolMapping where
  symbol : String
  intervals : List MappingInterval
  deriving DecidableEq, Repr

/-- What a stream says about itself before its first record. -/
structure Metadata where
  version : Version
  dataset : String
  /-- What the records are; none in a stream of mixed records. -/
  schema : Option Schema
  /-- The start of the query, in nanoseconds. -/
  start : UInt64
  /-- The end of the query, in nanoseconds, or the undefined timestamp. -/
  stop : UInt64
  /-- The greatest number of records, 0 when there is none. -/
  limit : UInt64
  /-- The naming of the requested symbols; none if it is mixed. -/
  stypeIn : Option Symbology
  /-- The naming they were resolved to. -/
  stypeOut : Symbology
  /-- Whether every record ends with the time it was sent. -/
  tsOut : Bool
  symbols : List String
  /-- Symbols that were resolved for a part of the query only. -/
  partly : List String
  notFound : List String
  mappings : List SymbolMapping
  deriving DecidableEq, Repr

namespace Metadata

/-- The end of the query, if it has one. -/
def stop? (m : Metadata) : Option UInt64 :=
  if m.stop = Timestamp.undefined then none else some m.stop

/-- Whether the mappings lead from instrument numbers to other symbols.  If neither side
is instrument numbers, no symbol map can be made of them. -/
def isInverse (m : Metadata) : Except Error Bool :=
  if m.stypeIn = some .instrumentId then .ok true
  else if m.stypeOut = .instrumentId then .ok false
  else .error (.symbolMap .noInstrumentSide)

/-- The same metadata, to be written in another version. -/
def withVersion (m : Metadata) (v : Version) : Metadata := { m with version := v }

def codec (m : Metadata) : Codec := ⟨m.version, m.tsOut⟩

end Metadata
end TickStream
