import TickStream.Vocabulary.Code
/-
How a stream of records is written, and how its bytes are compressed.
-/
namespace TickStream

/-- The form of the records in a stream. -/
inductive Encoding where
  | dbn
  | csv
  | json
  deriving DecidableEq, Repr

namespace Encoding

def all : List Encoding :=
  [.dbn, .csv, .json]

def name : Encoding → String
  | .dbn => "dbn"
  | .csv => "csv"
  | .json => "json"

def ofName? (text : String) : Option Encoding := Code.named? all name text

theorem ofName?_name (a : Encoding) : ofName? a.name = some a := by cases a <;> decide

end Encoding

inductive Compression where
  | none
  | zstd
  deriving DecidableEq, Repr

namespace Compression

def all : List Compression :=
  [.none, .zstd]

def name : Compression → String
  | .none => "none"
  | .zstd => "zstd"

/-- The value of a name, letter case of ASCII aside. -/
def ofName? (text : String) : Option Compression := Code.named? all name text

theorem ofName?_name (a : Compression) : ofName? a.name = some a := by cases a <;> decide

end Compression

end TickStream
