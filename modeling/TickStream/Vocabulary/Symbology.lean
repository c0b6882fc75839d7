import TickStream.Vocabulary.Code
/-
Symbologies: the naming schemes that a symbol can belong to.
-/
namespace TickStream

/-- A naming scheme for instruments. -/
inductive Symbology where
  | instrumentId
  | rawSymbol
  | smart
  | continuous
  | parent
  | nasdaq
  | cms
  deriving DecidableEq, Repr

namespace Symbology

def all : List Symbology :=
  [.instrumentId, .rawSymbol, .smart, .continuous, .parent, .nasdaq, .cms]

def name : Symbology → String
  | .instrumentId => "instrument_id"
  | .rawSymbol => "raw_symbol"
  | .smart => "smart"
  | .continuous => "continuous"
  | .parent => "parent"
  | .nasdaq => "nasdaq"
  | .cms => "cms"

def code : Symbology → UInt8
  | .instrumentId => 0
  | .rawSymbol => 1
  | .smart => 2
  | .continuous => 3
  | .parent => 4
  | .nasdaq => 5
  | .cms => 6

def ofCode? (n : UInt8) : Option Symbology := Code.find? all code n

theorem ofCode?_code (a : Symbology) : ofCode? a.code = some a := by cases a <;> decide

theorem code_of_ofCode? {n : UInt8} {a : Symbology} (h : ofCode? n = some a) : a.code = n :=
  Code.key_of_find? h

def ofName? (text : String) : Option Symbology := Code.named? all name text

theorem ofName?_name (a : Symbology) : ofName? a.name = some a := by cases a <;> decide

end Symbology

end TickStream
