import TickStream.Json.Value
import TickStream.Text.Quoted
/-
What can be wrong with a JSON text: it ends early, it breaks the grammar, or it is
well formed and has another shape than the one asked for.
-/
namespace TickStream
namespace Json

/-- What stands where something else was asked for. -/
inductive Found where
  | null
  | bool (b : Bool)
  | natural (n : UInt64)
  | negative (n : Int64)
  | real (d : Decimal.Double)
  | char (c : Char)
  | string (s : String)
  | sequence
  | map
  deriving DecidableEq, Repr

inductive Mismatch where
  | missingField (name : String)
  /-- A value of another kind than `expected`. -/
  | wrongType (found : Found) (expected : String)
  /-- A value of the right kind that `expected` does not admit. -/
  | wrongValue (found : Found) (expected : String)
  /-- `length` items, where `expected` asks for another number. -/
  | wrongLength (length : Nat) (expected : String)
  | badPrice (text : String)
  deriving DecidableEq, Repr

inductive Fault where
  /-- The text ends inside a value. -/
  | truncated
  /-- The text breaks the grammar. -/
  | malformed
  /-- The value has another shape than the one asked for. -/
  | mismatch (m : Mismatch)
  deriving DecidableEq, Repr

namespace Found

def describe : Found → String
  | null => "null"
  | bool b => s!"boolean `{b}`"
  | natural n => s!"integer `{n.toNat}`"
  | negative n => s!"integer `{n.toInt}`"
  | real d => s!"floating point `{d.text}`"
  | char c => s!"character `{c}`"
  | string s => "string " ++ Text.quoted s
  | sequence => "sequence"
  | map => "map"

end Found

def found : Json → Found
  | null => .null
  | bool b => .bool b
  | number (.natural n) => .natural n
  | number (.negative n) => .negative n
  | number (.real d) => .real d
  | string s => .string s
  | array _ => .sequence
  | object _ => .map

def badPriceText (text : String) : String := "Invalid fixed-point price: " ++ Text.quoted text

namespace Mismatch

def message : Mismatch → String
  | missingField name => s!"missing field `{name}`"
  | wrongType f expected => s!"invalid type: {f.describe}, expected {expected}"
  | wrongValue f expected => s!"invalid value: {f.describe}, expected {expected}"
  | wrongLength length expected => s!"invalid length {length}, expected {expected}"
  | badPrice text => badPriceText text

end Mismatch

namespace Fault

def message : Fault → String
  | truncated => "the text ends inside a value"
  | malformed => "the text is not well formed"
  | mismatch m => m.message

end Fault
end Json
end TickStream
