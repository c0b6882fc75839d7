import TickStream.Bytes.Source
/-
Taking bytes off a source, with the failures of the source among those of the reader.
-/
namespace TickStream

abbrev Intake := EStateM Error Source

namespace Intake

def ofRead (read : Source → Except IoFault Bytes × Source) : Intake Bytes := fun s =>
  match read s with
  | (.ok bs, s) => .ok bs s
  | (.error fault, s) => .error (.io fault) s

def upTo (n : Nat) : Intake Bytes := ofRead (Source.readUpTo n)

/-- The next `n` bytes.  When the stream ends before them, they count as truncated at
`offset`. -/
def exactly (n : Nat) (context : String) (offset : Nat) : Intake Bytes := do
  let bs ← upTo n
  if bs.length < n then throw (.truncated context offset n bs.length)
  return bs

end Intake
end TickStream
