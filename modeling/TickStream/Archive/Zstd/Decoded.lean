import TickStream.Bytes.Demand
import TickStream.Error
/-
What was decoded, and how much of it was handed out.

Decoded bytes are handed out when a read is full, when a frame ends and when the stream ends.  A
read that meets damage gives none.
-/
namespace TickStream
namespace Zstd

structure Decoded where
  bytes : ByteArray
  /-- How many of them reads have given. -/
  given : Nat
  /-- What the reads from then on ask for. -/
  demand : Demand

namespace Decoded

def empty (demand : Demand) : Decoded := ⟨.empty, 0, demand⟩

def waiting (d : Decoded) : Nat := d.bytes.size - d.given

def flush (d : Decoded) : Decoded :=
  { d with given := d.bytes.size, demand := d.demand.afterAll d.waiting }

/-- With more bytes decoded.  If they are more than the read asks for, all of them are handed
out before decoding goes on. -/
def extend (d : Decoded) (bytes : ByteArray) : Decoded :=
  let d : Decoded := { d with bytes := bytes }
  if d.demand.next < d.waiting then d.flush else d

/-- What is read in the end: all that was decoded, but after damage only what was handed out. -/
def outcome (fault : Option IoFault) (d : Decoded) : ByteArray :=
  match fault with
  | none | some .unexpectedEnd => d.bytes
  | some _ => d.bytes.extract 0 d.given

end Decoded
end Zstd
end TickStream
