import TickStream.Bytes.Word
/-
Bits within bytes: bit 0 of a byte is its lowest one, and the bits of a later byte stand
above those of an earlier one.
-/
namespace TickStream
namespace Zstd

/-- The number of `count` bytes from `first` on, least significant first.  Bytes that are not
there count as zero. -/
def bytesAt (bs : ByteArray) (first : Nat) : (count : Nat) → Nat
  | 0 => 0
  | count + 1 => ((bs[first]?).getD 0).toNat + 256 * bytesAt bs (first + 1) count

def bitsAt (bs : ByteArray) (start n : Nat) : Nat :=
  bytesAt bs (start / 8) ((start % 8 + n + 7) / 8) >>> (start % 8) % Nat.pow 2 n

/-- Bits that are taken up in the reverse of the order in which they were laid down. -/
structure BitStack where
  bytes : ByteArray
  /-- The bits that are left. -/
  height : Nat

namespace BitStack

/-- The stack in the given bytes.  The highest bit that is set in the last byte marks the
top; there must be one. -/
def ofBytes? (bs : ByteArray) : Option BitStack :=
  let last := ((bs[bs.size - 1]?).getD 0).toNat
  if last = 0 then none else some ⟨bs, 8 * (bs.size - 1) + last.log2⟩

/-- The number that the `n` topmost bits make.  Below the last bit there are zeros. -/
def peek (s : BitStack) (n : Nat) : Nat :=
  if n ≤ s.height then bitsAt s.bytes (s.height - n) n
  else bitsAt s.bytes 0 s.height <<< (n - s.height)

def drop? (s : BitStack) (n : Nat) : Option BitStack :=
  if n ≤ s.height then some { s with height := s.height - n } else none

def take? (s : BitStack) (n : Nat) : Option (Nat × BitStack) :=
  (s.drop? n).map fun rest => (s.peek n, rest)

end BitStack
end Zstd
end TickStream
