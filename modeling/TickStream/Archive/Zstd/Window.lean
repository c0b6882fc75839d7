import TickStream.Archive.Zstd.Bits
/-
A view of 64 bits on bytes whose bits are taken up from the last one to the first.

Bits are taken from the top of the view, and now and then the view slides down to the bits
that follow.  It never slides below the first byte: what is taken after that comes from the
view as it stands, over and over.
-/
namespace TickStream
namespace Zstd

/-- A view on the eight bytes from `first` on.  Bytes that are not there count as zero. -/
structure Window where
  bytes : ByteArray
  first : Nat
  /-- The bits taken since the view slid last, its topmost ones. -/
  taken : Nat

namespace Window

/-- The view on the end of some bytes.  The highest bit that is set in the last byte marks
where to begin; there must be one. -/
def ofBytes? (bs : ByteArray) : Option Window :=
  let last := ((bs[bs.size - 1]?).getD 0).toNat
  if last = 0 then none else some ⟨bs, bs.size - 8, 8 * (8 - bs.size) + (8 - last.log2)⟩

/-- The number that the next `n` bits make, at most 64.  Below the last bit of the view there
are zeros. -/
def peek (w : Window) (n : Nat) : Nat :=
  let left := 64 - w.taken % 64
  if n ≤ left then bitsAt w.bytes (8 * w.first + (left - n)) n
  else bitsAt w.bytes (8 * w.first) left <<< (n - left)

def drop (w : Window) (n : Nat) : Window := { w with taken := w.taken + n }

/-- Slides past the whole bytes that were taken.  The view must be so far from the first
byte. -/
def descend (w : Window) : Window :=
  { w with first := w.first - w.taken / 8, taken := w.taken % 8 }

/-- Slides past the whole bytes that were taken, but not below the first byte.  Gives whether
it could slide freely, too: otherwise all the bits that are left are in view. -/
def slide (w : Window) : Window × Bool :=
  if 64 < w.taken then (w, false)
  else if 8 ≤ w.first then (w.descend, true)
  else if w.first = 0 then (w, false)
  else if w.taken / 8 ≤ w.first then (w.descend, true)
  else ({ w with first := 0, taken := w.taken - 8 * w.first }, false)

/-- Whether every bit was taken, and none twice. -/
def isSpent (w : Window) : Bool := w.first == 0 && w.taken == 64

end Window
end Zstd
end TickStream
