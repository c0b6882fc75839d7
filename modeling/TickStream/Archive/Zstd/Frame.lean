import TickStream.Archive.Zstd.Block
import TickStream.Archive.Zstd.Decoded
import TickStream.Digest.XxHash64
/-
Frames: blocks, one after the other, with a head in front of them and perhaps a checksum behind.

A frame that says how many bytes it decodes to, and is there to its end when a read asks for that
many or more, is decoded at once.  Any other frame is decoded piece by piece, in a memory that
holds what may still be copied.  The two ways differ in what they ask of a frame.
-/
namespace TickStream
namespace Zstd

/-! ## Heads -/

structure FrameHead where
  /-- How many bytes of it must be kept for copying. -/
  window : Nat
  /-- The number of bytes it decodes to, if it says so. -/
  content : Option Nat
  checked : Bool
  /-- The number of the dictionary it needs, or zero. -/
  dictionary : Nat
  deriving DecidableEq, Repr

/-- The window that a byte describes, `2 ^ 31` bytes and seven eighths at most. -/
def windowSize? (b : UInt8) : Option Nat :=
  let exponent := 10 + b.toNat / 8
  let whole := Nat.pow 2 exponent
  if exponent ≤ 31 then some (whole + whole / 8 * (b.toNat % 8)) else none

namespace FrameHead

/-- A content of this size is an unknown one. -/
def unknownContent : Nat := 0xffffffffffffffff

/-- Reads what stands after the first bytes of a frame.  A frame may be a single segment, which
is kept as a whole. -/
def read : Bytes → Except IoFault (FrameHead × Bytes)
  | [] => .error .unexpectedEnd
  | d :: rest =>
    let flags := d.toNat
    let single := flags / 32 % 2 = 1
    let windowBytes := if single then 0 else 1
    let dictionaryBytes := [0, 1, 2, 4].getD (flags % 4) 0
    let contentBytes := [if single then 1 else 0, 2, 4, 8].getD (flags / 64) 0
    let size := windowBytes + dictionaryBytes + contentBytes
    if rest.length < size then .error .unexpectedEnd
    else
      let dictionary := Bytes.toNat ((rest.drop windowBytes).take dictionaryBytes)
      let stated := Bytes.toNat ((rest.drop (windowBytes + dictionaryBytes)).take contentBytes)
      let content := if contentBytes = 2 then stated + 256 else stated
      match if single then some content else windowSize? (rest.headD 0) with
      | some window =>
        if flags / 8 % 2 = 1 then .error .other
        else
          let known := contentBytes ≠ 0 ∧ content ≠ unknownContent
          .ok (⟨window, if known then some content else none, flags / 4 % 2 = 1, dictionary⟩,
            rest.drop size)
      | none => .error .other

def blockLimit (h : FrameHead) : Nat := min h.window Zstd.blockLimit

end FrameHead

/-- Whether the checksum that follows a frame is that of its content.  Gives the bytes after
it. -/
def checksum (h : FrameHead) (content : ByteArray) (bs : Bytes) : Except IoFault Bytes :=
  if !h.checked then .ok bs
  else if bs.length < 4 then .error .unexpectedEnd
  else if bs.take 4 = Bytes.ofNat 4 (XxHash64.digest content.data.toList).toNat then
    .ok (bs.drop 4)
  else .error .other

/-! ## Frames at once -/

/-- Whether the blocks of a frame, and its checksum if there is one, are there to the end. -/
def isWhole (checked : Bool) (bs : Bytes) : Bool :=
  match _ : BlockHead.read? bs with
  | none => false
  | some (b, rest) =>
    if b.kind = .unknown ∨ (rest.take b.stored).length < b.stored then false
    else if b.last then (if checked then 4 else 0) ≤ rest.length - b.stored
    else isWhole checked (rest.drop b.stored)
termination_by bs.length
decreasing_by
  have := BlockHead.length_of_read? ‹_›
  simp only [List.length_drop]
  omega

/-- Decodes blocks up to the last one, to `content` bytes, with room for `space`.  Gives the bytes
after them, too. -/
def blocksAtOnce? (h : FrameHead) (content space start : Nat) (m : Memory) (out : ByteArray)
    (bs : Bytes) : Option (ByteArray × Bytes) :=
  match _ : BlockHead.read? bs with
  | none => none
  | some (b, rest) =>
    let done := out.size - start
    let place : Place := ⟨⟨start, start⟩, h.blockLimit, content - done, some (space - done)⟩
    match place.decode? m b (rest.take b.stored) out with
    | none => none
    | some (m, out) =>
      if b.last then some (out, rest.drop b.stored)
      else blocksAtOnce? h content space start m out (rest.drop b.stored)
termination_by bs.length
decreasing_by
  have := BlockHead.length_of_read? ‹_›
  simp only [List.length_drop]
  omega

/-- Decodes a frame at once.  It must decode to exactly the content that it states. -/
def frameAtOnce (h : FrameHead) (content : Nat) (bs : Bytes) (d : Decoded) :
    Except IoFault Bytes × Decoded :=
  let start := d.bytes.size
  match blocksAtOnce? h content d.demand.next start .initial d.bytes bs with
  | none => (.error .other, d)
  | some (out, rest) =>
    if out.size = start + content then
      (checksum h (out.extract start out.size) rest, d.extend out)
    else (.error .other, d)

/-! ## Frames piece by piece -/

/-- The greatest window that is kept: 128 MiB and a byte. -/
def windowLimit : Nat := 134217729

/-- The memory that frames are decoded into, kept from frame to frame. -/
structure Arena where
  /-- How many bytes of a block there is room for. -/
  input : Nat
  /-- How many decoded bytes there is room for. -/
  output : Nat
  /-- How many frames in a row could have done with much less. -/
  idle : Nat

namespace Arena

def none : Arena := ⟨0, 0, 0⟩

/-- The number of frames that much memory is kept for without need. -/
def patience : Nat := 128

/-- What a frame is decoded into.  It needs room for what is kept for copying, and beyond that for
two blocks with some space around them, but not for more than its content.  New memory is used if
the old is too small, or was three times as much as needed for too long. -/
def fit (a : Arena) (h : FrameHead) : Arena :=
  let input := max h.blockLimit 4
  let kept := max h.window 1024 + 2 * h.blockLimit + 64
  let output := min (h.content.getD kept) kept
  let idle := if 3 * (input + output) ≤ a.input + a.output then a.idle + 1 else 0
  if a.input < input ∨ a.output < output ∨ patience ≤ idle then ⟨input, output, idle⟩
  else { a with idle := idle }

def holds (a : Arena) (h : FrameHead) : Bool := h.content.any (· ≤ a.output)

def room (a : Arena) (h : FrameHead) (done : Nat) : Nat :=
  if a.holds h then min h.blockLimit (a.output - done) else h.blockLimit

end Arena

/-- The stretch after a block, with `size` bytes decoded: a new one if another block might not
have room. -/
def Arena.stretch (a : Arena) (h : FrameHead) (s : Sequences.Stretch) (size : Nat) :
    Sequences.Stretch :=
  if a.holds h ∨ size - s.origin + h.blockLimit ≤ a.output then s else ⟨size, s.origin⟩

/-- Decodes blocks up to the last one.  Gives the bytes after it.  Blocks written in no bytes
are passed over, and a frame that ends with one may decode to any number of bytes. -/
def blocks (a : Arena) (h : FrameHead) (start : Nat) (m : Memory) (s : Sequences.Stretch)
    (d : Decoded) (bs : Bytes) : Except IoFault Bytes × Decoded :=
  match _ : BlockHead.read? bs with
  | none => (.error .unexpectedEnd, d)
  | some (b, rest) =>
    let room := a.room h (d.bytes.size - start)
    if b.kind = .unknown ∨ h.blockLimit < b.stored then (.error .other, d)
    else if b.stored = 0 then
      if b.last then (.ok rest, d) else blocks a h start m s d rest
    else if (rest.take b.stored).length < b.stored then
      if b.kind ≠ .plain then (.error .unexpectedEnd, d)
      else if room < rest.length then (.error .other, d)
      else (.error .unexpectedEnd, { d with bytes := Place.push d.bytes rest })
    else
      let place : Place := ⟨s, h.blockLimit, room, none⟩
      match place.decode? m b (rest.take b.stored) d.bytes with
      | none => (.error .other, d)
      | some (m, out) =>
        if !b.last then
          blocks a h start m (a.stretch h s out.size) (d.extend out) (rest.drop b.stored)
        else if h.content.any (start + · ≠ out.size) then (.error .other, d)
        else (.ok (rest.drop b.stored), d.extend out)
termination_by bs.length
decreasing_by
  · have := BlockHead.length_of_read? ‹_›
    omega
  · have := BlockHead.length_of_read? ‹_›
    simp only [List.length_drop]
    omega

def frameInPieces (a : Arena) (h : FrameHead) (bs : Bytes) (d : Decoded) :
    Except IoFault Bytes × Decoded :=
  let start := d.bytes.size
  match blocks a h start .initial ⟨start, start⟩ d bs with
  | (.error fault, d) => (.error fault, d)
  | (.ok rest, d) => (checksum h (d.bytes.extract start d.bytes.size) rest, d)

/-! ## Frames -/

/-- Decodes a frame, from the bytes after its first four on.  Gives the bytes after it, and the
memory that is left to later frames.  Frames that need a dictionary are not decoded. -/
def frame (bs : Bytes) (a : Arena) (d : Decoded) : Except IoFault (Bytes × Arena) × Decoded :=
  match FrameHead.read bs with
  | .error fault => (.error fault, d)
  | .ok (h, rest) =>
    if h.dictionary ≠ 0 then (.error .other, d)
    else
      match h.content.filter fun n => n ≤ d.demand.next && isWhole h.checked rest with
      | some n =>
        let (result, d) := frameAtOnce h n rest d
        (result.map fun rest => (rest, a), d)
      | none =>
        if windowLimit < h.window then (.error .other, d)
        else
          let a := a.fit h
          let (result, d) := frameInPieces a h rest d
          (result.map fun rest => (rest, a), d)

/-- Skips a frame, from the bytes after its first four on, as content that is not wanted.  Gives
the bytes after it and the memory that is left to later frames. -/
def skip (bs : Bytes) (a : Arena) : Except IoFault (Bytes × Arena) :=
  let size := Bytes.toNat (bs.take 4)
  if bs.length < 4 + size then .error .unexpectedEnd
  else .ok (bs.drop (4 + size), a.fit ⟨0, some size, false, 0⟩)

end Zstd
end TickStream
