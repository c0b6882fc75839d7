import TickStream.Archive.Zstd.Frame
/-
Frames of early versions, 4 to 7.  Each version has magic bytes of its own.  A frame ends with a
block that says so, or with an empty one.  Of the blocks, those that hold bytes as they are are
decoded.
-/
namespace TickStream
namespace Zstd
namespace Early

/-- The version that begins with the given bytes. -/
def version? : Bytes → Option Nat
  | 0x24 :: 0xb5 :: 0x2f :: 0xfd :: _ => some 4
  | 0x25 :: 0xb5 :: 0x2f :: 0xfd :: _ => some 5
  | 0x26 :: 0xb5 :: 0x2f :: 0xfd :: _ => some 6
  | 0x27 :: 0xb5 :: 0x2f :: 0xfd :: _ => some 7
  | _ => none

/-! ## Heads -/

structure Head where
  /-- The greatest block that may be met in parts. -/
  input : Nat
  /-- The memory that it is decoded into. -/
  output : Nat
  /-- The room that must be left in the memory for a block. -/
  block : Nat
  /-- Whether a checksum stands in the last block. -/
  checked : Bool

def Head.ofWindow (window : Nat) (checked : Bool) : Head :=
  let block := min window blockLimit
  ⟨block, window + block + 16, block, checked⟩

/-- Reads what stands after the magic bytes in versions 4 and 5, the exponent of the window. -/
def readFixed (d : UInt8) (rest : Bytes) : Except IoFault (Head × Bytes) :=
  if 16 ≤ d then .error .other
  else .ok (⟨blockLimit, Nat.pow 2 (11 + d.toNat), blockLimit, false⟩, rest)

/-- Reads what stands after the magic bytes in version 6. -/
def readSized (d : UInt8) (rest : Bytes) : Except IoFault (Head × Bytes) :=
  let size := [0, 1, 2, 8].getD (d.toNat / 64) 0
  if rest.length < size then .error .unexpectedEnd
  else if d.toNat / 32 % 2 = 1 then .error .other
  else .ok (.ofWindow (Nat.pow 2 (12 + d.toNat % 16)) false, rest.drop size)

def mostWindow : Nat := 0x8000000

/-- Reads what stands after the magic bytes in version 7, which is written as in later ones.  Only
the low half of a content's size is heeded. -/
def readLate (bs : Bytes) : Except IoFault (Head × Bytes) := do
  let (h, rest) ← FrameHead.read bs
  let window := if h.content = some h.window then h.window % 0x100000000 else h.window
  if mostWindow < window ∨ h.dictionary ≠ 0 then .error .other
  else .ok (.ofWindow (max window 1024) h.checked, rest)

def Head.read (version : Nat) : Bytes → Except IoFault (Head × Bytes)
  | [] => .error .other
  | d :: rest =>
    if version ≤ 5 then readFixed d rest
    else if version = 6 then readSized d rest
    else readLate (d :: rest)

/-! ## Blocks -/

/-- The kind and the size of a block, from the three bytes in front of it.  There is none at the
end of a frame. -/
def blockHead? (a b c : UInt8) : Option (BlockKind × Nat) :=
  let size := c.toNat + b.toNat * 256 + a.toNat % 8 * 65536
  match a.toNat / 64 with
  | 0 => some (.compressed, size)
  | 1 => some (.plain, size)
  | 2 => some (.repeated, size)
  | _ => none

/-- Whether the checksum in the last block is that of the content: 22 bits of the digest. -/
def isChecked (content : ByteArray) (a b c : UInt8) : Bool :=
  c.toNat + b.toNat * 256 + a.toNat % 64 * 65536 ==
    (XxHash64.digest content.data.toList).toNat / 2048 % 0x400000

/-- Memory, kept from frame to frame of a version. -/
structure Store where
  version : Nat
  /-- The greatest block that may be met in parts. -/
  input : Nat
  /-- How many decoded bytes there is room for. -/
  output : Nat

def Store.none : Store := ⟨0, 0, 0⟩

/-- Memory for a frame: what there was is kept for frames of the same version. -/
def Store.fit (s : Store) (version : Nat) (h : Head) : Store :=
  if s.version = version then ⟨version, max s.input h.input, max s.output h.output⟩
  else ⟨version, h.input, h.output⟩

/-- Decodes blocks up to the end of a frame.  `used` bytes of the memory hold what was decoded
last.  Gives the bytes after the frame. -/
def blocks (s : Store) (h : Head) (start used : Nat) (d : Decoded) :
    Bytes → Except IoFault Bytes × Decoded
  | a :: b :: c :: rest =>
    match blockHead? a b c with
    | .none =>
      if h.checked && !isChecked (d.bytes.extract start d.bytes.size) a b c then
        (.error .other, d)
      else (.ok rest, d)
    | some (kind, size) =>
      let stored := if kind = .repeated then 1 else size
      if stored = 0 then (.ok rest, d)
      else if (rest.take stored).length < stored then
        (.error (if rest.length ≠ 0 ∧ s.input < stored then .other else .unexpectedEnd), d)
      else if kind ≠ .plain ∨ s.output < used + size then (.error .other, d)
      else
        let used := if s.output < used + size + h.block then 0 else used + size
        blocks s h start used (d.extend (Place.push d.bytes (rest.take size))) (rest.drop size)
  | _ => (.error .unexpectedEnd, d)
termination_by bs => bs.length
decreasing_by
  simp only [List.length_drop, List.length_cons]
  omega

/-- Decodes a frame, from the bytes after its first four on.  Gives the bytes after it, and the
memory that is left to later frames. -/
def frame (version : Nat) (bs : Bytes) (s : Store) (d : Decoded) :
    Except IoFault (Bytes × Store) × Decoded :=
  match Head.read version bs with
  | .error fault => (.error fault, d)
  | .ok (h, rest) =>
    let s := s.fit version h
    let (result, d) := blocks s h d.bytes.size 0 d rest
    (result.map fun rest => (rest, s), d)

end Early
end Zstd
end TickStream
