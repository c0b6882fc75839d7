import TickStream.Archive.Zstd.Early
import TickStream.Bytes.Source
/-
Compressed streams: frames, one after the other.  Frames to be skipped may stand between them.
-/
namespace TickStream
namespace Zstd

def magic : Bytes := [0x28, 0xb5, 0x2f, 0xfd]

/-- The bytes that begin a frame to be skipped; the low half of the first is free. -/
def skipMagic : Bytes := [0x50, 0x2a, 0x4d, 0x18]

def begins (bs : Bytes) : Bool := bs.take 4 = magic.take bs.length

def beginsSkip (bs : Bytes) : Bool :=
  let free (b : UInt8) : UInt8 := b / 16 * 16
  (bs.take 1).map free ++ (bs.drop 1).take 3 = skipMagic.take bs.length

structure Kept where
  arena : Arena
  early : Early.Store

/-- Decodes the frame at the front of a stream, or skips it.  Gives the bytes after it. -/
def first (bs : Bytes) (k : Kept) (d : Decoded) : Except IoFault (Bytes × Kept) × Decoded :=
  match Early.version? bs with
  | some version =>
    let (result, d) := Early.frame version (bs.drop 4) k.early d
    (result.map fun r => (r.1, { k with early := r.2 }), d)
  | none =>
    if !begins bs && !beginsSkip bs then (.error .other, d)
    else if bs.length < 4 then (.error .unexpectedEnd, d)
    else
      let (result, d) :=
        if begins bs then frame (bs.drop 4) k.arena d else (skip (bs.drop 4) k.arena, d)
      (result.map fun r => (r.1, { k with arena := r.2 }), d)

/-- Decodes up to `fuel` frames: the content, and how decoding failed if it did.  There must be a
frame, and nothing may stand after the last one. -/
def frames : (fuel : Nat) → Bytes → Kept → Decoded → Option IoFault × Decoded
  | 0, _, _, d => (none, d)
  | fuel + 1, bs, k, d =>
    match first bs k d with
    | (.error fault, d) => (some fault, d)
    | (.ok ([], _), d) => (none, d)
    | (.ok (rest, k), d) => frames fuel rest k d.flush

/-- Decodes a stream: the content that reads as demanded give, and how decoding failed if it
did. -/
def decode (demand : Demand) (bs : Bytes) : Option IoFault × Bytes :=
  let (fault, d) := frames (bs.length + 1) bs ⟨.none, .none⟩ (.empty demand)
  (fault, (d.outcome fault).data.toList)

def source (demand : Demand) (bs : Bytes) : Source :=
  let (fault, content) := decode demand bs
  .data content :: (fault.map Delivery.failed).toList

/-! ## Writing -/

def blockHead (last : Bool) (size : Nat) : Bytes := Bytes.ofNat 3 (8 * size + if last then 1 else 0)

def plainBlocks : List Bytes → Bytes
  | [] => blockHead true 0
  | [piece] => blockHead true piece.length ++ piece
  | piece :: rest => blockHead false piece.length ++ piece ++ plainBlocks rest

/-- What describes the frames written: the window has the size of a block, and nothing else is
said. -/
def plainHead : Bytes := [0x00, 0x38]

def encode (content : Bytes) : Bytes :=
  magic ++ plainHead ++ plainBlocks (content.pieces blockLimit)

end Zstd
end TickStream
