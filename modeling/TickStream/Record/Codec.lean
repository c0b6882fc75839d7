import TickStream.Record.Basic
import TickStream.Timestamp
/-
Record frames: records in bytes.  Sizes are settled before any field is read, so a
frame of the right size can only be refused for its texts.
-/
namespace TickStream

/-- How the records of one stream are written: the version of the format, and whether
each record ends with the time the gateway sent it. -/
structure Codec where
  version : Version
  tsOut : Bool
  deriving DecidableEq, Repr

namespace Codec

def tsOutSize : Nat := 8

def size (c : Codec) (k : Kind) : Nat := k.size c.version + if c.tsOut then tsOutSize else 0

/-- The bytes of a record with the given tag, if the tag is known. -/
def expectedSize? (c : Codec) (tag : UInt8) : Option Nat := (Kind.ofTag? tag).map c.size

def words (c : Codec) (k : Kind) : UInt8 := UInt8.ofNat (c.size k / 4)

/-- A header of the right length for its tag. -/
def header (c : Codec) (tag : UInt8) (publisherId : UInt16) (instrumentId : UInt32)
    (tsEvent : UInt64) : Except Error Header :=
  match Kind.ofTag? tag with
  | none => .error (.unknownValue "rtype" tag.toNat 1)
  | some k => .ok ⟨c.words k, tag, publisherId, instrumentId, tsEvent⟩

/-- Reads what follows a header.  The bytes must be as many as the header states, and as
many as the layout of its tag has. -/
def decodeBody (c : Codec) (h : Header) (body : Bytes) : Except Error Record :=
  let got := body.length + Header.size
  if got ≠ h.recordSize then .error (.recordLength h.tag h.recordSize got)
  else match Kind.ofTag? h.tag with
    | none => .ok (.unrecognized h (h.encode ++ body))
    | some k =>
      if h.recordSize ≠ c.size k then .error (.recordLength h.tag (c.size k) h.recordSize)
      else do
        let row ← Reader.run (Row.read (k.layout c.version)) body Header.size
        return .known h k (k.ofRow c.version row)

def decode (c : Codec) (frame : Bytes) : Except Error Record := do
  let h ← Header.decode frame
  c.decodeBody h (frame.drop Header.size)

/-- The send time at the end of a frame, in streams that have it. -/
def tsOut? (c : Codec) (frame : Bytes) : Option UInt64 :=
  if !c.tsOut || frame.length < Header.size + tsOutSize then none
  else some (Word.u64.decode (frame.drop (frame.length - tsOutSize)))

/-- Writes a record that was sent at `tsOut`.  A record of unknown tag is written as it
was found. -/
def encodeAt (c : Codec) (r : Record) (tsOut : UInt64) : Except Error Bytes :=
  match r with
  | .unrecognized h bytes =>
    if bytes.length ≠ h.recordSize then .error (.recordLength h.tag h.recordSize bytes.length)
    else .ok bytes
  | .known h k body =>
    if Kind.ofTag? h.tag ≠ some k then .error (.unknownValue "rtype" h.tag.toNat 1)
    else if h.recordSize ≠ c.size k then .error (.recordLength h.tag (c.size k) h.recordSize)
    else do
      let bs ← Row.encode (k.layout c.version) (k.toRow c.version body)
      return h.encode ++ bs ++ if c.tsOut then Word.u64.encode tsOut else []

def encode (c : Codec) (r : Record) : Except Error Bytes := c.encodeAt r Timestamp.undefined

/-- Writes a record with its send time, in a stream that has send times. -/
def encodeWithTsOut (c : Codec) (r : Record) (tsOut : UInt64) : Except Error Bytes :=
  if c.tsOut then c.encodeAt r tsOut else .error (.config .noSendTime)

end Codec
end TickStream
