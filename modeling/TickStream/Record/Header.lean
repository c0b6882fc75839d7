import TickStream.Record.Scalar
/-
The header that every record begins with.
-/
namespace TickStream

structure Header where
  /-- The size of the record in words of four bytes, header included. -/
  length : UInt8
  tag : UInt8
  /-- Who published the record: venue and dataset. -/
  publisherId : UInt16
  instrumentId : UInt32
  /-- The time of the event at the venue. -/
  tsEvent : UInt64
  deriving DecidableEq, Repr

namespace Header

def size : Nat := 16

def recordSize (h : Header) : Nat := h.length.toNat * 4

def encode (h : Header) : Bytes :=
  Word.u8.encode h.length ++ Word.u8.encode h.tag ++ Word.u16.encode h.publisherId ++
    Word.u32.encode h.instrumentId ++ Word.u64.encode h.tsEvent

@[simp] theorem length_encode (h : Header) : h.encode.length = size := by
  simp [encode, Word.width, size]

def read : Reader Header := do
  let length ← Reader.word .u8 "record header"
  let tag ← Reader.word .u8 "record header"
  let publisherId ← Reader.word .u16 "record header"
  let instrumentId ← Reader.word .u32 "record header"
  let tsEvent ← Reader.word .u64 "record header"
  return ⟨length, tag, publisherId, instrumentId, tsEvent⟩

/-- The header at the front of a frame.  The record it states must have room for it. -/
def decode (frame : Bytes) : Except Error Header := do
  let h ← Reader.run read frame 0
  if h.recordSize < size then .error (.recordTooShort h.length)
  return h

/-! ## JSON -/

/-- The fields of a header.  JSON lines as a rule leave the length out. -/
abbrev slots : List (Slot Scalar) :=
  [.optional "length" (.word .u8) (0 : UInt8), .field "rtype" (.word .u8),
   .field "publisher_id" (.word .u16), .field "instrument_id" (.word .u32),
   .field "ts_event" .count]

def toRow (h : Header) : Row slots :=
  (h.length, h.tag, h.publisherId, h.instrumentId, h.tsEvent, ())

def ofRow : Row slots → Header
  | (length, tag, publisherId, instrumentId, tsEvent, ()) =>
    ⟨length, tag, publisherId, instrumentId, tsEvent⟩

def toJson (h : Header) : Json := .object (Row.toMembers slots h.toRow)

def ofJson (j : Json) : Except Json.Fault Header :=
  (Row.ofJson "RecordHeader" slots j).map ofRow

end Header
end TickStream
