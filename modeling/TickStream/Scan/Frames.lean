import TickStream.Metadata.Codec
import TickStream.Scan.Phase
/-
Scanning a stream of record frames from front to back.

The metadata is decoded on the first access; after that every advance takes one frame off
the source.  A stream may end between two frames.  An end anywhere else is a failure, and
a scanner that has failed reads no more.
-/
namespace TickStream

/-- A record frame, with the header that its first bytes hold. -/
structure Frame where
  header : Header
  bytes : Bytes
  deriving DecidableEq, Repr

structure FrameScanner where
  source : Source
  phase : Scan.Phase
  metadata : Option Metadata
  /-- The bytes that frames are read into, one over the other.  What a frame does not cover is
  left from earlier ones. -/
  scratch : Bytes
  /-- The header of the frame of the last advance. -/
  header : Option Header
  /-- The position of the next frame in the stream. -/
  offset : Nat
  frames : Nat
  deriving Repr

namespace FrameScanner

abbrev Step := EStateM Error FrameScanner

/-- The bytes that a scanner has for a frame.  No header states more. -/
def capacity : Nat := 1024

def ofSource (source : Source) : FrameScanner :=
  ⟨source, .fresh, none, Bytes.zeros capacity, none, 0, 0⟩

def isFailed (s : FrameScanner) : Bool := s.phase = .failed

/-- The size of the current frame, as its header states it; 0 if there is none. -/
def currentSize (s : FrameScanner) : Nat := (s.header.map Header.recordSize).getD 0

/-- The bytes of the current frame; none before the first and after the last. -/
def currentBytes (s : FrameScanner) : Bytes := s.scratch.take s.currentSize

def current (s : FrameScanner) : Option Frame := s.header.map fun h => ⟨h, s.currentBytes⟩

/-- How the records of the stream are written, once that is known. -/
def codec? (s : FrameScanner) : Option Codec := s.metadata.map Metadata.codec

def decodeCurrent (s : FrameScanner) : Except Error Record :=
  match s.header, s.codec? with
  | some h, some c => c.decodeBody h ((s.scratch.take h.recordSize).drop Header.size)
  | _, _ => .error (.badState "decode_current" s.phase.name)

/-- The send time of the current frame.  Frames of unknown tags are not taken to have
one. -/
def currentTsOut? (s : FrameScanner) : Option UInt64 := do
  let c ← s.codec?
  let h ← s.header
  let _ ← c.expectedSize? h.tag
  c.tsOut? s.currentBytes

/-! ## Steps -/

/-- A step that only reads the source. -/
def intake {α : Type} (r : Intake α) : Step α := fun s =>
  match r s.source with
  | .ok a source => .ok a { s with source := source }
  | .error e source => .error e { s with source := source }

/-- The scratch bytes with `bs` over those from `position` on. -/
def overwrite (scratch : Bytes) (position : Nat) (bs : Bytes) : Bytes :=
  scratch.take position ++ bs ++ scratch.drop (position + bs.length)

/-- Takes up to `n` bytes off the source into the scratch bytes from `position` on, and gives
their number. -/
def fill (position n : Nat) : Step Nat := do
  let bs ← intake (Intake.upTo n)
  modify fun s => { s with scratch := overwrite s.scratch position bs }
  return bs.length

/-- The same with all `n` bytes.  When the stream ends before them, they count as truncated at
`offset`. -/
def fillExactly (position n : Nat) (context : String) (offset : Nat) : Step Unit := do
  let got ← fill position n
  if got < n then throw (.truncated context offset n got)

/-- A step whose failure is final. -/
def guarded {α : Type} (step : Step α) : Step α := fun s =>
  match step s with
  | .ok a s => .ok a s
  | .error e s => .error e { s with phase := .failed, header := none }

def readMetadata : Step Unit := do
  let (m, size) ← intake Metadata.read
  modify fun s => { s with metadata := some m, phase := .streaming, offset := size }

/-- The metadata of the stream: decoded once, and known from then on. -/
def readHead : Step Metadata := do
  if (← get).phase = .fresh then guarded readMetadata
  match (← get).metadata with
  | some m => return m
  | none => throw .scannerFailed

/-- Whether a frame has the size that the layout of its tag asks for. -/
def checkSize (c : Option Codec) (h : Header) : Except Error Unit :=
  match c.bind (Codec.expectedSize? · h.tag) with
  | some expected =>
    if expected ≠ h.recordSize then .error (.recordLength h.tag expected h.recordSize) else .ok ()
  | none => .ok ()

/-- Takes the rest of a frame off the source.  Its header stands in the scratch bytes. -/
def readBody : Step Unit := do
  let s ← get
  let h ← ofExcept (Header.decode (s.scratch.take Header.size))
  ofExcept (checkSize s.codec? h)
  fillExactly Header.size (h.recordSize - Header.size) "record body" (s.offset + Header.size)
  modify fun s => { s with
    offset := s.offset + h.recordSize
    frames := s.frames + 1
    header := some h }

/-- Takes the next frame off the source; false at the end of the stream. -/
def readFrame : Step Bool := do
  let s ← get
  let got ← fill 0 Header.size
  if got = 0 then
    modify fun s => { s with phase := .finished, header := none }
    return false
  if got < Header.size then
    throw (.truncated "record header" s.offset Header.size got)
  readBody
  return true

/-- Advances to the next frame without decoding it; false at the end of the stream. -/
def nextFrame : Step Bool := do
  match (← get).phase with
  | .failed => throw .scannerFailed
  | .finished => return false
  | .fresh =>
    let _ ← readHead
    guarded readFrame
  | .streaming => guarded readFrame

def nextRecord : Step (Option Record) := do
  if ← nextFrame then
    let s ← get
    return some (← guarded (ofExcept s.decodeCurrent))
  else return none

/-- More advances than a source has records: every record has bytes of its own. -/
def bound (s : FrameScanner) : Nat := s.source.size + 1

def nextRecords (n : Nat) (s : FrameScanner) : List (Except Error Record) × FrameScanner :=
  Scan.results nextRecord n s

def readAll : Step (List Record) := do
  Scan.collect nextRecord (bound (← get))

end FrameScanner
end TickStream
