import TickStream.Bytes.Intake
import TickStream.Record.Json
import TickStream.Scan.Phase
/-
Scanning a stream of JSON lines from front to back.

Every line that is not blank is a record; there is no metadata.  A last line without its
newline is still a line.  Lines have a limit, so that a stream without newlines is not
read into memory.
-/
namespace TickStream

structure LineScanner where
  source : Source
  /-- Settles the lengths of the headers. -/
  codec : Codec
  phase : Scan.Phase
  /-- The line of the last advance, without what ends it; empty when there is none. -/
  current : String
  /-- The position of the next line in the stream. -/
  offset : Nat
  /-- The lines read so far, blank ones among them. -/
  lines : Nat
  /-- The lines advanced to so far. -/
  records : Nat
  deriving Repr

namespace LineScanner

abbrev Step := EStateM Error LineScanner

def limit : Nat := 65536

def newline : UInt8 := 0x0a

def carriageReturn : UInt8 := 0x0d

/-- How records are read when nothing is said about it. -/
def defaultCodec : Codec := ⟨.v2, false⟩

def ofSource (source : Source) (codec : Codec) : LineScanner :=
  ⟨source, codec, .streaming, "", 0, 0, 0⟩

def isFailed (s : LineScanner) : Bool := s.phase = .failed

def decodeCurrent (s : LineScanner) : Except Error Record :=
  if s.current.isEmpty then .error (.badState "decode_current" s.phase.name)
  else s.codec.decodeJson s.current

/-- A byte that shows as empty space. -/
def isBlank (b : UInt8) : Bool :=
  b == 0x20 || b == 0x09 || b == newline || b == 0x0c || b == carriageReturn

/-- Bytes without a last one that is `b`. -/
def dropLast (b : UInt8) (bs : Bytes) : Bytes :=
  if bs.getLast? = some b then bs.dropLast else bs

/-- A line without what ends it; none if its end is not among the bytes that may be
read of a line. -/
def content? (line : Bytes) : Option Bytes :=
  if line.getLast? = some newline then some (dropLast carriageReturn line.dropLast)
  else if line.length ≤ limit then some line
  else none

/-- Advances to the next line that is not blank; false at the end of the stream. -/
def readLine (s : LineScanner) : EStateM.Result Error LineScanner Bool :=
  match _ : s.source.readUntil newline (limit + 1) with
  | (.error fault, source) => .error (.io fault) { s with source := source, current := "" }
  | (.ok [], source) => .ok false { s with source := source, phase := .finished, current := "" }
  | (.ok (b :: bs), source) =>
    let line := b :: bs
    let after := { s with
      source := source, current := "", offset := s.offset + line.length, lines := s.lines + 1 }
    match content? line with
    | none => .error (.lineTooLong after.lines limit) after
    | some content =>
      if content.all isBlank then readLine after
      else match Bytes.toString? content with
        | none => .error (.badUtf8 "JSON line" s.offset) after
        | some text => .ok true { after with current := text, records := s.records + 1 }
termination_by s.source.size
decreasing_by exact Source.size_readUntil (by assumption)

/-- A step whose failure is final. -/
def guarded {α : Type} (step : Step α) : Step α := fun s =>
  match step s with
  | .ok a s => .ok a s
  | .error e s => .error e { s with phase := .failed, current := "" }

/-- Advances to the next line without decoding it; false at the end of the stream. -/
def nextLine : Step Bool := do
  match (← get).phase with
  | .failed => throw .scannerFailed
  | .finished => return false
  | .fresh | .streaming => guarded readLine

def nextRecord : Step (Option Record) := do
  if ← nextLine then
    let s ← get
    return some (← guarded (ofExcept s.decodeCurrent))
  else return none

/-- More advances than a source has lines: every line has bytes of its own. -/
def bound (s : LineScanner) : Nat := s.source.size + 1

def nextRecords (n : Nat) (s : LineScanner) : List (Except Error Record) × LineScanner :=
  Scan.results nextRecord n s

def readAll : Step (List Record) := do
  Scan.collect nextRecord (bound (← get))

end LineScanner
end TickStream
