import TickStream.Scan.Frames
import TickStream.Scan.Lines
/-
The records of a session, as they come after its start: frames or lines.
-/
namespace TickStream
namespace Live

/-- The reader of the records of a session. -/
inductive Feed where
  | frames (s : FrameScanner)
  | lines (s : LineScanner)
  deriving Repr

namespace Feed

def step {α : Type} (onFrames : FrameScanner.Step α) (onLines : LineScanner.Step α) :
    EStateM Error Feed α
  | frames s =>
    match onFrames s with
    | .ok a s => .ok a (frames s)
    | .error e s => .error e (frames s)
  | lines s =>
    match onLines s with
    | .ok a s => .ok a (lines s)
    | .error e s => .error e (lines s)

def nextRecord : EStateM Error Feed (Option Record) :=
  step FrameScanner.nextRecord LineScanner.nextRecord

def nextFrame : EStateM Error Feed Bool := step FrameScanner.nextFrame LineScanner.nextLine

/-- More advances than there are frames or lines. -/
def bound : Feed → Nat
  | frames s => s.bound
  | lines s => s.bound

def close : Feed → Feed
  | frames s => frames { s with source := s.source.buffered }
  | lines s => lines { s with source := s.source.buffered }

end Feed
end Live
end TickStream
