import TickStream.Live.Counts
import TickStream.Live.Session
import TickStream.Live.Sink
/-
Relaying a session: its metadata and its records, as they come, into a sink.

Frames are passed on byte for byte, whether or not their bodies decode, and so are lines.
The session is stopped at the end, however the relay ends.
-/
namespace TickStream
namespace Live

/-- What became of the output of a relay. -/
inductive Output where
  /-- It was not asked for. -/
  | unopened
  /-- It was asked for and could not be opened. -/
  | refused
  | opened (sink : Sink)

structure Relay where
  session : Session
  output : Output
  counts : Counts

namespace Relay

abbrev Step := EStateM Error Relay

def inSession {α : Type} (step : Session.Step α) : Step α := fun r =>
  match step r.session with
  | .ok a s => .ok a { r with session := s }
  | .error e s => .error e { r with session := s }

def inOutput (step : EStateM Error Sink Unit) : Step Unit := fun r =>
  match r.output with
  | .opened sink =>
    match step sink with
    | .ok () sink => .ok () { r with output := .opened sink }
    | .error e sink => .error e { r with output := .opened sink }
  | _ => .ok () r

def openOutput (output : Except Error Sink) : Step Unit := fun r =>
  match output with
  | .ok sink => .ok () { r with output := .opened sink }
  | .error e => .error e { r with output := .refused }

/-- The result of a step, which is kept from failing. -/
def attempt {α : Type} (step : Step α) : Step (Except Error α) := fun r =>
  match step r with
  | .ok a r => .ok (.ok a) r
  | .error e r => .ok (.error e) r

def count (tag : UInt8) : Step Unit := modify fun r => { r with counts := r.counts.add tag }

/-- Writes the current frame or line and counts it.  A line that does not decode is
written and not counted. -/
def passOn : Step Unit := do
  match (← get).session.feed with
  | some (.frames scanner) =>
    inOutput (Sink.write scanner.currentBytes)
    match scanner.current with
    | some frame => count frame.header.tag
    | none => return ()
  | some (.lines scanner) =>
    inOutput (Sink.write (Bytes.ofString scanner.current))
    inOutput (Sink.write [LineScanner.newline])
    match scanner.decodeCurrent with
    | .ok r => count r.header.tag
    | .error _ => return ()
  | none => return ()

/-- Passes on up to `n` frames or lines.  When the session fails after an interruption,
that is its end. -/
def copy (interrupted : Bool) : (n : Nat) → Step Unit
  | 0 => return ()
  | n + 1 => do
    match ← attempt (inSession Session.nextFrame) with
    | .ok true =>
      passOn
      copy interrupted n
    | .ok false => return ()
    | .error e =>
      if interrupted then return ()
      let _ ← attempt (inOutput Sink.flush)
      throw e

/-- More frames and lines than the session has. -/
def bound (r : Relay) : Nat := (r.session.feed.map Feed.bound).getD 0

/-- What a relay does once its output is open. -/
def passAll (metadata : Option Metadata) (interrupted : Bool) : Step Counts := do
  match metadata with
  | some m => inOutput (Sink.write (← ofExcept m.encode))
  | none => pure ()
  copy interrupted (bound (← get))
  inOutput Sink.flush
  return (← get).counts

/-- Starts the session, asks for the output and passes all of the session on.  The output is not
asked for before the session has started.  Whoever asks may keep a state of their own beside the
relay, in which the relay takes its steps by `inRelay`. -/
def transferAsking {σ : Type} (inRelay : {α : Type} → Step α → EStateM Error σ α)
    (ask : EStateM Error σ Unit) (subs : List Subscription) (interrupted : Bool) :
    EStateM Error σ Counts := do
  let _ ← inRelay (inSession Session.authenticate)
  subs.forM fun sub => inRelay (inSession (Session.subscribe sub))
  let metadata ← inRelay (inSession Session.start)
  ask
  inRelay (passAll metadata interrupted)

/-- The same when it is known how the output will be opened. -/
def transfer (subs : List Subscription) (output : Except Error Sink) (interrupted : Bool) :
    Step Counts :=
  transferAsking (fun step => step) (openOutput output) subs interrupted

structure Outcome where
  result : Except Error Counts
  session : Session
  output : Output

/-- Relays a session and stops it.  A failure of the relay comes before one of the stop. -/
def run (s : Session) (subs : List Subscription) (output : Except Error Sink)
    (interrupted : Bool) : Outcome :=
  match transfer subs output interrupted ⟨s, .unopened, .empty⟩ with
  | .ok counts r =>
    match Session.stop r.session with
    | .ok () s => ⟨.ok counts, s, r.output⟩
    | .error e s => ⟨.error e, s, r.output⟩
  | .error e r =>
    match Session.stop r.session with
    | .ok () s => ⟨.error e, s, r.output⟩
    | .error _ s => ⟨.error e, s, r.output⟩

end Relay
end Live
end TickStream
