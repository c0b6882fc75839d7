import TickStream.Live.Connection
import TickStream.Live.Feed
import TickStream.Live.Message
import TickStream.Live.Request
import TickStream.Live.Settings
/-
A session with a gateway, from the greeting to the last record.

The steps of a session have one order, and each looks at the state before it touches the
connection.  A call out of order changes nothing; any other failure ends the session.
-/
namespace TickStream
namespace Live

inductive SessionState where
  | connected
  | awaitingGreeting
  | awaitingChallenge
  /-- The challenge is answered, and the verdict has not been read. -/
  | authenticating
  | authenticated
  | subscribing
  /-- Records were asked for, and what comes before them has not been read. -/
  | started
  | streaming
  /-- Closed by the caller. -/
  | stopped
  /-- Closed by a failure. -/
  | failed
  deriving DecidableEq, Repr

namespace SessionState

def name : SessionState → String
  | connected => "Connected"
  | awaitingGreeting => "AwaitingGreeting"
  | awaitingChallenge => "AwaitingChallenge"
  | authenticating => "Authenticating"
  | authenticated => "Authenticated"
  | subscribing => "Subscribing"
  | started => "Started"
  | streaming => "Streaming"
  | stopped => "Stopped"
  | failed => "Failed"

end SessionState

structure Session where
  settings : Settings
  connection : Connection
  state : SessionState
  /-- The version that the gateway's greeting states. -/
  gatewayVersion : Option String
  /-- The identifier that the gateway has given the session. -/
  id : Option String
  /-- What a session of frames says about itself once it has started. -/
  metadata : Option Metadata
  /-- The records, once the session has started. -/
  feed : Option Feed
  subscriptions : List Subscription
  deriving Repr

namespace Session

abbrev Step := EStateM Error Session

def newline : UInt8 := 0x0a

/-- The greatest number of bytes of a control line, with its newline. -/
def lineLimit : Nat := 24576

def ofConnection (settings : Settings) (connection : Connection) : Session :=
  ⟨settings, connection, .connected, none, none, none, none, []⟩

/-- Opens a session, if the settings are good and the network gives a connection. -/
def connect (settings : Settings) (network : Except IoFault Connection) :
    Except Error Session := do
  let _ ← settings.validate
  match network with
  | .error fault => .error (.transport .connecting fault)
  | .ok connection =>
    return { ofConnection settings connection with state := .awaitingGreeting }

/-! ## Parts of steps -/

/-- Refuses an operation in a state it is not meant for. -/
def expect (operation : String) (allowed : List SessionState) : Step Unit := do
  let state := (← get).state
  if !allowed.contains state then throw (.badState operation state.name)

def fail (s : Session) : Session := { s with state := .failed, connection := s.connection.close }

/-- A step whose failure ends the session, unless the caller is at fault or has ended it. -/
def guarded {α : Type} (step : Step α) : Step α := fun s =>
  match step s with
  | .ok a s => .ok a s
  | .error e s => .error e (if e.category = .usage || s.state = .stopped then s else s.fail)

/-- What a control line says, if it is one. -/
def controlLine (phase : Phase) (bs : Bytes) : Except Error String :=
  if bs.isEmpty then .error (.transport phase .unexpectedEnd)
  else match Bytes.toString? bs with
    | none => .error (.transport phase .invalidData)
    | some line =>
      if bs.getLast? = some newline then .ok line
      else .error (.protocol (.longLine lineLimit phase))

def readLine (phase : Phase) : Step String := do
  let s ← get
  match s.connection.incoming with
  | none => throw (.badState phase.text s.state.name)
  | some incoming =>
    match incoming.readUntil newline lineLimit with
    | (.error fault, rest) =>
      set { s with connection := { s.connection with incoming := some rest } }
      throw (.transport phase fault)
    | (.ok bs, rest) =>
      set { s with connection := { s.connection with incoming := some rest } }
      ofExcept (controlLine phase bs)

def sendLine (phase : Phase) (line : String) : Step Unit := do
  let s ← get
  let (result, connection) := s.connection.send (Bytes.ofString line)
  set { s with connection := connection }
  match result with
  | .ok () => return ()
  | .error fault => throw (.transport phase fault)

/-! ## Steps -/

def enter (state : SessionState) : Step Unit := modify fun s => { s with state := state }

/-- Answers the gateway's challenge and hears its verdict. -/
def handshake : Step String := do
  let version ← ofExcept (greeting (← readLine .readingGreeting))
  modify fun s => { s with gatewayVersion := some version, state := .awaitingChallenge }
  let token ← ofExcept (challenge (← readLine .readingChallenge))
  let answer ← ofExcept ((← get).settings.authentication token)
  sendLine .sendingAuthentication answer.line
  enter .authenticating
  let verdict ← ofExcept (Verdict.parse (← readLine .readingResponse))
  let id ← ofExcept verdict.accept
  modify fun s => { s with id := some id, state := .authenticated }
  return id

def authenticate : Step String := do
  expect "authenticate" [.awaitingGreeting]
  guarded handshake

def subscribe (sub : Subscription) : Step Unit := do
  expect "subscribe" [.authenticated, .subscribing]
  let line ← ofExcept sub.line
  guarded (sendLine .sendingSubscription line)
  modify fun s => { s with subscriptions := s.subscriptions ++ [sub], state := .subscribing }

/-- How records are written in a session of lines. -/
def lineCodec (s : Settings) : Codec := ⟨.v2, s.tsOut⟩

/-- Gives up what comes in, for a feed to read it. -/
def handOver : Step Source := do
  let s ← get
  match s.connection.incoming with
  | none => throw (.badState "start" s.state.name)
  | some incoming =>
    set { s with connection := { s.connection with incoming := none } }
    return incoming

def attach (feed : Feed) (metadata : Option Metadata) (s : Session) : Session :=
  { s with feed := some feed, metadata := metadata, state := .streaming }

/-- Asks for records and reads what comes before them. -/
def beginRecords : Step (Option Metadata) := do
  sendLine .sendingStart startLine
  enter .started
  let incoming ← handOver
  let s ← get
  if s.settings.encoding = .json then
    set (s.attach (.lines (LineScanner.ofSource incoming (lineCodec s.settings))) none)
    return none
  match FrameScanner.readHead (FrameScanner.ofSource incoming) with
  | .error e _ => throw (e.during .readingMetadata)
  | .ok m scanner =>
    set (s.attach (.frames scanner) (some m))
    return some m

/-- Starts the records.  A session of frames has metadata, a session of lines has none. -/
def start : Step (Option Metadata) := do
  expect "start" [.subscribing]
  guarded beginRecords

def inFeed {α : Type} (operation : String) (step : EStateM Error Feed α) : Step α := do
  expect operation [.streaming]
  guarded fun s =>
    match s.feed with
    | none => .error (.badState operation SessionState.streaming.name) s
    | some feed =>
      match step feed with
      | .ok a feed => .ok a { s with feed := some feed }
      | .error e feed => .error (e.during .streaming) { s with feed := some feed }

def nextRecord : Step (Option Record) := inFeed "next_record" Feed.nextRecord

/-- Advances to the next frame or line without decoding it; false at the end. -/
def nextFrame : Step Bool := inFeed "next_frame" Feed.nextFrame

/-- Ends the session.  A session that has ended so stays as it is. -/
def stop : Step Unit := do
  let s ← get
  if s.state = .stopped then return ()
  set { s with state := .stopped, connection := s.connection.close }
  match s.connection.closing with
  | none => return ()
  | some fault => throw (.transport .closing fault)

def disconnect (s : Session) : Session :=
  { s with connection := s.connection.close, feed := s.feed.map Feed.close }

end Session
end Live
end TickStream
