import TickStream.Bytes.Word
import TickStream.Calendar
import TickStream.Json.Fault
import TickStream.Live.Phase
import TickStream.Vocabulary.Encoding
/-
Everything that can go wrong, by cause, with the one place where causes become words.
-/
namespace TickStream

/-- How a file or a connection fails. -/
inductive IoFault where
  | notFound
  | networkUnreachable
  | connectionReset
  | brokenPipe
  | invalidData
  | unexpectedEnd
  | other
  deriving DecidableEq, Repr

inductive ProtocolFault where
  /-- `message` lacks the pair `key`. -/
  | missingKey (message key : String)
  | badFlag (value : String)
  /-- A control line of more than `limit` bytes. -/
  | longLine (limit : Nat) (phase : Live.Phase)
  deriving DecidableEq, Repr

inductive ConfigFault where
  | noDataset
  /-- A key that has not `expected` ASCII characters; it has `got` characters. -/
  | badKey (expected got : Nat)
  | encodingUnsupported (encoding : Encoding)
  /-- Send timestamps asked of a codec that has none. -/
  | noSendTime
  /-- An output that cannot be opened, in the words of whoever provides it. -/
  | output (reason : String)
  deriving DecidableEq, Repr

inductive SymbolFault where
  /-- Neither side of the mappings names instruments by number. -/
  | noInstrumentSide
  | badInstrument (text : String)
  | badDate (ymd : UInt32)
  | reversed (first last : UInt32)
  /-- The calendar has no day after this one. -/
  | dateOverflow (day : Date)
  | outsideQuery (ts : UInt64)
  deriving DecidableEq, Repr

inductive Error where
  | io (fault : IoFault)
  /-- The connection failed during a phase of the session. -/
  | transport (phase : Live.Phase) (fault : IoFault)
  /-- The section `context` at `offset` has `got` bytes of the `expected` ones. -/
  | truncated (context : String) (offset expected got : Nat)
  /-- A record of `got` bytes where the layout of its tag has `expected`. -/
  | recordLength (tag : UInt8) (expected got : Nat)
  /-- A record of `words` words, fewer than a header has. -/
  | recordTooShort (words : UInt8)
  | badMagic (magic : Bytes)
  | badVersion (version : UInt8)
  /-- Metadata of `version` that states symbols of `got` bytes. -/
  | symbolWidth (version : UInt8) (expected got : Nat)
  /-- A byte that is not zero, at `offset`, after the end of a fixed-width text. -/
  | badPadding (field : String) (offset : Nat)
  /-- A fixed-width text, starting at `offset`, that is not UTF-8. -/
  | badUtf8 (field : String) (offset : Nat)
  /-- A number, at `offset`, that stands for nothing. -/
  | unknownValue (field : String) (value offset : Nat)
  /-- A text of `length` bytes, too long for a field of `width` bytes. -/
  | textTooLong (field : String) (length width : Nat)
  | badPrice (text : String)
  /-- The line with this number has more than `limit` bytes. -/
  | lineTooLong (line limit : Nat)
  | protocol (fault : ProtocolFault)
  /-- The gateway's refusal, in its own words. -/
  | refused (reason : String)
  | emptySubscription
  /-- `operation` is not allowed in `state`. -/
  | badState (operation state : String)
  | config (fault : ConfigFault)
  | scannerFailed
  | symbolMap (fault : SymbolFault)
  | json (fault : Json.Fault)
  deriving DecidableEq, Repr

inductive ErrorCategory where
  /-- Lengths that do not fit together, and data cut off. -/
  | framing
  /-- Data that has the right length and makes no sense. -/
  | format
  /-- A handshake that went wrong. -/
  | protocol
  /-- Failures of files and connections. -/
  | transport
  /-- Misuse by the caller. -/
  | usage
  deriving DecidableEq, Repr

namespace ErrorCategory

def name : ErrorCategory → String
  | framing => "framing"
  | format => "format"
  | protocol => "protocol"
  | transport => "transport"
  | usage => "usage"

end ErrorCategory

namespace IoFault

def text : IoFault → String
  | notFound => "not found"
  | networkUnreachable => "network unreachable"
  | connectionReset => "connection reset"
  | brokenPipe => "broken pipe"
  | invalidData => "invalid data"
  | unexpectedEnd => "gateway closed the connection"
  | other => "unreadable data"

end IoFault

namespace ProtocolFault

def message : ProtocolFault → String
  | missingKey message key => s!"{message} is missing required key '{key}'"
  | badFlag value => s!"authentication response has invalid success flag '{value}'"
  | longLine limit phase => s!"control line longer than {limit} bytes while {phase.text}"

end ProtocolFault

namespace ConfigFault

def message : ConfigFault → String
  | noDataset => "dataset is unset"
  | badKey expected got => s!"API key must be {expected} ASCII characters, got {got}"
  | encodingUnsupported e => s!"encoding '{e.name}' is not supported, only 'dbn' or 'json'"
  | noSendTime => "codec was created without ts_out"
  | output reason => reason

end ConfigFault

namespace SymbolFault

def message : SymbolFault → String
  | noInstrumentSide => "either stype_in or stype_out must be instrument_id"
  | badInstrument text => s!"'{text}' is not an instrument ID"
  | badDate ymd => s!"invalid date {ymd.toNat}"
  | reversed first last => s!"start date {first.toNat} is after end date {last.toNat}"
  | dateOverflow day => s!"date overflow after {day.text}"
  | outsideQuery ts => s!"timestamp {ts.toNat} is outside the query range"

end SymbolFault

namespace Error

def category : Error → ErrorCategory
  | io _ | transport _ _ => .transport
  | truncated _ _ _ _ | recordLength _ _ _ | recordTooShort _ | lineTooLong _ _ => .framing
  | badMagic _ | badVersion _ | symbolWidth _ _ _ | badPadding _ _ | badUtf8 _ _
  | unknownValue _ _ _ | badPrice _ => .format
  | protocol _ | refused _ => .protocol
  | textTooLong _ _ _ | emptySubscription | badState _ _ | config _ | scannerFailed
  | symbolMap _ => .usage
  | json .truncated => .framing
  | json .malformed | json (.mismatch _) => .format

/-- A failure of a source, as a failure of the connection during a phase of the session. -/
def during (phase : Live.Phase) : Error → Error
  | io fault => transport phase fault
  | e => e

/-- Two lower-case hexadecimal digits after `0x`. -/
def hexByte (b : UInt8) : String :=
  "0x" ++ String.ofList [Nat.digitChar (b.toNat / 16), Nat.digitChar (b.toNat % 16)]

/-- Bytes in decimal, between brackets. -/
def byteList (bs : Bytes) : String :=
  "[" ++ ", ".intercalate (bs.map fun b => String.ofList (Nat.toDigits 10 b.toNat)) ++ "]"

def message : Error → String
  | io fault => s!"I/O error: {fault.text}"
  | transport phase fault => s!"Transport error while {phase.text}: {fault.text}"
  | truncated context offset expected got =>
    s!"Truncated {context} at offset {offset}: expected {expected} bytes, got {got}"
  | recordLength tag expected got =>
    s!"Record length mismatch for rtype {hexByte tag}: expected {expected} bytes, got {got}"
  | recordTooShort words =>
    s!"Record length of {words.toNat} words is shorter than a record header"
  | badMagic magic => s!"Invalid DBN magic: {byteList magic}"
  | badVersion version => s!"Unsupported DBN version: {version.toNat}"
  | symbolWidth version expected got =>
    s!"Unexpected symbol width {got} for DBN version {version.toNat}, expected {expected}"
  | badPadding field offset =>
    s!"Invalid C string in {field} at offset {offset}: non-NUL byte after terminator"
  | badUtf8 field offset => s!"Invalid UTF-8 in {field} at offset {offset}"
  | unknownValue field value offset => s!"Unknown {field} value {value} at offset {offset}"
  | textTooLong field length width =>
    s!"Value for {field} is {length} bytes, must be shorter than {width}"
  | badPrice text => Json.badPriceText text
  | lineTooLong line limit => s!"JSON line {line} exceeds {limit} bytes"
  | protocol fault => s!"Protocol error: {fault.message}"
  | refused reason => s!"Authentication failed: {reason}"
  | emptySubscription => "Subscription request must contain at least one symbol"
  | badState operation state => s!"Cannot {operation} while session is {state}"
  | config fault => s!"Configuration error: {fault.message}"
  | scannerFailed => "Scanner is unusable after a previous error"
  | symbolMap fault => s!"Symbol map error: {fault.message}"
  | json fault => s!"JSON serialization/deserialization error: {fault.message}"

end Error
end TickStream
