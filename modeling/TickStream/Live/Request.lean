import TickStream.Timestamp
import TickStream.Vocabulary.Encoding
import TickStream.Vocabulary.Schema
import TickStream.Vocabulary.Symbology
import TickStream.Error
/-
Control lines to the gateway.
-/
namespace TickStream
namespace Live

/-- The answer to the challenge, and what the session shall be like. -/
structure Authentication where
  auth : String
  dataset : String
  encoding : Encoding
  tsOut : Bool
  client : String
  deriving DecidableEq, Repr

namespace Authentication

def line (a : Authentication) : String :=
  "auth=" ++ a.auth ++ "|dataset=" ++ a.dataset ++ "|encoding=" ++ a.encoding.name ++
    "|ts_out=" ++ (if a.tsOut then "1" else "0") ++ "|client=" ++ a.client ++ "\n"

end Authentication

/-- A wish for the records of some symbols. -/
structure Subscription where
  schema : Schema
  stypeIn : Symbology
  symbols : List String
  /-- From when on past records are wanted; none if only new ones are. -/
  start : Option UInt64
  /-- Whether the state of the book is wanted first. -/
  snapshot : Bool
  deriving DecidableEq, Repr

namespace Subscription

/-- The same subscription, from a moment on. -/
def since (s : Subscription) (m : Moment) : Subscription :=
  { s with start := some (Timestamp.ofMoment m) }

def line (s : Subscription) : Except Error String :=
  if s.symbols.isEmpty then .error .emptySubscription
  else
    let time := match s.start with
      | some ts => "|time=" ++ Text.padded 1 ts.toNat
      | none => ""
    .ok ("schema=" ++ s.schema.name ++ "|stype_in=" ++ s.stypeIn.name ++ time ++
      (if s.snapshot then "|snapshot=1" else "") ++ "|symbols=" ++
      ",".intercalate s.symbols ++ "\n")

end Subscription

def startLine : String := "start_session=\n"

end Live
end TickStream
