/-
What a live session is doing when its connection fails.
-/
namespace TickStream
namespace Live

/-- A step of a session that reads or writes the connection. -/
inductive Phase where
  | connecting
  | readingGreeting
  | readingChallenge
  | sendingAuthentication
  | readingResponse
  | sendingSubscription
  | sendingStart
  | readingMetadata
  | streaming
  | closing
  deriving DecidableEq, Repr

namespace Phase

def text : Phase → String
  | connecting => "connecting"
  | readingGreeting => "reading greeting"
  | readingChallenge => "reading challenge"
  | sendingAuthentication => "sending authentication request"
  | readingResponse => "reading authentication response"
  | sendingSubscription => "sending subscription"
  | sendingStart => "sending session start"
  | readingMetadata => "reading session metadata"
  | streaming => "streaming records"
  | closing => "closing connection"

end Phase
end Live
end TickStream
