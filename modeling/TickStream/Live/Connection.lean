import TickStream.Bytes.Intake
/-
The connection of a session to its gateway: what comes in, what has gone out, and how
writes end.
-/
namespace TickStream
namespace Live

/-- A connection.  A message is written as a whole or not at all. -/
structure Connection where
  /-- What the gateway sends and has not been read, until a feed reads it.  The first delivery is
  in a buffer. -/
  incoming : Option Source
  /-- How the writes to come fail, if they do; after these, none fails. -/
  writes : List (Option IoFault)
  /-- How closing fails, if it does. -/
  closing : Option IoFault
  sent : List Bytes
  closed : Bool
  deriving Repr

namespace Connection

def opened (incoming : Source) (writes : List (Option IoFault)) (closing : Option IoFault) :
    Connection :=
  ⟨some incoming, writes, closing, [], false⟩

def send (message : Bytes) (c : Connection) : Except IoFault Unit × Connection :=
  if c.closed then (.error .brokenPipe, c)
  else match c.writes with
    | [] => (.ok (), { c with sent := c.sent ++ [message] })
    | none :: rest => (.ok (), { c with writes := rest, sent := c.sent ++ [message] })
    | some fault :: rest => (.error fault, { c with writes := rest })

/-- Closes both directions.  What is in the buffer can still be read. -/
def close (c : Connection) : Connection :=
  { c with closed := true, incoming := c.incoming.map Source.buffered }

end Connection
end Live
end TickStream
