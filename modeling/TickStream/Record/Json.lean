import TickStream.Json.Printer
import TickStream.Record.Codec
import TickStream.Text.Blank
/-
Records in JSON: one object, with the header as its first member.
-/
namespace TickStream
namespace Record

/-- The members of a record's object.  A record of unknown tag shows its header and its
bytes. -/
def toJson : Record → Json
  | known h k body =>
    .object (("hd", h.toJson) :: Row.toMembers (k.layout .v2) (k.toRow .v2 body))
  | unrecognized h bytes =>
    .object [("header", h.toJson), ("bytes", .array (bytes.map fun b => .ofNat b.toNat))]

/-- Takes a body of the given kind from the members of a record's object. -/
def bodyOfMembers (k : Kind) (members : List (String × Json)) : Except Json.Fault k.Body :=
  (Row.ofObject (k.layout .v2) members).map (k.ofRow .v2)

end Record

namespace Codec

/-- The header with the length of the kind's records in place of its own, unless it was
given as an array. -/
def settleLength (c : Codec) (k : Kind) (hd : Json) (h : Header) : Header :=
  match hd with
  | .object _ => { h with length := c.words k }
  | _ => h

/-- Takes a record from the JSON value of its line.  The header comes first, then the
body it calls for. -/
def recordOfJson (c : Codec) (line : String) (j : Json) : Except Json.Fault Record := do
  let hd ← match j.member? "hd" with
    | some hd => .ok hd
    | none => .error (.mismatch (.missingField "hd"))
  let h ← Header.ofJson hd
  match Kind.ofTag? h.tag, j with
  | some k, .object members =>
    let body ← Record.bodyOfMembers k members
    return .known (c.settleLength k hd h) k body
  | _, _ => return .unrecognized h (Bytes.ofString (Text.trimEnd line))

/-- Reads a record from a line of JSON.  Lines have no lengths, so the header gets the
length that the record has in this stream.  A record of unknown tag keeps its line. -/
def decodeJson (c : Codec) (line : String) : Except Error Record :=
  match (Json.parse line).bind (c.recordOfJson line) with
  | .ok r => .ok r
  | .error e => .error (.json e)

end Codec
end TickStream
