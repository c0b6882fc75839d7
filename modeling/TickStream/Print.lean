import TickStream.Metadata.Json
import TickStream.Record.Json
import TickStream.Scan.Frames
/-
Streams as text: one line of JSON for the metadata and one for every record.  Records of
unknown tags are left out.
-/
namespace TickStream
namespace Print

def line (j : Json) : String := j.compact ++ "\n"

/-- The line of a record; none for a record of unknown tag. -/
def recordLine? (r : Record) : Option String :=
  if r.isUnrecognized then none else some (line r.toJson)

structure Printed (α : Type) where
  result : Except Error α
  text : String
  /-- What was not read of the stream. -/
  left : Source

def metadata (source : Source) : Printed Unit :=
  match FrameScanner.readHead (FrameScanner.ofSource source) with
  | .ok m s => ⟨.ok (), line m.toJson, s.source⟩
  | .error e s => ⟨.error e, "", s.source⟩

/-- The lines of the records before the first failure, and the failure if there is one. -/
def recordLines : List (Except Error Record) → Except Error Unit × List String
  | [] => (.ok (), [])
  | .error e :: _ => (.error e, [])
  | .ok r :: rest =>
    let (result, lines) := recordLines rest
    (result, (recordLine? r).toList ++ lines)

def records (source : Source) (withMetadata : Bool) : Printed Nat :=
  match FrameScanner.readHead (FrameScanner.ofSource source) with
  | .error e s => ⟨.error e, "", s.source⟩
  | .ok m s =>
    let head := if withMetadata then [line m.toJson] else []
    let (items, s) := s.nextRecords s.bound
    let (result, lines) := recordLines items
    ⟨result.map fun _ => lines.length, String.join (head ++ lines), s.source⟩

end Print
end TickStream
