import TickStream.Inspector
import TickStream.Live.Program
/-
The tools as programs: `dbn_file` prints what is in files, `dbn_live` relays a session.  The
first argument names the tool.  All that a tool decides is decided elsewhere; here its files
are read and written.
-/
namespace TickStream
namespace Main

def readFile (path : String) : IO (Except IoFault Bytes) := do
  try
    return .ok (← IO.FS.readBinFile path).data.toList
  catch _ => return .error .notFound

partial def readAll (stream : IO.FS.Stream) (read : ByteArray) : IO ByteArray := do
  let piece ← stream.read 65536
  if piece.isEmpty then return read else readAll stream (read ++ piece)

def inspect (args : List String) : IO UInt32 := do
  let paths := match Inspector.parse args with
    | .ok (.print _ selection) => selection.files
    | _ => []
  let files ← (paths.filter (· ≠ Path.standardStream)).mapM fun path => do
    return (path, ← readFile path)
  let input ← if paths.contains Path.standardStream then readAll (← IO.getStdin) .empty
    else pure .empty
  let file? (path : String) : Except IoFault Bytes := (files.lookup path).getD (.error .notFound)
  let outcome := Inspector.run ⟨file?, input.data.toList⟩ args
  (← IO.getStdout).putStr outcome.output
  return outcome.code.toUInt32

/-- The relay.  There is no network here, so that no session gets further than its settings. -/
def relay (args : List String) : IO UInt32 := do
  let key ← IO.getEnv "DATABENTO_API_KEY"
  let outcome :=
    Live.Program.run ⟨key, fun _ _ => .error .networkUnreachable, fun _ => none⟩ args
  (← IO.getStdout).write (ByteArray.mk outcome.output.toArray)
  match outcome.file with
  | some (path, bytes) => IO.FS.writeBinFile path (ByteArray.mk bytes.toArray)
  | none => pure ()
  return outcome.code.toUInt32

end Main
end TickStream

def main : List String → IO UInt32
  | "dbn_file" :: args => TickStream.Main.inspect args
  | "dbn_live" :: args => TickStream.Main.relay args
  | _ => do
    IO.eprintln "usage: dbn_file <COMMAND> | dbn_live [OPTIONS]"
    return 2
