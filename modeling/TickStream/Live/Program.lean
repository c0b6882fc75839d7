import TickStream.Archive.File
import TickStream.Live.Arguments
import TickStream.Live.Relay
/-
The relay as a program: one session, its records in one file or on the standard output.
-/
namespace TickStream
namespace Live
namespace Program

def versionText : String := "dbn_live 0.1.0\n"

def helpText : String :=
  "Usage: dbn_live [OPTIONS] --key <KEY> --dataset <DATASET> --schema <SCHEMA> " ++
    "--symbols <SYMBOLS>\n\nOptions:\n" ++
  "      --key <KEY>            API key. Read from `DATABENTO_API_KEY` when not given " ++
    "[env: DATABENTO_API_KEY]\n" ++
  "      --dataset <DATASET>    Dataset to stream, e.g. GLBX.MDP3\n" ++
  "      --schema <SCHEMA>      Schema to subscribe to, e.g. mbp-1 or ohlcv-1s\n" ++
  "      --stype-in <STYPE_IN>  Symbology of the symbols [default: raw_symbol] " ++
    "[possible values: " ++ ", ".intercalate (Symbology.all.map Symbology.name) ++ "]\n" ++
  "      --symbols <SYMBOLS>    Symbols to subscribe to, comma separated\n" ++
  "      --start <START>        Replay start as RFC 3339, e.g. 2024-01-02T14:30:00Z\n" ++
  "      --snapshot             Request a book snapshot before live data\n" ++
  "      --ts-out               Ask the gateway to append its send timestamp to every record\n" ++
  "      --encoding <ENCODING>  Wire encoding of the session: dbn or json [default: dbn] " ++
    "[possible values: " ++ ", ".intercalate (Encoding.all.map Encoding.name) ++ "]\n" ++
  "  -o, --output <OUTPUT>      Output file, `-` for stdout. `.zst` paths are compressed " ++
    "[default: -]\n" ++
  "      --zstd                 Compress the output with zstd regardless of its extension\n" ++
  "      --gateway <GATEWAY>    Gateway host override\n" ++
  "      --port <PORT>          Gateway port [default: 13000]\n" ++
  "      --client <CLIENT>      Client identification sent to the gateway " ++
    "[default: \"" ++ defaultClient ++ "\"]\n" ++
  "  -h, --help                 Print help\n" ++
  "  -V, --version              Print version\n"

/-- What the program finds around it. -/
structure Surroundings where
  /-- The key to use if the command line has none. -/
  key : Option String
  network : String → UInt16 → Except IoFault Connection
  /-- How a file cannot be created, if it cannot. -/
  refusal : String → Option IoFault

structure Outcome where
  code : UInt8
  output : Bytes
  /-- The file written, with its path. -/
  file : Option (String × Bytes)
  sent : List Bytes

/-- A program that ends with a text on its standard output. -/
def ending (code : UInt8) (text : String) : Outcome := ⟨code, Bytes.ofString text, none, []⟩

/-- Relays a session to the path that the arguments name. -/
def relay (around : Surroundings) (a : Arguments) (s : Session) : Outcome :=
  let toStandard := a.output = Path.standardStream
  let sink : Except Error Sink :=
    match if toStandard then none else around.refusal a.output with
    | none => .ok .unlimited
    | some fault => .error (.io fault)
  let done := Relay.run s [a.subscription] sink false
  let code := if done.result.isOk then 0 else 1
  let sent := done.session.connection.sent
  match done.output with
  | .opened sink =>
    let bytes := File.write a.output a.zstd sink.content
    if toStandard then ⟨code, bytes, none, sent⟩ else ⟨code, [], some (a.output, bytes), sent⟩
  | _ => ⟨code, [], none, sent⟩

def run (around : Surroundings) (args : List String) : Outcome :=
  match Arguments.parse args around.key with
  | .error .helpWanted => ending 0 helpText
  | .error .versionWanted => ending 0 versionText
  | .error _ => ending 2 ""
  | .ok a =>
    match Session.connect a.settings (around.network a.settings.host a.settings.port) with
    | .error _ => ending 1 ""
    | .ok s => relay around a s

end Program
end Live
end TickStream
