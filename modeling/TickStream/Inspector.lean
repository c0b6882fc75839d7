import TickStream.Archive.File
import TickStream.CommandLine
import TickStream.Print
/-
The file tool: prints what is in files, one JSON value a line.
-/
namespace TickStream
namespace Inspector

inductive Report where
  | metadata
  | records
  deriving DecidableEq, Repr

/-- The files of a request and how to read them. -/
structure Selection where
  files : List String
  /-- Whether they are compressed whatever their paths say. -/
  zstd : Bool
  /-- Whether the metadata is printed before the records. -/
  withMetadata : Bool
  deriving DecidableEq, Repr

/-- What there is help on. -/
inductive Topic where
  | tool
  | report (r : Report)
  | help
  deriving DecidableEq, Repr

inductive Request where
  | print (report : Report) (selection : Selection)
  | help (topic : Topic)
  | version
  deriving DecidableEq, Repr

/-! ## Command lines -/

open CommandLine

def toolGrammar : Grammar Unit where
  switches := [⟨"help", some 'h', .stop .helpWanted⟩, ⟨"version", some 'V', .stop .versionWanted⟩]
  operand := none

def reportGrammar (r : Report) : Grammar Selection where
  switches :=
    [⟨"zstd", some 'z', .flag fun s => { s with zstd := true }⟩,
     ⟨"help", some 'h', .stop .helpWanted⟩] ++
      if r = .records then
        [⟨"with-metadata", none, .flag fun s => { s with withMetadata := true }⟩]
      else []
  operand := some fun path s =>
    if path.isEmpty then .error .invalidValue else .ok { s with files := s.files ++ [path] }

def parseReport (r : Report) (args : List String) : Except Refusal Request :=
  match (reportGrammar r).fill ⟨[], false, false⟩ args with
  | .ok s => if s.files.isEmpty then .error .missingArgument else .ok (.print r s)
  | .error .helpWanted => .ok (.help (.report r))
  | .error why => .error why

/-- Reads a command line.  It begins with the name of a report, or asks for help. -/
def parse : List String → Except Refusal Request
  | "metadata" :: args => parseReport .metadata args
  | "json" :: args => parseReport .records args
  | ["help"] => .ok (.help .tool)
  | ["help", "metadata"] => .ok (.help (.report .metadata))
  | ["help", "json"] => .ok (.help (.report .records))
  | ["help", "help"] => .ok (.help .help)
  | "help" :: _ => .error .unknownArgument
  | args =>
    match toolGrammar.fill () args with
    | .ok () => .error .missingArgument
    | .error .helpWanted => .ok (.help .tool)
    | .error .versionWanted => .ok .version
    | .error why => .error why

/-! ## Answers -/

def versionText : String := "dbn_file 0.1.0\n"

def filesText : String :=
  "Arguments:\n" ++
  "  <FILES>...  DBN files to read, `-` for stdin. `.zst` files are decompressed\n\n"

def helpText : Topic → String
  | .tool =>
    "Inspects Databento DBN files\n\nUsage: dbn_file <COMMAND>\n\nCommands:\n" ++
    "  metadata  Prints each file's metadata as one JSON line\n" ++
    "  json      Prints each file's records as JSON lines\n" ++
    "  help      Print this message or the help of the given subcommand(s)\n\nOptions:\n" ++
    "  -h, --help     Print help\n" ++
    "  -V, --version  Print version\n"
  | .report .metadata =>
    "Prints each file's metadata as one JSON line\n\n" ++
    "Usage: dbn_file metadata [OPTIONS] <FILES>...\n\n" ++ filesText ++
    "Options:\n" ++
    "  -z, --zstd  Treat the input as zstd regardless of its extension\n" ++
    "  -h, --help  Print help\n"
  | .report .records =>
    "Prints each file's records as JSON lines\n\n" ++
    "Usage: dbn_file json [OPTIONS] <FILES>...\n\n" ++ filesText ++
    "Options:\n" ++
    "  -z, --zstd           Treat the input as zstd regardless of its extension\n" ++
    "      --with-metadata  Print the metadata line before the records\n" ++
    "  -h, --help           Print help\n"
  | .help =>
    "Print this message or the help of the given subcommand(s)\n\n" ++
    "Usage: dbn_file help [COMMAND]...\n\nArguments:\n" ++
    "  [COMMAND]...  Print help for the subcommand(s)\n"

structure Outcome where
  code : UInt8
  output : String
  deriving DecidableEq, Repr

structure Surroundings where
  file? : String → Except IoFault Bytes
  input : Bytes

/-- What is left of the standard input when `left` of its content was not asked for: it is read
in whole buffers, and compressed input to its end. -/
def inputLeft (input : Bytes) (compressed : Bool) (left : Source) : Bytes :=
  let read := input.length - left.size
  if compressed then []
  else input.drop ((read + Source.bufferSize - 1) / Source.bufferSize * Source.bufferSize)

/-- Prints a source: what was printed, whether all of it could be, and what was not read. -/
def printSource (r : Report) (s : Selection) (source : Source) : String × Bool × Source :=
  match r with
  | .metadata =>
    let p := Print.metadata source
    (p.text, p.result.isOk, p.left)
  | .records =>
    let p := Print.records source s.withMetadata
    (p.text, p.result.isOk, p.left)

/-- Prints files one after the other.  One that fails does not keep the others from being
printed.  Gives the text and whether none has failed. -/
def printFiles (r : Report) (s : Selection) (file? : String → Except IoFault Bytes) :
    List String → (input : Bytes) → String × Bool
  | [], _ => ("", true)
  | path :: rest, input =>
    let source := File.read path s.zstd (.steady Source.bufferSize)
    if path = Path.standardStream then
      let (text, good, left) := printSource r s (source input)
      let (texts, allGood) :=
        printFiles r s file? rest (inputLeft input (File.isCompressed path s.zstd) left)
      (text ++ texts, good && allGood)
    else
      let (text, good) := match file? path with
        | .ok bytes =>
          let (text, good, _) := printSource r s (source bytes)
          (text, good)
        | .error _ => ("", false)
      let (texts, allGood) := printFiles r s file? rest input
      (text ++ texts, good && allGood)

def run (around : Surroundings) (args : List String) : Outcome :=
  match parse args with
  | .error _ => ⟨2, ""⟩
  | .ok (.help topic) => ⟨0, helpText topic⟩
  | .ok .version => ⟨0, versionText⟩
  | .ok (.print r s) =>
    let (text, good) := printFiles r s around.file? s.files around.input
    ⟨if good then 0 else 1, text⟩

end Inspector
end TickStream
