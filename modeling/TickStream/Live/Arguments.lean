import TickStream.Archive.Path
import TickStream.CommandLine
import TickStream.Live.Request
import TickStream.Live.Settings
import TickStream.Moment.Parser
/-
The command line of the relay: a session, one subscription and an output.
-/
namespace TickStream
namespace Live

/-- What a command line asks the relay for. -/
structure Arguments where
  settings : Settings
  subscription : Subscription
  output : String
  /-- Whether the output is compressed whatever its path says. -/
  zstd : Bool
  deriving DecidableEq, Repr

namespace Arguments

/-- The options of a command line.  Those that are none must still be given. -/
structure Form where
  key : Option String
  dataset : Option String
  schema : Option Schema
  stypeIn : Symbology
  symbols : Option (List String)
  start : Option Moment
  snapshot : Bool
  tsOut : Bool
  encoding : Encoding
  output : String
  zstd : Bool
  gateway : Option String
  port : UInt16
  client : String

def Form.blank : Form where
  key := none
  dataset := none
  schema := none
  stypeIn := .rawSymbol
  symbols := none
  start := none
  snapshot := false
  tsOut := false
  encoding := .dbn
  output := Path.standardStream
  zstd := false
  gateway := none
  port := defaultPort
  client := defaultClient

open CommandLine

/-- An option whose value is read by `read?`. -/
def reading {α : Type} (name : String) (read? : String → Option α) (why : Refusal)
    (set : α → Form → Form) : Switch Form where
  name := name
  letter := none
  action := .value fun text form =>
    match read? text with
    | some a => .ok (set a form)
    | none => .error why

/-- A port: a signed numeral that is not above 65535 and not below 0. -/
def port? (text : String) : Option UInt16 :=
  (Text.integer? text).bind fun n =>
    if 0 ≤ n && n < 0x10000 then some (UInt16.ofNat n.toNat) else none

/-- A path: a text that is not empty. -/
def path? (text : String) : Option String := if text.isEmpty then none else some text

def grammar : Grammar Form where
  operand := none
  switches :=
    [reading "key" some .invalidValue fun key form => { form with key := some key },
     reading "dataset" some .invalidValue fun dataset form => { form with dataset := some dataset },
     reading "schema" Schema.ofName? .unreadableValue
       fun schema form => { form with schema := some schema },
     reading "stype-in" (Code.find? Symbology.all Symbology.name) .invalidValue
       fun stypeIn form => { form with stypeIn := stypeIn },
     ⟨"symbols", none, .list ',' fun symbol form =>
       .ok { form with symbols := some (form.symbols.getD [] ++ [symbol]) }⟩,
     reading "start" Moment.parse? .unreadableValue
       fun start form => { form with start := some start },
     ⟨"snapshot", none, .flag fun form => { form with snapshot := true }⟩,
     ⟨"ts-out", none, .flag fun form => { form with tsOut := true }⟩,
     reading "encoding" (Code.find? Encoding.all Encoding.name) .invalidValue
       fun encoding form => { form with encoding := encoding },
     { reading "output" path? .invalidValue fun output form => { form with output := output } with
       letter := some 'o' },
     ⟨"zstd", none, .flag fun form => { form with zstd := true }⟩,
     reading "gateway" some .invalidValue
       fun gateway form => { form with gateway := some gateway },
     reading "port" port? .unreadableValue fun port form => { form with port := port },
     reading "client" some .invalidValue fun client form => { form with client := client },
     ⟨"help", some 'h', .stop .helpWanted⟩,
     ⟨"version", some 'V', .stop .versionWanted⟩]

def symbols (parts : List String) : List String :=
  (parts.map Text.trim).filter fun symbol => !symbol.isEmpty

/-- What a form asks for, if nothing is missing in it.  A key can also come from elsewhere. -/
def ofForm (form : Form) (knownKey : Option String) : Except Refusal Arguments :=
  match form.key.or knownKey, form.dataset, form.schema, form.symbols with
  | some key, some dataset, some schema, some parts =>
    let settings := Settings.ofKey (Text.trim key) (Text.trim dataset)
    .ok {
      settings := { settings with
        client := form.client
        encoding := form.encoding
        tsOut := form.tsOut
        gateway := form.gateway
        port := form.port }
      subscription :=
        ⟨schema, form.stypeIn, symbols parts, form.start.map Timestamp.ofMoment, form.snapshot⟩
      output := form.output
      zstd := form.zstd }
  | _, _, _, _ => .error .missingArgument

/-- Reads a command line.  `knownKey` is the key to use if the line has none. -/
def parse (args : List String) (knownKey : Option String) : Except Refusal Arguments := do
  ofForm (← grammar.fill Form.blank args) knownKey

end Arguments
end Live
end TickStream
