import TickStream.Live.Address
import TickStream.Live.ApiKey
import TickStream.Live.Request
import TickStream.Text.Blank
/-
The settings of a session.
-/
namespace TickStream
namespace Live

/-- How the client names itself if not told otherwise. -/
def defaultClient : String := "Rust dbn_live 0.1.0"

/-- What a session is to be like. -/
structure Settings where
  key : String
  dataset : String
  client : String
  encoding : Encoding
  /-- Whether the gateway shall put its send time after every record. -/
  tsOut : Bool
  /-- Where the gateway is, if it is not the dataset's own. -/
  gateway : Option String
  port : UInt16
  deriving DecidableEq, Repr

namespace Settings

def ofKey (key dataset : String) : Settings :=
  ⟨key, dataset, defaultClient, .dbn, false, none, defaultPort⟩

def host (s : Settings) : String := s.gateway.getD (gatewayHost s.dataset)

/-- The key, if there can be a session: there must be a dataset, and records come in one
of two encodings. -/
def validate (s : Settings) : Except Error ApiKey := do
  if (Text.trim s.dataset).isEmpty then .error (.config .noDataset)
  let key ← ApiKey.parse s.key
  if s.encoding = .csv then .error (.config (.encodingUnsupported s.encoding))
  return key

def authentication (s : Settings) (token : String) : Except Error Authentication := do
  let key ← ApiKey.parse s.key
  return ⟨key.reply token, s.dataset, s.encoding, s.tsOut, s.client⟩

end Settings
end Live
end TickStream
