import TickStream.Text.LowerCase
/-
Where the gateway of a dataset is.
-/
namespace TickStream
namespace Live

def hostSuffix : String := ".lsg.databento.com"

def defaultPort : UInt16 := 13000

/-- A dataset as a host name: in lower case, with hyphens for points. -/
def hostName (dataset : String) : String :=
  String.ofList ((Text.lowerCase dataset).toList.map fun c => if c = '.' then '-' else c)

def gatewayHost (dataset : String) : String := hostName dataset ++ hostSuffix

end Live
end TickStream
