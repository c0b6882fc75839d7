import TickStream.Archive.Path
import TickStream.Archive.Zstd.Stream
/-
Files of streams, compressed or not.
-/
namespace TickStream
namespace File

def isCompressed (path : String) (force : Bool) : Bool := force || Path.isZstd path

def write (path : String) (force : Bool) (content : Bytes) : Bytes :=
  if isCompressed path force then Zstd.encode content else content

def read (path : String) (force : Bool) (demand : Demand) (bytes : Bytes) : Source :=
  if isCompressed path force then Zstd.source demand bytes else Source.ofBytes bytes

end File
end TickStream
