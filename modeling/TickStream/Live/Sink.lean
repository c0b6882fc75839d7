import TickStream.Error
/-
Where a relay writes to.
-/
namespace TickStream
namespace Live

/-- An output.  What it does with a write may depend on the writes before. -/
structure Sink where
  /-- The writes it has taken, in order. -/
  taken : List Bytes
  /-- How a write fails, given the writes taken before it. -/
  refusal : List Bytes → Bytes → Option IoFault
  /-- How flushing fails, given the writes taken. -/
  flushing : List Bytes → Option IoFault

namespace Sink

def unlimited : Sink := ⟨[], fun _ _ => none, fun _ => none⟩

/-- A sink that takes no write which would bring it above `limit` bytes. -/
def limited (limit : Nat) : Sink :=
  ⟨[], fun taken bs => if limit < taken.flatten.length + bs.length then some .brokenPipe else none,
   fun _ => none⟩

def content (s : Sink) : Bytes := s.taken.flatten

def write (bs : Bytes) : EStateM Error Sink Unit := fun s =>
  match s.refusal s.taken bs with
  | some fault => .error (.io fault) s
  | none => .ok () { s with taken := s.taken ++ [bs] }

def flush : EStateM Error Sink Unit := fun s =>
  match s.flushing s.taken with
  | some fault => .error (.io fault) s
  | none => .ok () s

end Sink
end Live
end TickStream
