import TickStream.Bytes.Utf8
import TickStream.Digest.Sha256
import TickStream.Error
/-
API keys and the answer to a challenge.  The answer shows that the sender knows the key
without showing the key.
-/
namespace TickStream
namespace Live

/-- A text of 32 ASCII characters. -/
structure ApiKey where
  text : String
  length_text : text.toList.length = 32
  ascii : text.toList.all (·.toNat < 128)
  deriving Repr

namespace ApiKey

def size : Nat := 32

/-- Characters at the end of a key that say where the gateway finds it. -/
def bucketSize : Nat := 5

def parse (s : String) : Except Error ApiKey :=
  if h : s.toList.length = 32 ∧ s.toList.all (·.toNat < 128) then .ok ⟨s, h.1, h.2⟩
  else .error (.config (.badKey size s.toList.length))

def bucket (k : ApiKey) : String := String.ofList (k.text.toList.drop (size - bucketSize))

/-- The answer to a challenge: a digest of the challenge and the key, then the bucket. -/
def reply (k : ApiKey) (challenge : String) : String :=
  (Sha256.digest (Bytes.ofString (challenge ++ "|" ++ k.text))).hex ++ "-" ++ k.bucket

end ApiKey
end Live
end TickStream
