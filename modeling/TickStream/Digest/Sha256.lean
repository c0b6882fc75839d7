import TickStream.Bytes.Pieces
/-
SHA-256: the digest of 32 bytes that answers to a challenge are made of.
-/
namespace TickStream
namespace Sha256

/-- The eight words that a block of the message changes. -/
structure State where
  a : UInt32
  b : UInt32
  c : UInt32
  d : UInt32
  e : UInt32
  f : UInt32
  g : UInt32
  h : UInt32
  deriving DecidableEq, Repr

/-- The first 32 bits of the fractions of the square roots of the first eight primes. -/
def initial : State :=
  ⟨0x6a09e667, 0xbb67ae85, 0x3c6ef372, 0xa54ff53a,
   0x510e527f, 0x9b05688c, 0x1f83d9ab, 0x5be0cd19⟩

/-- The first 32 bits of the fractions of the cube roots of the first 64 primes. -/
def roundConstants : List UInt32 :=
  [0x428a2f98, 0x71374491, 0xb5c0fbcf, 0xe9b5dba5, 0x3956c25b, 0x59f111f1, 0x923f82a4,
   0xab1c5ed5, 0xd807aa98, 0x12835b01, 0x243185be, 0x550c7dc3, 0x72be5d74, 0x80deb1fe,
   0x9bdc06a7, 0xc19bf174, 0xe49b69c1, 0xefbe4786, 0x0fc19dc6, 0x240ca1cc, 0x2de92c6f,
   0x4a7484aa, 0x5cb0a9dc, 0x76f988da, 0x983e5152, 0xa831c66d, 0xb00327c8, 0xbf597fc7,
   0xc6e00bf3, 0xd5a79147, 0x06ca6351, 0x14292967, 0x27b70a85, 0x2e1b2138, 0x4d2c6dfc,
   0x53380d13, 0x650a7354, 0x766a0abb, 0x81c2c92e, 0x92722c85, 0xa2bfe8a1, 0xa81a664b,
   0xc24b8b70, 0xc76c51a3, 0xd192e819, 0xd6990624, 0xf40e3585, 0x106aa070, 0x19a4c116,
   0x1e376c08, 0x2748774c, 0x34b0bcb5, 0x391c0cb3, 0x4ed8aa4a, 0x5b9cca4f, 0x682e6ff3,
   0x748f82ee, 0x78a5636f, 0x84c87814, 0x8cc70208, 0x90befffa, 0xa4506ceb, 0xbef9a3f7,
   0xc67178f2]

def rotate (n x : UInt32) : UInt32 := (x >>> n) ||| (x <<< (32 - n))

def smallSigma0 (x : UInt32) : UInt32 := rotate 7 x ^^^ rotate 18 x ^^^ (x >>> 3)

def smallSigma1 (x : UInt32) : UInt32 := rotate 17 x ^^^ rotate 19 x ^^^ (x >>> 10)

def largeSigma0 (x : UInt32) : UInt32 := rotate 2 x ^^^ rotate 13 x ^^^ rotate 22 x

def largeSigma1 (x : UInt32) : UInt32 := rotate 6 x ^^^ rotate 11 x ^^^ rotate 25 x

/-- Each bit from `y` or from `z`, as the bit of `x` says. -/
def choose (x y z : UInt32) : UInt32 := (x &&& y) ^^^ (~~~x &&& z)

/-- Each bit as most of the three have it. -/
def majority (x y z : UInt32) : UInt32 := (x &&& y) ^^^ (x &&& z) ^^^ (y &&& z)

/-- The word whose bytes these are, most significant first. -/
def word (bs : Bytes) : UInt32 := Word.u32.decode bs.reverse

def extend : (n : Nat) → List UInt32 → List UInt32
  | 0, ws => ws
  | n + 1, ws =>
    let next := smallSigma1 (ws.getD 1 0) + ws.getD 6 0 + smallSigma0 (ws.getD 14 0) + ws.getD 15 0
    extend n (next :: ws)

def schedule (block : Bytes) : List UInt32 :=
  (extend 48 ((block.pieces 4).map word).reverse).reverse

def round (s : State) (kw : UInt32 × UInt32) : State :=
  let t1 := s.h + largeSigma1 s.e + choose s.e s.f s.g + kw.1 + kw.2
  let t2 := largeSigma0 s.a + majority s.a s.b s.c
  ⟨t1 + t2, s.a, s.b, s.c, s.d + t1, s.e, s.f, s.g⟩

def compress (s : State) (block : Bytes) : State :=
  let t := (roundConstants.zip (schedule block)).foldl round s
  ⟨s.a + t.a, s.b + t.b, s.c + t.c, s.d + t.d, s.e + t.e, s.f + t.f, s.g + t.g, s.h + t.h⟩

/-- The message with a bit that is set, zeros, and its length in bits: whole blocks. -/
def pad (message : Bytes) : Bytes :=
  let gap := (119 - message.length % 64) % 64
  message ++ 0x80 :: (Bytes.zeros gap ++ (Bytes.ofNat 8 (8 * message.length)).reverse)

def digest (message : Bytes) : Bytes :=
  let s := ((pad message).pieces 64).foldl compress initial
  [s.a, s.b, s.c, s.d, s.e, s.f, s.g, s.h].flatMap fun w => (Word.u32.encode w).reverse

@[simp] theorem length_digest (message : Bytes) : (digest message).length = 32 := by
  simp [digest, Word.width]

/-- The padded message consists of whole blocks. -/
theorem length_pad (message : Bytes) : (pad message).length % 64 = 0 := by
  simp [pad]
  omega

end Sha256
end TickStream
