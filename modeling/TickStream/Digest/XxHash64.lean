import TickStream.Bytes.Pieces
/-
XXH64: a checksum of 64 bits, for data that may have been damaged.
-/
namespace TickStream
namespace XxHash64

def prime1 : UInt64 := 0x9e3779b185ebca87

def prime2 : UInt64 := 0xc2b2ae3d27d4eb4f

def prime3 : UInt64 := 0x165667b19e3779f9

def prime4 : UInt64 := 0x85ebca77c2b2ae63

def prime5 : UInt64 := 0x27d4eb2f165667c5

/-- The bits of a word, moved `n` places to the left and in again on the right. -/
def rotate (n x : UInt64) : UInt64 := (x <<< n) ||| (x >>> (64 - n))

/-- Four words, each of which takes up every fourth word of the data. -/
structure Lanes where
  a : UInt64
  b : UInt64
  c : UInt64
  d : UInt64
  deriving DecidableEq, Repr

def Lanes.initial : Lanes := ⟨prime1 + prime2, prime2, 0, 0 - prime1⟩

def round (lane word : UInt64) : UInt64 := rotate 31 (lane + word * prime2) * prime1

/-- The word whose bytes stand at a place of a stripe. -/
def word (bs : Bytes) (place : Nat) : UInt64 := Word.u64.decode ((bs.drop place).take 8)

def Lanes.add (l : Lanes) (stripe : Bytes) : Lanes :=
  ⟨round l.a (word stripe 0), round l.b (word stripe 8), round l.c (word stripe 16),
   round l.d (word stripe 24)⟩

def merge (sum lane : UInt64) : UInt64 := (sum ^^^ round 0 lane) * prime1 + prime4

def Lanes.sum (l : Lanes) : UInt64 :=
  let mixed := rotate 1 l.a + rotate 7 l.b + rotate 12 l.c + rotate 18 l.d
  [l.a, l.b, l.c, l.d].foldl merge mixed

/-- The sum with the bytes after the last stripe: words of 64 bits, then one of 32 bits, then
bytes. -/
def addTail (sum : UInt64) (tail : Bytes) : UInt64 :=
  let words := tail.length / 8
  let sum := (List.range words).foldl (fun sum i =>
    rotate 27 (sum ^^^ round 0 (word tail (8 * i))) * prime1 + prime4) sum
  let rest := tail.drop (8 * words)
  let (sum, rest) :=
    if 4 ≤ rest.length then
      let half := (Word.u32.decode (rest.take 4)).toUInt64
      (rotate 23 (sum ^^^ half * prime1) * prime2 + prime3, rest.drop 4)
    else (sum, rest)
  rest.foldl (fun sum b => rotate 11 (sum ^^^ b.toUInt64 * prime5) * prime1) sum

/-- Lets each bit act on all others. -/
def avalanche (x : UInt64) : UInt64 :=
  let x := (x ^^^ (x >>> 33)) * prime2
  let x := (x ^^^ (x >>> 29)) * prime3
  x ^^^ (x >>> 32)

def digest (bs : Bytes) : UInt64 :=
  let full := bs.length / 32 * 32
  let sum :=
    if full = 0 then prime5
    else ((Bytes.pieces 32 (bs.take full)).foldl Lanes.add Lanes.initial).sum
  avalanche (addTail (sum + UInt64.ofNat bs.length) (bs.drop full))

end XxHash64
end TickStream
