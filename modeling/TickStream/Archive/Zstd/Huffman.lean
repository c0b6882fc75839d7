import TickStream.Archive.Zstd.StateTable
/-
Coding by prefix-free codes.  A symbol of weight `w` has a code that is `w - 1` bits shorter
than the longest one, and a symbol of weight 0 has none.
-/
namespace TickStream
namespace Zstd

/-- The code that stands at the front of some bits: its symbol and its length. -/
structure Code where
  symbol : UInt8
  bits : Nat

/-- The codes by the bits that follow. -/
structure Huffman where
  /-- The number of bits that are looked at, at least as many as the longest code has. -/
  width : Nat
  codes : Array Code
  /-- Whether two codes are taken at one look where both of them fit. -/
  paired : Bool

namespace Huffman

def mostBits : Nat := 12

/-- The number of bits that are looked at unless a code is longer. -/
def usualWidth : Nat := 11

/-- The codes of symbols 0, 1 and so on with the given weights, and of one symbol more: its
weight makes the codes complete. -/
def ofWeights? (weights : List Nat) : Option Huffman := do
  let sum := weights.foldl (fun sum w => sum + Nat.pow 2 w / 2) 0
  guard (0 < sum)
  let longest := sum.log2 + 1
  let left := Nat.pow 2 longest - sum
  guard (longest ≤ mostBits ∧ Nat.pow 2 left.log2 = left)
  let all : List (Nat × Nat) := (weights ++ [left.log2 + 1]).zipIdx
  let ones : Nat := all.countP fun w => w.1 == 1
  guard (2 ≤ ones ∧ ones % 2 = 0)
  let width := max longest usualWidth
  let codes := (List.range longest).flatMap fun i =>
    (all.filter fun w => w.1 == i + 1).flatMap fun w =>
      List.replicate (Nat.pow 2 (i + (width - longest)))
        (Code.mk (UInt8.ofNat w.2) (longest - i))
  guard (codes.length = Nat.pow 2 width)
  return ⟨width, codes.toArray, false⟩

/-- Weights from a stack: two states take turns until the bits do not suffice. -/
def weightsFrom (t : StateTable) : (fuel : Nat) → Cell → Cell → BitStack → List Nat
  | 0, _, _, _ => []
  | fuel + 1, a, b, s =>
    match t.next? a s with
    | some (a', s) => a.symbol :: weightsFrom t fuel b a' s
    | none => [a.symbol, b.symbol]

def mostWeights : Nat := 255

def codedWeights? (bs : Bytes) : Option (List Nat) := do
  let (t, rest) ← StateTable.read? mostWeights 6 bs
  let s ← BitStack.ofBytes? (ByteArray.mk rest.toArray)
  let (a, s) ← t.start? s
  let (b, s) ← t.start? s
  let weights := weightsFrom t (mostWeights + 1) a b s
  guard (weights.length ≤ mostWeights)
  return weights

/-- Weights of four bits each, the higher half of a byte first. -/
def plainWeights (bs : Bytes) : List Nat := bs.flatMap fun b => [b.toNat / 16, b.toNat % 16]

/-- Reads the codes at the front of some bytes.  Gives the bytes after them, too. -/
def read? : Bytes → Option (Huffman × Bytes)
  | [] => none
  | b :: rest =>
    let n := b.toNat
    if n < 128 then do
      guard (n ≤ rest.length)
      return (← ofWeights? (← codedWeights? (rest.take n)), rest.drop n)
    else do
      let count := n - 127
      let size := (count + 1) / 2
      guard (size ≤ rest.length)
      return (← ofWeights? ((plainWeights (rest.take size)).take count), rest.drop size)

def codeAt (h : Huffman) (v : Nat) : Code := (h.codes[v]?).getD ⟨0, 0⟩

/-- The code at the top of `v` and the one after it, if the look at `v` shows that one
whole. -/
def pairAt (h : Huffman) (v : Nat) : Code × Option Code :=
  let first := h.codeAt v
  let second := h.codeAt (v <<< first.bits % Nat.pow 2 h.width)
  (first, if first.bits + second.bits ≤ h.width then some second else none)

end Huffman
end Zstd
end TickStream
