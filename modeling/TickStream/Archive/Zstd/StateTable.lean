import TickStream.Archive.Zstd.Bits
/-
Coding by states: a state stands for a symbol and says how many bits lead to the next state.

A table has `2 ^ log` states.  A symbol has as many states as its weight, or one state that
needs all `log` bits if its weight is `-1`.
-/
namespace TickStream
namespace Zstd

structure Cell where
  symbol : Nat
  /-- The number of bits that lead to the next state. -/
  bits : Nat
  /-- The next state if these bits are all zero. -/
  base : Nat
  deriving Inhabited

structure StateTable where
  log : Nat
  cells : Array Cell

namespace StateTable

/-- The symbols of weight `-1`. -/
def rare (weights : List Int) : List Nat :=
  (weights.zipIdx.filter fun w => w.1 == -1).map (·.2)

/-- The symbols of positive weight, each as often as its weight says. -/
def spread (weights : List Int) : List Nat :=
  weights.zipIdx.flatMap fun w => List.replicate w.1.toNat w.2

/-- The symbols of the states.  Rare ones have the last states, from the end on; the others
are dealt out in steps of odd length. -/
def symbols (log : Nat) (weights : List Int) : Array Nat :=
  let size := Nat.pow 2 log
  let last := rare weights
  let free := size - last.length
  let step := size / 2 + size / 8 + 3
  let places := ((List.range size).map fun i => i * step % size).filter (· < free)
  let put (a : Array Nat) (p : Nat × Nat) : Array Nat := a.setIfInBounds p.1 p.2
  let dealt := (places.zip (spread weights)).foldl put (Array.replicate size 0)
  (last.zipIdx.map fun s => (size - 1 - s.2, s.1)).foldl put dealt

/-- Numbers the states of each symbol, from its weight on. -/
def number (log : Nat) : List Nat → Array Nat → List Cell
  | [], _ => []
  | s :: rest, next =>
    let n := next.getD s 1
    let bits := log - n.log2
    ⟨s, bits, n <<< bits - Nat.pow 2 log⟩ :: number log rest (next.setIfInBounds s (n + 1))

def ofWeights (log : Nat) (weights : List Int) : StateTable :=
  let first := (weights.map fun w => if w = -1 then 1 else w.toNat).toArray
  ⟨log, (number log (symbols log weights).toList first).toArray⟩

def single (symbol : Nat) : StateTable := ⟨0, #[⟨symbol, 0, 0⟩]⟩

/-- Where a distribution is read on.  Past the end of the bytes, the last four are read once
more. -/
def goOn (bs : ByteArray) (position : Nat) : Nat :=
  if position < 8 * bs.size then position else position - 32

/-- Reads a distribution, bit by bit from the front: the weights, and the position after
them.  `left` is what is left to distribute.  A weight takes as many bits as `left` asks for,
one less if it is small.  A weight of zero is followed by counts of more such. -/
def readWeights (bs : ByteArray) : (fuel position left : Nat) → Option (List Int × Nat)
  | 0, _, _ => none
  | fuel + 1, position, left =>
    if left = 0 then some ([], position)
    else
      let position := goOn bs position
      let bits := (left + 1).log2 + 1
      let small := Nat.pow 2 bits - 1 - (left + 1)
      let all := bitsAt bs position bits
      let low := all % Nat.pow 2 (bits - 1)
      let short := low < small
      let value := if short then low else if all = low then all else all - small
      let position := position + if short then bits - 1 else bits
      if value = 0 then
        (readWeights bs fuel position (left - 1)).map fun r => (-1 :: r.1, r.2)
      else if left < value - 1 then none
      else if value = 1 then
        let (zeros, position) := readZeros bs fuel (goOn bs position)
        (readWeights bs fuel position left).map fun r =>
          (List.replicate (zeros + 1) 0 ++ r.1, r.2)
      else
        (readWeights bs fuel position (left - (value - 1))).map fun r =>
          ((value - 1 : Nat) :: r.1, r.2)
where
  /-- How many counts of three stand one after the other, up to twelve of them. -/
  threes (bs : ByteArray) (position : Nat) : Nat :=
    ((List.range 12).takeWhile fun i => bitsAt bs (position + 2 * i) 2 == 3).length
  /-- The number of weights that are zero after one that is. -/
  readZeros (bs : ByteArray) : (fuel position : Nat) → Nat × Nat
    | 0, position => (0, position)
    | fuel + 1, position =>
      let n := threes bs position
      if n = 12 then
        let (more, position) := readZeros bs fuel (goOn bs (position + 24))
        (more + 36, position)
      else (3 * n + bitsAt bs (position + 2 * n) 2, position + 2 * n + 2)

/-- Reads the table at the front of some bytes, for symbols up to `lastSymbol` and with at
most `2 ^ mostLog` states.  Gives the bytes after it, too. -/
def read? (lastSymbol mostLog : Nat) (bs : Bytes) : Option (StateTable × Bytes) := do
  let packed := ByteArray.mk (bs ++ List.replicate (8 - bs.length) 0).toArray
  let log := bitsAt packed 0 4 + 5
  guard (log ≤ mostLog)
  let (weights, position) ← readWeights packed 256 4 (Nat.pow 2 log)
  let size := (position + 7) / 8
  guard (weights.length ≤ lastSymbol + 1 ∧ size ≤ bs.length)
  return (ofWeights log weights, bs.drop size)

def start? (t : StateTable) (s : BitStack) : Option (Cell × BitStack) := do
  let (n, s) ← s.take? t.log
  return (← t.cells[n]?, s)

def next? (t : StateTable) (c : Cell) (s : BitStack) : Option (Cell × BitStack) := do
  let (n, s) ← s.take? c.bits
  return (← t.cells[c.base + n]?, s)

end StateTable
end Zstd
end TickStream
