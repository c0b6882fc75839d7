import TickStream.Archive.Zstd.Literals
/-
The sequences of a block: each takes some literals, and then copies bytes from before.
-/
namespace TickStream
namespace Zstd

/-- Takes `literals` literals and copies `length` bytes from `distance` bytes before. -/
structure Sequence where
  literals : Nat
  length : Nat
  distance : Nat

/-- A number in parts: its code gives a base, and how many bits are added to it. -/
structure Part where
  base : Nat
  bits : Nat

namespace Sequences

def ladder : (base : Nat) → List Nat → List Part
  | _, [] => []
  | base, bits :: rest => ⟨base, bits⟩ :: ladder (base + Nat.pow 2 bits) rest

def literalParts : Array Part :=
  (ladder 0 (List.replicate 16 0 ++ [1, 1, 1, 1, 2, 2, 3, 3, 4] ++
    [6, 7, 8, 9, 10, 11, 12, 13, 14, 15, 16])).toArray

def lengthParts : Array Part :=
  (ladder 3 (List.replicate 32 0 ++ [1, 1, 1, 1, 2, 2, 3, 3, 4, 4, 5] ++
    [7, 8, 9, 10, 11, 12, 13, 14, 15, 16])).toArray

def distanceParts : Array Part := ((List.range 32).map fun c => Part.mk (Nat.pow 2 c) c).toArray

/-- What is coded: where its codes are, and how they are distributed by default. -/
structure Kind where
  parts : Array Part
  mostLog : Nat
  log : Nat
  weights : List Int

def literalKind : Kind where
  parts := literalParts
  mostLog := 9
  log := 6
  weights := 4 :: 3 :: (List.replicate 11 2 ++ [1, 1, 1] ++ List.replicate 9 2 ++
    [3, 2, 1, 1, 1, 1, 1, -1, -1, -1, -1])

def lengthKind : Kind where
  parts := lengthParts
  mostLog := 9
  log := 6
  weights := [1, 4, 3] ++ List.replicate 6 2 ++ List.replicate 37 1 ++ List.replicate 7 (-1)

def distanceKind : Kind where
  parts := distanceParts
  mostLog := 8
  log := 5
  weights := List.replicate 6 1 ++ [2, 2, 2] ++ List.replicate 15 1 ++ List.replicate 5 (-1)

structure Tables where
  literals : Option StateTable
  lengths : Option StateTable
  distances : Option StateTable

/-- Reads the number of sequences.  Gives the bytes after it, too. -/
def count? : Bytes → Option (Nat × Bytes)
  | [] => none
  | a :: rest =>
    if a < 128 then some (a.toNat, rest)
    else if a < 255 then
      match rest with
      | b :: rest => some ((a.toNat - 128) * 256 + b.toNat, rest)
      | _ => none
    else
      match rest with
      | b :: c :: rest => some (b.toNat + c.toNat * 256 + 32512, rest)
      | _ => none

/-- Reads one table: the default one, that of a single symbol, one that is written here, or
the one of the last block. -/
def table? (kind : Kind) (last : Option StateTable) (mode : Nat) (bs : Bytes) :
    Option (StateTable × Bytes) :=
  match mode with
  | 0 => some (.ofWeights kind.log kind.weights, bs)
  | 1 =>
    match bs with
    | b :: rest => if b.toNat < kind.parts.size then some (.single b.toNat, rest) else none
    | [] => none
  | 2 => StateTable.read? (kind.parts.size - 1) kind.mostLog bs
  | _ => last.map fun t => (t, bs)

/-- Distances that can be named again, the last one first. -/
structure Recent where
  first : Nat
  second : Nat
  third : Nat

def Recent.initial : Recent := ⟨1, 4, 8⟩

/-- The distance that a value stands for.  Values above 3 are new distances.  The others name
recent ones, the next but one if no literals came before. -/
def Recent.distance? (r : Recent) (value literals : Nat) : Option (Nat × Recent) :=
  if 3 < value then some (value - 3, ⟨value - 3, r.first, r.second⟩)
  else
    match value + (if literals = 0 then 1 else 0) with
    | 1 => some (r.first, r)
    | 2 => some (r.second, ⟨r.second, r.first, r.third⟩)
    | 3 => some (r.third, ⟨r.third, r.first, r.second⟩)
    | _ => if r.first ≤ 1 then none else some (r.first - 1, ⟨r.first - 1, r.first, r.second⟩)

def number? (parts : Array Part) (code : Nat) (s : BitStack) : Option (Nat × BitStack) := do
  let part ← parts[code]?
  let (n, s) ← s.take? part.bits
  return (part.base + n, s)

structure Coding where
  literals : StateTable
  lengths : StateTable
  distances : StateTable

structure States where
  literals : Cell
  lengths : Cell
  distances : Cell

/-- The first states, in the order of the tables: literals, distances, lengths. -/
def start? (c : Coding) (s : BitStack) : Option (States × BitStack) := do
  let (literals, s) ← c.literals.start? s
  let (distances, s) ← c.distances.start? s
  let (lengths, s) ← c.lengths.start? s
  return (⟨literals, lengths, distances⟩, s)

/-- The next states: literals, lengths, distances. -/
def next? (c : Coding) (states : States) (s : BitStack) : Option (States × BitStack) := do
  let (literals, s) ← c.literals.next? states.literals s
  let (lengths, s) ← c.lengths.next? states.lengths s
  let (distances, s) ← c.distances.next? states.distances s
  return (⟨literals, lengths, distances⟩, s)

def sequence? (states : States) (r : Recent) (s : BitStack) :
    Option (Sequence × Recent × BitStack) := do
  let (value, s) ← number? distanceParts states.distances.symbol s
  let (length, s) ← number? lengthParts states.lengths.symbol s
  let (literals, s) ← number? literalParts states.literals.symbol s
  let (distance, r) ← r.distance? value literals
  return (⟨literals, length, distance⟩, r, s)

/-- `n` sequences, which must use up the stack; the last one first. -/
def sequences? (c : Coding) : (n : Nat) → States → Recent → BitStack → List Sequence →
    Option (List Sequence × Recent)
  | 0, _, _, _, _ => none
  | 1, states, r, s, found => do
    let (sequence, r, s) ← sequence? states r s
    guard (s.height = 0)
    return (sequence :: found, r)
  | n + 1, states, r, s, found =>
    match sequence? states r s with
    | none => none
    | some (sequence, r, s) =>
      match next? c states s with
      | none => none
      | some (states, s) => sequences? c n states r s (sequence :: found)

def read? (last : Tables) (r : Recent) (bs : Bytes) :
    Option (List Sequence × Tables × Recent) := do
  let (n, bs) ← count? bs
  if n = 0 then
    guard bs.isEmpty
    return ([], last, r)
  let modes := (← bs[0]?).toNat
  guard (modes % 4 = 0)
  let (literals, bs) ← table? literalKind last.literals (modes / 64) (bs.drop 1)
  let (distances, bs) ← table? distanceKind last.distances (modes / 16 % 4) bs
  let (lengths, bs) ← table? lengthKind last.lengths (modes / 4 % 4) bs
  let c : Coding := ⟨literals, lengths, distances⟩
  let (states, s) ← start? c (← BitStack.ofBytes? (ByteArray.mk bs.toArray))
  let (found, r) ← sequences? c n states r s []
  return (found.reverse, ⟨some literals, some lengths, some distances⟩, r)

/-! ## Doing what sequences say -/

/-- A stretch of a frame: what is written from the front of the memory on, over the stretch
before.  What can be copied goes back to that one. -/
structure Stretch where
  origin : Nat
  /-- Where the stretch before it began, or it begins itself if it is the first one. -/
  reach : Nat

/-- The byte that is found in the place of byte `i` when `size` bytes were decoded: one of the
stretch before may be written over. -/
def Stretch.found (s : Stretch) (size i : Nat) : Nat :=
  if i < s.origin ∧ s.origin + (i - s.reach) < size then s.origin + (i - s.reach) else i

def copy (s : Stretch) (size distance : Nat) : (n : Nat) → ByteArray → ByteArray
  | 0, out => out
  | n + 1, out =>
    copy s size distance n (out.push ((out[s.found size (out.size - distance)]?).getD 0))

/-- Does what the sequences say, and appends the literals that are left, up to `most` bytes in
all. -/
def run? (s : Stretch) (most : Nat) (literals : ByteArray) :
    List Sequence → (used : Nat) → ByteArray → Option ByteArray
  | [], used, out =>
    let out := out ++ literals.extract used literals.size
    if out.size ≤ most then some out else none
  | q :: rest, used, out =>
    let out := out ++ literals.extract used (used + q.literals)
    if used + q.literals ≤ literals.size ∧ s.reach + q.distance ≤ out.size ∧ q.distance ≠ 0 ∧
        out.size + q.length ≤ most then
      run? s most literals rest (used + q.literals) (copy s out.size q.distance q.length out)
    else none

end Sequences
end Zstd
end TickStream
