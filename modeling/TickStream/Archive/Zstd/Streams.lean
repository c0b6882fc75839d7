import TickStream.Archive.Zstd.Huffman
import TickStream.Archive.Zstd.Window
/-
Symbols in streams of codes: one stream, or four side by side.

A stream alone must be used up by its symbols.  Four long streams are decoded in rounds, all of
them at once and out of one piece of memory, and what a stream leaves or lacks is not missed: one
that is too short goes on into the bytes before it.
-/
namespace TickStream
namespace Zstd
namespace Huffman

/-! ## One code at a time -/

def single (h : Huffman) : (n : Nat) → Window → ByteArray → Window × ByteArray
  | 0, w, out => (w, out)
  | n + 1, w, out =>
    let code := h.codeAt (w.peek h.width)
    h.single n (w.drop code.bits) (out.push code.symbol)

/-- Appends symbols until there are `goal` bytes: four for each slide of the view, and the last
ones without. -/
def singles (h : Huffman) (goal : Nat) : (fuel : Nat) → Window → ByteArray → Window × ByteArray
  | 0, w, out => (w, out)
  | fuel + 1, w, out =>
    let (w, free) := w.slide
    if free && out.size + 4 ≤ goal then
      let (w, out) := h.single 4 w out
      h.singles goal fuel w out
    else h.single (goal - out.size) w out

/-! ## Two codes at a time -/

def pair (h : Huffman) (w : Window) (out : ByteArray) : Window × ByteArray :=
  match h.pairAt (w.peek h.width) with
  | (a, none) => (w.drop a.bits, out.push a.symbol)
  | (a, some b) => (w.drop (a.bits + b.bits), (out.push a.symbol).push b.symbol)

def pairs (h : Huffman) : (n : Nat) → Window → ByteArray → Window × ByteArray
  | 0, w, out => (w, out)
  | n + 1, w, out =>
    let (w, out) := h.pair w out
    h.pairs n w out

/-- Appends symbols while the view slides freely, `n` looks for each slide, as long as they
cannot exceed `goal` bytes. -/
def pairsSliding (h : Huffman) (goal n : Nat) :
    (fuel : Nat) → Window → ByteArray → Window × ByteArray
  | 0, w, out => (w, out)
  | fuel + 1, w, out =>
    let (w, free) := w.slide
    if free && out.size + 2 * n ≤ goal then
      let (w, out) := h.pairs n w out
      h.pairsSliding goal n fuel w out
    else (w, out)

/-- Appends symbols out of the view as it stands, as long as two cannot exceed `goal` bytes. -/
def pairsInView (h : Huffman) (goal : Nat) :
    (fuel : Nat) → Window → ByteArray → Window × ByteArray
  | 0, w, out => (w, out)
  | fuel + 1, w, out =>
    if out.size + 2 ≤ goal then
      let (w, out) := h.pair w out
      h.pairsInView goal fuel w out
    else (w, out)

/-- Appends the last symbol.  A look that shows another code takes the bits of that one, too, as
far as there are any. -/
def lastOfPair (h : Huffman) (w : Window) (out : ByteArray) : Window × ByteArray :=
  match h.pairAt (w.peek h.width) with
  | (a, none) => (w.drop a.bits, out.push a.symbol)
  | (a, some b) =>
    let w := if w.taken < 64 then { w with taken := min 64 (w.taken + a.bits + b.bits) } else w
    (w, out.push a.symbol)

def inPairs (h : Huffman) (goal : Nat) (w : Window) (out : ByteArray) : Window × ByteArray :=
  let fuel := goal + 1
  let (w, out) := h.pairsSliding goal (if h.width ≤ usualWidth then 5 else 4) fuel w out
  let (w, out) :=
    if out.size + 2 ≤ goal then
      let (w, out) := h.pairsSliding goal 1 fuel w out
      h.pairsInView goal fuel w out
    else (w, out)
  if out.size < goal then h.lastOfPair w out else (w, out)

/-! ## A stream alone -/

def extend (h : Huffman) (goal : Nat) (w : Window) (out : ByteArray) : Window × ByteArray :=
  if h.paired then h.inPairs goal w out else h.singles goal (goal + 1) w out

def decode? (h : Huffman) (n : Nat) (bs : Bytes) : Option ByteArray := do
  let (w, out) := h.extend n (← Window.ofBytes? (ByteArray.mk bs.toArray)) .empty
  guard w.isSpent
  return out

/-! ## Four streams in rounds -/

structure Lane where
  window : Window
  /-- The first of its bytes. -/
  origin : Nat
  /-- The number of symbols it is to give. -/
  goal : Nat
  out : ByteArray

/-- The stream that ends before byte `stop`.  It is at least eight bytes long.  If its last byte
is zero, no bit of it is passed over. -/
def Lane.ofBytes (bytes : ByteArray) (origin stop goal : Nat) : Lane :=
  let last := ((bytes[stop - 1]?).getD 0).toNat
  ⟨⟨bytes, stop - 8, if last = 0 then 0 else 8 - last.log2⟩, origin, goal, .empty⟩

/-- Decodes with five looks, which cannot leave the view. -/
def Lane.advance (h : Huffman) (l : Lane) : Lane :=
  let (w, out) := if h.paired then h.pairs 5 l.window l.out else h.single 5 l.window l.out
  { l with window := w.descend, out := out }

/-- Decodes all lanes in step until the last one has `size` bytes. -/
def advanceTo (h : Huffman) (size : Nat) : (fuel : Nat) → List Lane → List Lane
  | 0, lanes => lanes
  | fuel + 1, lanes =>
    if lanes.getLast?.any fun l => l.out.size < size then
      h.advanceTo size fuel (lanes.map (Lane.advance h))
    else lanes

/-- How many rounds are safe: none of them reads below the first byte or gives too many
symbols. -/
def safeRounds (h : Huffman) (lanes : List Lane) : Nat :=
  let inward := (lanes.head?.map fun l => l.window.first / 7).getD 0
  let outward := if h.paired then lanes.map fun l => (l.goal - l.out.size) / 10
    else lanes.getLast?.toList.map fun l => (l.goal - l.out.size) / 5
  outward.foldl min inward

/-- Whether no lane has fallen behind the one before it. -/
def inOrder : List Lane → Bool
  | a :: b :: rest => a.window.first ≤ b.window.first && inOrder (b :: rest)
  | _ => true

def rounds (h : Huffman) : (fuel : Nat) → List Lane → List Lane
  | 0, lanes => lanes
  | fuel + 1, lanes =>
    let n := h.safeRounds lanes
    if n = 0 || !inOrder lanes then lanes
    else
      let size := (lanes.getLast?.map fun l => l.out.size).getD 0
      h.rounds fuel (h.advanceTo (size + 5 * n) n lanes)

/-- Decodes what a lane lacks after the last round.  Until then it must not have read more than
some bits below its own bytes. -/
def Lane.finish? (h : Huffman) (l : Lane) : Option ByteArray := do
  guard (l.out.size ≤ l.goal ∧ l.origin ≤ l.window.first + 8)
  return (h.extend l.goal l.window l.out).2

/-! ## Four streams -/

def leastInFour : Nat := 6

/-- Symbols in streams of the given sizes that stand in a row, and the goals of the streams. -/
def each? (h : Huffman) : List (Nat × Nat) → Bytes → Option ByteArray
  | [], _ => some .empty
  | (size, goal) :: rest, bs => do
    let first ← h.decode? goal (bs.take size)
    return first ++ (← h.each? rest (bs.drop size))

/-- The same out of one piece of memory, in which the first stream begins at `origin`. -/
def lanes (bytes : ByteArray) : List (Nat × Nat) → (origin : Nat) → List Lane
  | [], _ => []
  | (size, goal) :: rest, origin =>
    .ofBytes bytes origin (origin + size) goal :: lanes bytes rest (origin + size)

/-- `n` symbols in four streams, which give equal numbers of them but for the last one.  In
front are the sizes of the first three. -/
def decodeFour? (h : Huffman) (n : Nat) (bs : Bytes) : Option ByteArray := do
  let field (i : Nat) : Nat := Bytes.toNat ((bs.drop (2 * i)).take 2)
  let three := field 0 + field 1 + field 2
  let part := (n + 3) / 4
  guard (leastInFour ≤ n ∧ 3 * part ≤ n ∧ 6 + three ≤ bs.length)
  let sizes := [field 0, field 1, field 2, bs.length - 6 - three]
  let streams := sizes.zip [part, part, part, n - 3 * part]
  if h.width = usualWidth && 3 * part < n && sizes.all (8 ≤ ·) then
    let bytes := ByteArray.mk bs.toArray
    let done ← (h.rounds (n + 1) (lanes bytes streams 6)).mapM (Lane.finish? h)
    return done.foldl (· ++ ·) .empty
  else h.each? streams (bs.drop 6)

/-! ## Whether pairs pay -/

/-- The time that decoding takes: to begin with, and for each 256 symbols. -/
structure Cost where
  start : Nat
  each : Nat

/-- Costs of taking one code at a time and of taking two, by how many sixteenths of the symbols'
number the bytes are. -/
def costs : List (Cost × Cost) :=
  [(⟨0, 0⟩, ⟨1, 1⟩), (⟨0, 0⟩, ⟨1, 1⟩), (⟨150, 216⟩, ⟨381, 119⟩), (⟨170, 205⟩, ⟨514, 112⟩),
   (⟨177, 199⟩, ⟨539, 110⟩), (⟨197, 194⟩, ⟨644, 107⟩), (⟨221, 192⟩, ⟨735, 107⟩),
   (⟨256, 189⟩, ⟨881, 106⟩), (⟨359, 188⟩, ⟨1167, 109⟩), (⟨582, 187⟩, ⟨1570, 114⟩),
   (⟨688, 187⟩, ⟨1712, 122⟩), (⟨825, 186⟩, ⟨1965, 136⟩), (⟨976, 185⟩, ⟨2131, 150⟩),
   (⟨1180, 186⟩, ⟨2070, 175⟩), (⟨1377, 185⟩, ⟨1731, 202⟩), (⟨1412, 185⟩, ⟨1695, 202⟩)]

/-- Whether `n` symbols in `size` bytes are decoded sooner in pairs, by some margin. -/
def pairsPay (n size : Nat) : Bool :=
  let time (c : Cost) : Nat := c.start + c.each * (n / 256)
  match costs[if n ≤ size then 15 else size * 16 / n]? with
  | some (one, two) => time two + time two / 32 < time one
  | none => false

end Huffman
end Zstd
end TickStream
