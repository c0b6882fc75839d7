import TickStream.Archive.Zstd.Sequences
/-
Blocks: pieces of a frame.  A block holds its bytes as they are, or one byte that is repeated,
or literals and sequences.
-/
namespace TickStream
namespace Zstd

def blockLimit : Nat := 131072

inductive BlockKind where
  | plain
  /-- One byte, repeated. -/
  | repeated
  | compressed
  /-- No block is written like that. -/
  | unknown
  deriving DecidableEq, Repr

structure BlockHead where
  last : Bool
  kind : BlockKind
  /-- The number of bytes it decodes to, or is written in if it is compressed. -/
  size : Nat
  deriving DecidableEq, Repr

namespace BlockHead

def ofNat (n : Nat) : BlockHead :=
  let kind := match n / 2 % 4 with
    | 0 => .plain
    | 1 => .repeated
    | 2 => .compressed
    | _ => .unknown
  ⟨n % 2 = 1, kind, n / 8⟩

/-- Reads the three bytes in front of a block.  Gives the bytes after them, too. -/
def read? : Bytes → Option (BlockHead × Bytes)
  | a :: b :: c :: rest => some (.ofNat (Bytes.toNat [a, b, c]), rest)
  | _ => none

def stored (b : BlockHead) : Nat := if b.kind = .repeated then 1 else b.size

theorem length_of_read? {bs rest : Bytes} {b : BlockHead} (h : read? bs = some (b, rest)) :
    bs.length = rest.length + 3 := by
  match bs, h with
  | _ :: _ :: _ :: _, h =>
    simp only [read?, Option.some.injEq, Prod.mk.injEq] at h
    simp [h.2]

end BlockHead

/-- What a frame keeps from block to block. -/
structure Memory where
  codes : Option Huffman
  tables : Sequences.Tables
  recent : Sequences.Recent

def Memory.initial : Memory := ⟨none, ⟨none, none, none⟩, .initial⟩

structure Place where
  /-- The stretch that it stands in. -/
  stretch : Sequences.Stretch
  /-- The greatest number of bytes in a block of the frame. -/
  limit : Nat
  /-- How many bytes it may decode to. -/
  room : Nat
  /-- How many bytes there are to write to, if literals may wait among them. -/
  space : Option Nat

namespace Place

/-- The bytes on either side of waiting literals that are left free. -/
def margin : Nat := 32

/-- How many bytes a compressed block may decode to.  If there is space enough, its literals wait
behind the greatest block. -/
def roomFor (p : Place) (literals : Nat) : Nat :=
  match p.space with
  | some space =>
    if p.limit + margin + literals + margin < space then min p.room (p.limit + margin) else p.room
  | none => p.room

def compressed? (p : Place) (m : Memory) (bs : Bytes) (out : ByteArray) :
    Option (Memory × ByteArray) := do
  guard (bs.length ≤ p.limit)
  let (literals, codes, rest) ← Literals.read? p.limit m.codes bs
  let (sequences, tables, recent) ← Sequences.read? m.tables m.recent rest
  let most := out.size + p.roomFor literals.size
  return (⟨codes, tables, recent⟩, ← Sequences.run? p.stretch most literals sequences 0 out)

def push (out : ByteArray) (bs : Bytes) : ByteArray := bs.foldl ByteArray.push out

def decode? (p : Place) (m : Memory) (b : BlockHead) (bs : Bytes) (out : ByteArray) :
    Option (Memory × ByteArray) :=
  match b.kind with
  | .plain => if b.size ≤ p.room then some (m, push out bs) else none
  | .repeated =>
    if b.size ≤ p.room then some (m, out ++ ByteArray.mk (Array.replicate b.size (bs.headD 0)))
    else none
  | .compressed => p.compressed? m bs out
  | .unknown => none

end Place
end Zstd
end TickStream
