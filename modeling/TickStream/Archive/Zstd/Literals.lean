import TickStream.Archive.Zstd.Streams
/-
The literals of a block: the bytes that are not copied from before.
-/
namespace TickStream
namespace Zstd

namespace Literals

inductive Form where
  | plain
  /-- One byte, repeated. -/
  | repeated
  /-- In codes that stand in front of them. -/
  | coded
  /-- In the codes of the last block that had codes. -/
  | sameCodes

structure Head where
  form : Form
  count : Nat
  /-- The bytes they are written in. -/
  size : Nat
  /-- Whether they are coded in four parts. -/
  four : Bool

/-- Reads what stands in front of literals.  Gives the bytes after it, too. -/
def head? (bs : Bytes) : Option (Head × Bytes) := do
  let first := (← bs[0]?).toNat
  let width := first / 4 % 4
  let field (bytes skip bits : Nat) : Nat :=
    Bytes.toNat (bs.take bytes) >>> skip % Nat.pow 2 bits
  let rest (bytes : Nat) : Option Bytes := if bytes ≤ bs.length then some (bs.drop bytes) else none
  if first % 4 < 2 then
    let (bytes, count) := match width with
      | 1 => (2, field 2 4 12)
      | 3 => (3, field 3 4 20)
      | _ => (1, field 1 3 5)
    if first % 4 = 0 then return (⟨.plain, count, count, false⟩, ← rest bytes)
    else return (⟨.repeated, count, 1, false⟩, ← rest bytes)
  else
    let (bytes, bits) := match width with
      | 2 => (4, 14)
      | 3 => (5, 18)
      | _ => (3, 10)
    let form := if first % 4 = 2 then Form.coded else .sameCodes
    return (⟨form, field bytes 4 bits, field bytes (4 + bits) bits, width ≠ 0⟩, ← rest bytes)

def decode? (h : Huffman) (head : Head) (bs : Bytes) : Option ByteArray :=
  if head.four then h.decodeFour? head.count bs else h.decode? head.count bs

/-- Reads the literals at the front of a block, at most `limit` of them.  Gives the codes to keep
and the rest of the block, too. -/
def read? (limit : Nat) (codes : Option Huffman) (block : Bytes) :
    Option (ByteArray × Option Huffman × Bytes) := do
  let (head, rest) ← head? block
  guard (head.count ≤ limit ∧ head.size ≤ rest.length)
  let body := rest.take head.size
  let rest := rest.drop head.size
  match head.form with
  | .plain => return (ByteArray.mk body.toArray, codes, rest)
  | .repeated => return (ByteArray.mk (Array.replicate head.count (body.headD 0)), codes, rest)
  | .coded =>
    let (h, body) ← Huffman.read? body
    let h := { h with paired := head.four && Huffman.pairsPay head.count head.size }
    return (← decode? h head body, some h, rest)
  | .sameCodes => return (← decode? (← codes) head body, codes, rest)

end Literals
end Zstd
end TickStream
