import TickStream.Bytes.PaddedText
/-
Reading a byte string from front to back.  A read that lacks bytes changes nothing and
says where it stood.
-/
namespace TickStream

/-- What is left of a byte string, and the position of its first byte in the stream it
was cut from. -/
structure Cursor where
  rest : Bytes
  offset : Nat
  deriving DecidableEq, Repr

/-- A reader: a failure leaves the cursor where the failing read left it. -/
abbrev Reader := EStateM Error Cursor

namespace Reader

def offset : Reader Nat := fun c => .ok c.offset c

def take (n : Nat) (context : String) : Reader Bytes := fun c =>
  let got := c.rest.take n
  if got.length < n then .error (.truncated context c.offset n got.length) c
  else .ok got ⟨c.rest.drop n, c.offset + n⟩

def skip (n : Nat) (context : String) : Reader Unit := do
  let _ ← take n context

def word (w : Word) (context : String) : Reader w.Val := do
  return w.decode (← take w.width context)

def text (width : Nat) (field : String) : Reader String := do
  let start ← offset
  let bs ← take width field
  match PaddedText.decode field start bs with
  | .ok s => return s
  | .error e => throw e

def times {α : Type} : (n : Nat) → Reader α → Reader (List α)
  | 0, _ => return []
  | n + 1, r => do
    let a ← r
    return a :: (← times n r)

/-- The result of reading a byte string that starts at `offset` in its stream. -/
def run {α : Type} (r : Reader α) (bs : Bytes) (offset : Nat) : Except Error α :=
  match EStateM.run r ⟨bs, offset⟩ with
  | .ok a _ => .ok a
  | .error e _ => .error e

theorem run_eq_ok {α : Type} {r : Reader α} {bs : Bytes} {offset : Nat} {a : α} :
    run r bs offset = .ok a ↔ ∃ c, EStateM.run r ⟨bs, offset⟩ = .ok a c := by
  rw [run]
  cases EStateM.run r ⟨bs, offset⟩ <;> simp

theorem run_eq_error {α : Type} {r : Reader α} {bs : Bytes} {offset : Nat} {e : Error} :
    run r bs offset = .error e ↔ ∃ c, EStateM.run r ⟨bs, offset⟩ = .error e c := by
  rw [run]
  cases EStateM.run r ⟨bs, offset⟩ <;> simp

/-- Bytes that are there are taken, and the rest is left. -/
theorem take_append (front rest : Bytes) (offset : Nat) (context : String) :
    take front.length context ⟨front ++ rest, offset⟩ =
      .ok front ⟨rest, offset + front.length⟩ := by
  simp [take]

/-- A read that lacks bytes moves nothing and reports what is there. -/
theorem take_short {n : Nat} {c : Cursor} (h : c.rest.length < n) (context : String) :
    take n context c = .error (.truncated context c.offset n c.rest.length) c := by
  have : c.rest.take n = c.rest := List.take_of_length_le (Nat.le_of_lt h)
  simp [take, this, h]

end Reader
end TickStream
