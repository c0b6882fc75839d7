import TickStream.Bytes.PaddedText
/-
Writing a byte string from front to back.
-/
namespace TickStream

/-- One thing to write. -/
inductive Entry where
  | word (w : Word) (v : w.Val)
  | bytes (bs : Bytes)
  | zeros (n : Nat)
  | text (field : String) (width : Nat) (s : String)

namespace Entry

/-- The bytes of an entry.  Only a text that is too long has none. -/
def encode : Entry → Except Error Bytes
  | word w v => .ok (w.encode v)
  | bytes bs => .ok bs
  | zeros n => .ok (Bytes.zeros n)
  | text field width s => PaddedText.encode field width s

def encodeAll : List Entry → Except Error Bytes
  | [] => .ok []
  | e :: es => do
    let bs ← e.encode
    return bs ++ (← encodeAll es)

end Entry

namespace Writer

def put (written : Bytes) (e : Entry) : Except Error Bytes := (e.encode).map (written ++ ·)

def patch (written : Bytes) (position : Nat) (v : UInt32) : Bytes :=
  written.take position ++ Word.u32.encode v ++ written.drop (position + 4)

end Writer
end TickStream
