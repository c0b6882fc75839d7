import TickStream.Record.Level
/-
The fields of a record body: single numbers, fixed-width texts and price levels.
-/
namespace TickStream

inductive Field where
  | scalar (s : Scalar)
  /-- A text in a field of `width` bytes. -/
  | text (width : Nat)
  /-- `n` price levels, best first. -/
  | levels (kind : LevelKind) (n : Nat)
  deriving DecidableEq, Repr

namespace Field

abbrev Val : Field → Type
  | scalar s => s.Val
  | text _ => String
  | levels k n => Vector k.Val n

def width : Field → Nat
  | scalar s => s.carrier.width
  | text n => n
  | levels _ n => 32 * n

def encode : (f : Field) → String → f.Val → Except Error Bytes
  | scalar s, _, v => .ok (s.carrier.encode (s.toWord v))
  | text n, name, v => PaddedText.encode name n v
  | levels k _, _, v => k.encodeAll (Vector.toList v)

def read : (f : Field) → String → Reader f.Val
  | scalar s, name => do return s.ofWord (← Reader.word s.carrier name)
  | text n, name => Reader.text n name
  | levels k n, _ => k.readAll n

def toJson : (f : Field) → f.Val → Json
  | scalar s, v => s.toJson v
  | text _, v => .string v
  | levels k _, v => .array ((Vector.toList v).map k.toJson)

def ofJson : (f : Field) → Json → Except Json.Fault f.Val
  | scalar s, j => s.ofJson j
  | text _, .string s => .ok s
  | text _, j => .error (.mismatch (.wrongType j.found "a string"))
  | levels k n, j => k.ofArray n j

instance : FieldKind Field where
  Val := Val
  width := width
  encode := encode
  read := read
  toJson := toJson
  ofJson := ofJson

/-! ## Abbreviations for layouts -/

abbrev u8 : Field := scalar (.word .u8)
abbrev u16 : Field := scalar (.word .u16)
abbrev u32 : Field := scalar (.word .u32)
abbrev i8 : Field := scalar (.word .i8)
abbrev i16 : Field := scalar (.word .i16)
abbrev i32 : Field := scalar (.word .i32)
abbrev count : Field := scalar .count
abbrev price : Field := scalar .price
abbrev char : Field := scalar .char
abbrev flag : Field := scalar .flag

end Field

abbrev Layout := List (Slot Field)

end TickStream
