import TickStream.Price
import TickStream.Record.Slot
/-
Fields of a single number.  In bytes each is a machine word; in JSON some have a form
of their own.
-/
namespace TickStream

/-- The kinds of single-number fields. -/
inductive Scalar where
  | word (w : Word)
  /-- An unsigned number of 64 bits.  JSON may quote it. -/
  | count
  /-- A price.  JSON may quote it, as a count of units or in decimal places. -/
  | price
  /-- A character of one byte.  In JSON a string. -/
  | char
  | flag
  deriving DecidableEq, Repr

namespace Scalar

abbrev Val : Scalar → Type
  | word w => w.Val
  | count => UInt64
  | price => Price
  | char => UInt8
  | flag => Bool

/-- The word that a field is in bytes. -/
def carrier : Scalar → Word
  | word w => w
  | count => .u64
  | price => .i64
  | char => .u8
  | flag => .u8

def byteOfFlag (b : Bool) : UInt8 := if b then 1 else 0

/-- The truth value of a byte: any byte but zero is true. -/
def flagOfByte (b : UInt8) : Bool := b != 0

def toWord : (s : Scalar) → s.Val → s.carrier.Val
  | word _, v => v
  | count, v => v
  | price, v => Price.raw v
  | char, v => v
  | flag, v => byteOfFlag v

def ofWord : (s : Scalar) → s.carrier.Val → s.Val
  | word _, v => v
  | count, v => v
  | price, v => Price.mk v
  | char, v => v
  | flag, v => flagOfByte v

@[simp] theorem ofWord_toWord (s : Scalar) (v : s.Val) : s.ofWord (s.toWord v) = v := by
  cases s
  case flag => cases v <;> rfl
  all_goals rfl

/-! ## JSON -/

def expected : Scalar → String
  | word .u8 => "u8"
  | word .u16 => "u16"
  | word .u32 => "u32"
  | word .u64 => "u64"
  | word .i8 => "i8"
  | word .i16 => "i16"
  | word .i32 => "i32"
  | word .i64 => "i64"
  | count => "an unsigned 64-bit integer or its decimal string"
  | price => "a fixed-point price as an integer or a string"
  | char => "a single-byte character"
  | flag => "a boolean, 0 or 1"

def wrongType {α : Type} (s : Scalar) (j : Json) : Except Json.Fault α :=
  .error (.mismatch (.wrongType j.found s.expected))

def wrongValue {α : Type} (s : Scalar) (f : Json.Found) : Except Json.Fault α :=
  .error (.mismatch (.wrongValue f s.expected))

def charOfByte (b : UInt8) : Char := Char.ofNat b.toNat

/-- The byte of a text of one character.  The empty text stands for zero. -/
def byteOfText (s : String) : Except Json.Fault UInt8 :=
  match s.toList with
  | [] => .ok 0
  | [c] => if c.toNat < 256 then .ok (UInt8.ofNat c.toNat) else wrongValue char (.char c)
  | _ => wrongValue char (.string s)

def toJson : (s : Scalar) → s.Val → Json
  | word w, v => .ofInt (w.toInt v)
  | count, v => .number (.natural v)
  | price, v => .ofInt (Price.raw v).toInt
  | char, v => .string (String.singleton (charOfByte v))
  | flag, v => .bool v

/-- Reads a number of the shape `w` from an exact integer. -/
def wordOfInt (w : Word) (f : Json.Found) (v : Int) : Except Json.Fault w.Val :=
  match w.ofInt? v with
  | some v => .ok v
  | none => wrongValue (word w) f

/-- Reads a price from an exact count of units. -/
def priceOfInt (f : Json.Found) (v : Int) : Except Json.Fault Price :=
  match Price.ofInt? v with
  | some p => .ok p
  | none => wrongValue price f

def ofJson : (s : Scalar) → Json → Except Json.Fault s.Val
  | word w, .number (.natural n) => wordOfInt w (.natural n) n.toNat
  | word w, .number (.negative n) => wordOfInt w (.negative n) n.toInt
  | count, .number (.natural n) => .ok n
  | count, .number (.negative n) => wrongValue count (.negative n)
  | count, .string s =>
    match Text.uint64? s with
    | some n => .ok n
    | none => wrongValue count (.string s)
  | price, .number (.natural n) => priceOfInt (.natural n) n.toNat
  | price, .number (.negative n) => .ok (Price.mk n)
  | price, .string s =>
    match Price.parse? s with
    | some p => .ok p
    | none => .error (.mismatch (.badPrice s))
  | char, .number (.natural n) =>
    if n.toNat < 256 then .ok (UInt8.ofNat n.toNat) else wrongValue char (.natural n)
  | char, .number (.negative n) => wrongValue char (.negative n)
  | char, .string s => byteOfText s
  | flag, .bool b => .ok b
  | flag, .number (.natural n) =>
    if n.toNat = 0 then .ok false
    else if n.toNat = 1 then .ok true
    else wrongValue flag (.natural n)
  | flag, .number (.negative n) => wrongValue flag (.negative n)
  | s, j => wrongType s j

/-- Reads a JSON text that holds one value of this kind and nothing else.  An array or an
object is refused at its bracket; what follows a value is looked at last. -/
def parse (s : Scalar) (text : String) : Except Json.Fault s.Val :=
  match Json.skipGap text.toList with
  | '[' :: _ => s.wrongType (.array [])
  | '\x7b' :: _ => s.wrongType (.object [])
  | _ => do
    let (j, ⟨rest, _⟩) ← Json.value Json.depthLimit text.toList
    let v ← s.ofJson j
    if (Json.skipGap rest).isEmpty then return v else .error .malformed

instance : FieldKind Scalar where
  Val := Val
  width s := s.carrier.width
  encode s _ v := .ok (s.carrier.encode (s.toWord v))
  read s name := do return s.ofWord (← Reader.word s.carrier name)
  toJson := toJson
  ofJson := ofJson

end Scalar
end TickStream
