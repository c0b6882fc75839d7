/-
Little-endian words.  Main statements: a word of `width` bytes reads back as its
value modulo the number of values of that many bytes, and writing what was read gives
the bytes again.
-/
namespace TickStream

/-- Bytes as they lie in a stream.  A list, because every law about a stream is
an induction on its bytes. -/
abbrev Bytes := List UInt8

namespace Bytes

/-- The `width` low bytes of `value`, least significant first. -/
def ofNat : (width value : Nat) → Bytes
  | 0, _ => []
  | width + 1, value => UInt8.ofNat value :: ofNat width (value / 256)

/-- The number whose base 256 digits are the bytes, least significant first. -/
def toNat : Bytes → Nat
  | [] => 0
  | b :: rest => b.toNat + 256 * toNat rest

/-- The number of values that `width` bytes can have. -/
def span : (width : Nat) → Nat
  | 0 => 1
  | width + 1 => 256 * span width

def zeros (n : Nat) : Bytes := List.replicate n 0

@[simp] theorem length_ofNat (width value : Nat) : (ofNat width value).length = width := by
  induction width generalizing value with
  | zero => rfl
  | succ width ih => simp [ofNat, ih]

@[simp] theorem length_zeros (n : Nat) : (zeros n).length = n := by simp [zeros]

theorem toNat_lt (bs : Bytes) : toNat bs < span bs.length := by
  induction bs with
  | nil => simp [toNat, span]
  | cons b rest ih =>
    have hb := b.toNat_lt
    simp only [toNat, List.length_cons, span]
    omega

theorem toNat_ofNat (width value : Nat) : toNat (ofNat width value) = value % span width := by
  induction width generalizing value with
  | zero => simp [toNat, ofNat, span, Nat.mod_one]
  | succ width ih =>
    have hb : (UInt8.ofNat value).toNat = value % 256 := by simp
    rw [ofNat, toNat, ih, hb, span, Nat.mod_mul]

theorem ofNat_toNat (bs : Bytes) : ofNat bs.length (toNat bs) = bs := by
  induction bs with
  | nil => rfl
  | cons b rest ih =>
    have hb := b.toNat_lt
    have hdiv : (b.toNat + 256 * toNat rest) / 256 = toNat rest := by omega
    have hhead : UInt8.ofNat (b.toNat + 256 * toNat rest) = b := by
      apply UInt8.toNat_inj.1
      simp
    simp only [List.length_cons, toNat, ofNat, hdiv, ih, hhead]

end Bytes

/-- The shapes of a machine word: how many bits, and whether the number has a sign. -/
inductive Word where
  | u8
  | u16
  | u32
  | u64
  | i8
  | i16
  | i32
  | i64
  deriving DecidableEq, Repr

namespace Word

abbrev Val : Word → Type
  | u8 => UInt8
  | u16 => UInt16
  | u32 => UInt32
  | u64 => UInt64
  | i8 => Int8
  | i16 => Int16
  | i32 => Int32
  | i64 => Int64

def width : Word → Nat
  | u8 | i8 => 1
  | u16 | i16 => 2
  | u32 | i32 => 4
  | u64 | i64 => 8

def ofBits : (w : Word) → Nat → w.Val
  | u8, n => UInt8.ofNat n
  | u16, n => UInt16.ofNat n
  | u32, n => UInt32.ofNat n
  | u64, n => UInt64.ofNat n
  | i8, n => (UInt8.ofNat n).toInt8
  | i16, n => (UInt16.ofNat n).toInt16
  | i32, n => (UInt32.ofNat n).toInt32
  | i64, n => (UInt64.ofNat n).toInt64

def bits : (w : Word) → w.Val → Nat
  | u8, v => UInt8.toNat v
  | u16, v => UInt16.toNat v
  | u32, v => UInt32.toNat v
  | u64, v => UInt64.toNat v
  | i8, v => (Int8.toUInt8 v).toNat
  | i16, v => (Int16.toUInt16 v).toNat
  | i32, v => (Int32.toUInt32 v).toNat
  | i64, v => (Int64.toUInt64 v).toNat

def toInt : (w : Word) → w.Val → Int
  | u8, v => (UInt8.toNat v : Int)
  | u16, v => (UInt16.toNat v : Int)
  | u32, v => (UInt32.toNat v : Int)
  | u64, v => (UInt64.toNat v : Int)
  | i8, v => Int8.toInt v
  | i16, v => Int16.toInt v
  | i32, v => Int32.toInt v
  | i64, v => Int64.toInt v

def least : Word → Int
  | u8 | u16 | u32 | u64 => 0
  | i8 => -0x80
  | i16 => -0x8000
  | i32 => -0x80000000
  | i64 => -0x8000000000000000

def greatest : Word → Int
  | u8 => 0xff
  | u16 => 0xffff
  | u32 => 0xffffffff
  | u64 => 0xffffffffffffffff
  | i8 => 0x7f
  | i16 => 0x7fff
  | i32 => 0x7fffffff
  | i64 => 0x7fffffffffffffff

def ofInt (w : Word) (v : Int) : w.Val := w.ofBits (v.emod (Bytes.span w.width)).toNat

def ofInt? (w : Word) (v : Int) : Option w.Val :=
  if w.least ≤ v && v ≤ w.greatest then some (w.ofInt v) else none

def encode (w : Word) (v : w.Val) : Bytes := Bytes.ofNat w.width (w.bits v)

def decode (w : Word) (bs : Bytes) : w.Val := w.ofBits (Bytes.toNat bs)

@[simp] theorem length_encode (w : Word) (v : w.Val) : (w.encode v).length = w.width := by
  simp [encode]

theorem bits_lt (w : Word) (v : w.Val) : w.bits v < Bytes.span w.width := by
  cases w <;> simp only [bits, width, Bytes.span]
  case u8 => exact UInt8.toNat_lt v
  case u16 => exact UInt16.toNat_lt v
  case u32 => exact UInt32.toNat_lt v
  case u64 => exact UInt64.toNat_lt v
  case i8 => exact UInt8.toNat_lt _
  case i16 => exact UInt16.toNat_lt _
  case i32 => exact UInt32.toNat_lt _
  case i64 => exact UInt64.toNat_lt _

theorem ofBits_bits (w : Word) (v : w.Val) : w.ofBits (w.bits v) = v := by
  cases w <;> simp [ofBits, bits]

theorem bits_ofBits (w : Word) (n : Nat) (h : n < Bytes.span w.width) :
    w.bits (w.ofBits n) = n := by
  cases w <;> simp only [width, Bytes.span] at h <;> simp [ofBits, bits] <;> omega

@[simp] theorem decode_encode (w : Word) (v : w.Val) : w.decode (w.encode v) = v := by
  simp [decode, encode, Bytes.toNat_ofNat, Nat.mod_eq_of_lt (w.bits_lt v), ofBits_bits]

theorem encode_decode (w : Word) (bs : Bytes) (h : bs.length = w.width) :
    w.encode (w.decode bs) = bs := by
  have hlt : Bytes.toNat bs < Bytes.span w.width := h ▸ Bytes.toNat_lt bs
  rw [encode, decode, bits_ofBits w _ hlt, ← h, Bytes.ofNat_toNat]

end Word
end TickStream
