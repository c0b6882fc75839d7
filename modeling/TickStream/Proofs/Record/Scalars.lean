import TickStream.Proofs.Json.Members
import TickStream.Proofs.Json.Printed
import TickStream.Proofs.Text.Digits
import TickStream.Record.Scalar
/-
The forms that numbers, prices, characters and truth values have in JSON.  Main statement: a
value is read from each of its forms, and the form that it is printed in is one of them.
-/
namespace TickStream

/-! ## Words as integers -/

namespace Word

theorem natCast_emod {n m : Nat} (h : n < m) : (n : Int) % (m : Int) = n :=
  Int.emod_eq_of_lt (Int.natCast_nonneg n) (Int.ofNat_lt.2 h)

theorem bitVec_emod {n : Nat} (b : BitVec n) : b.toInt % ((2 ^ n : Nat) : Int) = b.toNat := by
  rw [BitVec.toInt_eq_toNat_bmod, Int.bmod_emod]
  exact natCast_emod b.isLt

theorem toInt_emod_span (w : Word) (v : w.Val) :
    w.toInt v % (Bytes.span w.width : Nat) = w.bits v := by
  cases w
  case u8 => exact natCast_emod (UInt8.toNat_lt v)
  case u16 => exact natCast_emod (UInt16.toNat_lt v)
  case u32 => exact natCast_emod (UInt32.toNat_lt v)
  case u64 => exact natCast_emod (UInt64.toNat_lt v)
  case i8 => exact bitVec_emod (Int8.toBitVec v)
  case i16 => exact bitVec_emod (Int16.toBitVec v)
  case i32 => exact bitVec_emod (Int32.toBitVec v)
  case i64 => exact bitVec_emod (Int64.toBitVec v)

theorem ofInt_toInt (w : Word) (v : w.Val) : w.ofInt (w.toInt v) = v := by
  have hbits : ((w.toInt v).emod (Bytes.span w.width)).toNat = w.bits v := by
    show (w.toInt v % (Bytes.span w.width : Nat)).toNat = w.bits v
    rw [w.toInt_emod_span v, Int.toNat_natCast]
  rw [ofInt, hbits, ofBits_bits]

theorem least_le_toInt (w : Word) (v : w.Val) : w.least ≤ w.toInt v := by
  cases w
  case u8 => exact Int.natCast_nonneg _
  case u16 => exact Int.natCast_nonneg _
  case u32 => exact Int.natCast_nonneg _
  case u64 => exact Int.natCast_nonneg _
  case i8 => exact Int8.le_toInt v
  case i16 => exact Int16.le_toInt v
  case i32 => exact Int32.le_toInt v
  case i64 => exact Int64.le_toInt v

theorem toInt_le_greatest (w : Word) (v : w.Val) : w.toInt v ≤ w.greatest := by
  cases w
  case u8 => exact Int.ofNat_le.2 (Nat.le_of_lt_succ (UInt8.toNat_lt v))
  case u16 => exact Int.ofNat_le.2 (Nat.le_of_lt_succ (UInt16.toNat_lt v))
  case u32 => exact Int.ofNat_le.2 (Nat.le_of_lt_succ (UInt32.toNat_lt v))
  case u64 => exact Int.ofNat_le.2 (Nat.le_of_lt_succ (UInt64.toNat_lt v))
  case i8 => exact Int.le_of_lt_add_one (Int8.toInt_lt v)
  case i16 => exact Int.le_of_lt_add_one (Int16.toInt_lt v)
  case i32 => exact Int.le_of_lt_add_one (Int32.toInt_lt v)
  case i64 => exact Int.le_of_lt_add_one (Int64.toInt_lt v)

theorem ofInt?_toInt (w : Word) (v : w.Val) : w.ofInt? (w.toInt v) = some v := by
  have hfits : (w.least ≤ w.toInt v && w.toInt v ≤ w.greatest) = true := by
    rw [Bool.and_eq_true, decide_eq_true_iff, decide_eq_true_iff]
    exact ⟨w.least_le_toInt v, w.toInt_le_greatest v⟩
  rw [ofInt?, if_pos hfits, ofInt_toInt]

/-- Every word fits the integers of JSON. -/
theorem toInt_bounds (w : Word) (v : w.Val) :
    -0x8000000000000000 ≤ w.toInt v ∧ w.toInt v < 0x10000000000000000 := by
  have hleast := w.least_le_toInt v
  have hgreatest := w.toInt_le_greatest v
  have hl : -0x8000000000000000 ≤ w.least := by cases w <;> decide
  have hg : w.greatest < 0x10000000000000000 := by cases w <;> decide
  omega

end Word

namespace Json

/-- How an integer that fits 64 bits is written. -/
theorem ofInt_cases {v : Int} (hl : -0x8000000000000000 ≤ v) (hg : v < 0x10000000000000000) :
    (∃ n : UInt64, ofInt v = number (.natural n) ∧ (n.toNat : Int) = v) ∨
      ∃ n : Int64, ofInt v = number (.negative n) ∧ n.toInt = v ∧ n < 0 := by
  rw [ofInt]
  by_cases hv : v < 0
  · have hvalue : (Int64.ofInt v).toInt = v := Int64.toInt_ofInt_of_le hl (by omega)
    refine .inr ⟨Int64.ofInt v, if_pos hv, hvalue, ?_⟩
    rw [Int64.lt_iff_toInt_lt, hvalue]
    exact hv
  · refine .inl ⟨UInt64.ofNat v.toNat, if_neg hv, ?_⟩
    have hvalue : (UInt64.ofNat v.toNat).toNat = v.toNat :=
      UInt64.toNat_ofNat_of_lt' (by show v.toNat < 18446744073709551616; omega)
    rw [hvalue]
    omega

theorem depth_ofInt (v : Int) : (ofInt v).depth = 0 := by
  rw [ofInt]
  split <;> rfl

theorem sorted_ofInt (v : Int) : (ofInt v).sorted = ofInt v := by
  rw [ofInt]
  split <;> rfl

theorem integral_ofInt {v : Int} (hl : -0x8000000000000000 ≤ v) (hg : v < 0x10000000000000000) :
    (ofInt v).Integral := by
  obtain ⟨n, hn, -⟩ | ⟨n, hn, -, hneg⟩ := ofInt_cases hl hg
  · rw [hn]
    trivial
  · rw [hn]
    exact hneg

end Json

theorem Price.toInt_bounds (p : Price) :
    -0x8000000000000000 ≤ p.raw.toInt ∧ p.raw.toInt < 0x10000000000000000 := Word.i64.toInt_bounds p.raw

namespace Scalar

/-- The forms of a value.  Unsigned numbers of 64 bits may be quoted.  So may prices, as their
count of units, or with their nine places if they are defined.  A character is a text of one
character or the number of its byte, zero also the empty text, and a truth value may be a
number. -/
def Renders : (s : Scalar) → s.Val → Json → Prop
  | word w, v, j => j = .ofInt (w.toInt v)
  | count, n, j =>
    j = .number (.natural n) ∨ j = .string (String.ofList (Nat.toDigits 10 (UInt64.toNat n)))
  | price, p, j =>
    j = .ofInt (Price.raw p).toInt ∨
      j = .string (String.ofList (Text.decimal (Price.raw p).toInt)) ∨
      p ≠ Price.undefined ∧ j = .string (Price.text p)
  | char, b, j =>
    j = .string (String.singleton (charOfByte b)) ∨ j = .ofNat (UInt8.toNat b) ∨
      b = (0 : UInt8) ∧ j = .string ""
  | flag, b, j => j = .bool b ∨ j = .ofNat (byteOfFlag b).toNat

theorem renders_toJson (s : Scalar) (v : s.Val) : s.Renders v (s.toJson v) := by
  cases s
  case word w => rfl
  case count => exact .inl rfl
  case price => exact .inl rfl
  case char => exact .inl rfl
  case flag => exact .inl rfl

theorem integral_toJson (s : Scalar) (v : s.Val) : (s.toJson v).Integral := by
  cases s with
  | word w =>
    have hv := w.toInt_bounds v
    exact Json.integral_ofInt hv.1 hv.2
  | count => trivial
  | price =>
    have hv := Price.toInt_bounds v
    exact Json.integral_ofInt hv.1 hv.2
  | char => trivial
  | flag => trivial

theorem depth_toJson (s : Scalar) (v : s.Val) : (s.toJson v).depth = 0 := by
  cases s with
  | word w => exact Json.depth_ofInt _
  | count => rfl
  | price => exact Json.depth_ofInt _
  | char => rfl
  | flag => rfl

theorem ofJson_word_natural (w : Word) (n : UInt64) :
    ofJson (word w) (.number (.natural n)) = wordOfInt w (.natural n) n.toNat := rfl

theorem ofJson_word_negative (w : Word) (n : Int64) :
    ofJson (word w) (.number (.negative n)) = wordOfInt w (.negative n) n.toInt := rfl

theorem ofJson_word (w : Word) (v : w.Val) : ofJson (word w) (.ofInt (w.toInt v)) = .ok v := by
  have hw (f : Json.Found) : wordOfInt w f (w.toInt v) = .ok v := by
    rw [wordOfInt, w.ofInt?_toInt]
  have hbounds := w.toInt_bounds v
  cases Json.ofInt_cases hbounds.1 hbounds.2 with
  | inl h =>
    obtain ⟨n, hj, hn⟩ := h
    rw [hj, ofJson_word_natural, hn]
    exact hw _
  | inr h =>
    obtain ⟨n, hj, hn, -⟩ := h
    rw [hj, ofJson_word_negative, hn]
    exact hw _

theorem ofJson_price_natural (n : UInt64) :
    ofJson price (.number (.natural n)) = priceOfInt (.natural n) n.toNat := rfl

theorem ofJson_price_negative (n : Int64) :
    ofJson price (.number (.negative n)) = .ok (Price.mk n) := rfl

theorem ofJson_price (p : Price) : ofJson price (.ofInt p.raw.toInt) = .ok p := by
  have hbounds := p.toInt_bounds
  cases Json.ofInt_cases hbounds.1 hbounds.2 with
  | inl h =>
    obtain ⟨n, hj, hn⟩ := h
    rw [hj, ofJson_price_natural, hn, priceOfInt, p.ofInt?_toInt]
  | inr h =>
    obtain ⟨n, hj, hn, -⟩ := h
    rw [hj, ofJson_price_negative, Int64.toInt_inj.1 hn]

theorem ofJson_price_string {s : String} {p : Price} (h : Price.parse? s = some p) :
    ofJson price (.string s) = .ok p := by
  unfold ofJson
  simp only [h]

theorem toNat_charOfByte (b : UInt8) : (charOfByte b).toNat = b.toNat := by
  have hlt := b.toNat_lt
  have hvalid : b.toNat.isValidChar := .inl (by omega)
  rw [charOfByte, Char.ofNat, dif_pos hvalid]
  rfl

theorem byteOfText_char (b : UInt8) : byteOfText (String.singleton (charOfByte b)) = .ok b := by
  have hlt : b.toNat < 256 := b.toNat_lt
  rw [byteOfText, String.toList_singleton]
  simp only [toNat_charOfByte, if_pos hlt, UInt8.ofNat_toNat]

theorem ofJson_byte (b : UInt8) : ofJson char (.ofNat b.toNat) = .ok b := by
  have hlt : b.toNat < 256 := b.toNat_lt
  have hn : (UInt64.ofNat b.toNat).toNat = b.toNat :=
    UInt64.toNat_ofNat_of_lt' (by show b.toNat < 18446744073709551616; omega)
  show (if (UInt64.ofNat b.toNat).toNat < 256 then
    Except.ok (UInt8.ofNat (UInt64.ofNat b.toNat).toNat) else _) = Except.ok b
  rw [hn, if_pos hlt, UInt8.ofNat_toNat]

theorem ofJson_count_string (n : UInt64) :
    ofJson count (.string (String.ofList (Nat.toDigits 10 n.toNat))) = .ok n := by
  simp only [ofJson, Text.uint64?_toDigits]

theorem ofJson_flag (b : Bool) : ofJson flag (.ofNat (byteOfFlag b).toNat) = .ok b := by
  cases b <;> rfl

/-- A value is read from each of its forms. -/
theorem ofJson_of_renders {s : Scalar} {v : s.Val} {j : Json} (h : s.Renders v j) :
    s.ofJson j.sorted = .ok v := by
  cases s
  case word w =>
    obtain rfl : j = .ofInt (w.toInt v) := h
    rw [Json.sorted_ofInt]
    exact ofJson_word w v
  case count =>
    obtain rfl | rfl := h
    · rfl
    · exact ofJson_count_string v
  case price =>
    obtain rfl | rfl | ⟨hp, rfl⟩ := h
    · rw [Json.sorted_ofInt]
      exact ofJson_price v
    · exact ofJson_price_string (Price.parse?_decimal v)
    · exact ofJson_price_string (Price.parse?_text hp)
  case char =>
    obtain rfl | rfl | ⟨rfl, rfl⟩ := h
    · exact byteOfText_char v
    · exact ofJson_byte v
    · rfl
  case flag =>
    obtain rfl | rfl := h
    · rfl
    · exact ofJson_flag v

end Scalar
end TickStream
