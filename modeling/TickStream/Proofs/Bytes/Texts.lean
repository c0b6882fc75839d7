import TickStream.Bytes.Writer
/-
Texts without a zero character.  These are the texts that a fixed-width field gives back:
the first zero byte ends the text, so what is written for one reads as the same text.
-/
namespace TickStream

def Text.ZeroFree (s : String) : Prop := '\x00' ∉ s.toList

instance (s : String) : Decidable (Text.ZeroFree s) := inferInstanceAs (Decidable (_ ∉ _))

namespace Bytes

theorem ofString_eq (s : String) : ofString s = s.toList.flatMap String.utf8EncodeChar := by
  rw [ofString, ← String.utf8Encode_toList]
  simp [List.utf8Encode]

theorem ofNat_eq_zero_iff {n : Nat} : (0 : UInt8) = UInt8.ofNat n ↔ n % 256 = 0 := by
  rw [← UInt8.toNat_inj]
  simp only [UInt8.toNat_ofNat', UInt8.toNat_zero]
  omega

/-- Only the zero character has a zero byte: a byte that stands for itself is the code point,
and all bytes of a longer sequence have their high bit set. -/
theorem zero_mem_utf8EncodeChar {c : Char} (h : (0 : UInt8) ∈ String.utf8EncodeChar c) :
    c = '\x00' := by
  have hv : c.val.toNat = 0 := by
    simp only [String.utf8EncodeChar] at h
    split at h
    · rw [List.mem_singleton, ofNat_eq_zero_iff] at h
      omega
    · split at h
      · simp only [List.mem_cons, List.not_mem_nil, or_false, ofNat_eq_zero_iff] at h
        omega
      · split at h <;>
          simp only [List.mem_cons, List.not_mem_nil, or_false, ofNat_eq_zero_iff] at h <;> omega
  exact Char.ext (UInt32.toNat_inj.1 hv)

theorem zero_not_mem_ofString {s : String} (h : Text.ZeroFree s) : (0 : UInt8) ∉ ofString s := by
  rw [ofString_eq, List.mem_flatMap]
  rintro ⟨c, hc, hz⟩
  rw [zero_mem_utf8EncodeChar hz] at hc
  exact h hc

end Bytes

namespace PaddedText

theorem content_append_zeros {bs : Bytes} (h : (0 : UInt8) ∉ bs) (n : Nat) :
    content (bs ++ Bytes.zeros n) = bs := by
  have hall : ∀ b ∈ bs, (b != 0) = true := by
    intro b hb
    simp only [bne_iff_ne]
    intro hz
    exact h (hz ▸ hb)
  rw [content, List.takeWhile_append_of_pos hall]
  cases n <;> simp [Bytes.zeros, List.replicate_succ]

theorem padding_append_zeros {bs : Bytes} (h : (0 : UInt8) ∉ bs) (n : Nat) :
    padding (bs ++ Bytes.zeros n) = Bytes.zeros n := by
  have hsplit := content_append_padding (bs ++ Bytes.zeros n)
  rw [content_append_zeros h] at hsplit
  exact List.append_cancel_left hsplit

/-- The bytes of a text without a zero, filled up with zeros or not at all. -/
theorem decode_append_zeros {s : String} (hs : Text.ZeroFree s) (n : Nat) (name : String)
    (offset : Nat) : decode name offset (Bytes.ofString s ++ Bytes.zeros n) = .ok s := by
  have hz := Bytes.zero_not_mem_ofString hs
  have hpad : (Bytes.zeros n).findIdx? (· != 0) = none := by
    rw [List.findIdx?_eq_none_iff]
    intro b hb
    simp [Bytes.zeros, List.mem_replicate] at hb
    simp [hb.2]
  rw [decode, padding_append_zeros hz, hpad, content_append_zeros hz]
  simp only [Bytes.toString?_ofString]

/-- What is written for a text without a zero reads as that text. -/
theorem decode_encode {field : String} {width : Nat} {s : String} {bs : Bytes}
    (h : encode field width s = .ok bs) (hs : Text.ZeroFree s) (name : String) (offset : Nat) :
    decode name offset bs = .ok s := by
  simp only [encode] at h
  split at h
  · injection h with h
    rw [← h]
    exact decode_append_zeros hs _ name offset
  · exact absurd h (by simp)

/-- Where a field stands shows only in what is said of a bad one. -/
theorem decode_anywhere {field : String} {offset : Nat} {bs : Bytes} {s : String}
    (h : decode field offset bs = .ok s) (offset' : Nat) : decode field offset' bs = .ok s := by
  rw [decode] at h ⊢
  cases hpad : (padding bs).findIdx? (· != 0) with
  | some i =>
    rw [hpad] at h
    exact absurd h (by simp)
  | none =>
    cases htext : Bytes.toString? (content bs) with
    | some t =>
      rw [hpad, htext] at h
      exact h
    | none =>
      rw [hpad, htext] at h
      exact absurd h (by simp)

end PaddedText
end TickStream
