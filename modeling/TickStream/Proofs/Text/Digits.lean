import Mathlib.Algebra.Group.Nat.Defs
import TickStream.Price
/-
Numbers written in decimal are read as they were written.
-/
namespace TickStream
namespace Text

/-- The decimal digits of a number, behind a minus sign if it is below zero. -/
def decimal (v : Int) : List Char :=
  if v < 0 then '-' :: Nat.toDigits 10 v.natAbs else Nat.toDigits 10 v.natAbs

theorem digitChar_digitValue {c : Char} (h : c.isDigit = true) :
    Nat.digitChar (digitValue c) = c ∧ digitValue c < 10 := by
  have hle : 48 ≤ c.toNat ∧ c.toNat ≤ 57 := by
    simpa [Char.isDigit, UInt32.le_iff_toNat_le] using h
  have hlt : c.toNat - 48 < 10 := by omega
  refine ⟨?_, hlt⟩
  apply Char.toNat_inj.1
  rw [digitValue, Nat.toNat_digitChar_of_lt_ten hlt]
  omega

theorem all_isDigit_toDigits (n : Nat) : (Nat.toDigits 10 n).all Char.isDigit = true := by
  rw [List.all_eq_true]
  intro c hc
  exact Nat.isDigit_of_mem_toDigits (by decide) (by decide) hc

/-- What begins the digits of a number is a digit. -/
theorem toDigits_eq_cons (n : Nat) :
    ∃ c cs, Nat.toDigits 10 n = c :: cs ∧ c.isDigit = true ∧ (0 < n → c ≠ '0') := by
  induction n using Nat.strongRecOn with
  | ind n ih =>
    by_cases hn : n < 10
    · refine ⟨Nat.digitChar n, [], Nat.toDigits_of_lt_base hn, ?_, ?_⟩
      · have hmem : Nat.digitChar n ∈ Nat.toDigits 10 n := by
          rw [Nat.toDigits_of_lt_base hn]
          exact List.mem_singleton_self _
        exact Nat.isDigit_of_mem_toDigits (by decide) (by decide) hmem
      · intro hpos
        have : n = 1 ∨ n = 2 ∨ n = 3 ∨ n = 4 ∨ n = 5 ∨ n = 6 ∨ n = 7 ∨ n = 8 ∨ n = 9 := by omega
        rcases this with rfl | rfl | rfl | rfl | rfl | rfl | rfl | rfl | rfl <;> decide
    · have hle : 10 ≤ n := Nat.le_of_not_lt hn
      obtain ⟨c, cs, hcs, hdigit, hzero⟩ := ih (n / 10) (by omega)
      refine ⟨c, cs ++ [(n % 10).digitChar], ?_, hdigit, fun _ => hzero (by omega)⟩
      rw [Nat.toDigits_of_base_le (by decide) hle, hcs]
      rfl

theorem digits?_toDigits (n : Nat) : digits? (Nat.toDigits 10 n) = some n := by
  have hne : (Nat.toDigits 10 n).isEmpty = false := by
    obtain ⟨c, cs, hcs, -, -⟩ := toDigits_eq_cons n
    rw [hcs]
    rfl
  rw [digits?, hne, all_isDigit_toDigits, digitsValue_toDigits]
  rfl

theorem toDigits_ne_cons (n : Nat) {c : Char} (hc : c.isDigit = false) (cs : List Char) :
    Nat.toDigits 10 n ≠ c :: cs := by
  intro h
  have hmem : c ∈ Nat.toDigits 10 n := by
    rw [h]
    exact List.mem_cons_self
  rw [Nat.isDigit_of_mem_toDigits (by decide) (by decide) hmem] at hc
  exact Bool.noConfusion hc

theorem natural?_toDigits (n : Nat) : natural? (String.ofList (Nat.toDigits 10 n)) = some n := by
  rw [natural?, String.toList_ofList]
  split
  · rename_i h
    exact absurd h (toDigits_ne_cons n (by decide) _)
  · exact digits?_toDigits n

theorem uint64?_toDigits (n : UInt64) :
    uint64? (String.ofList (Nat.toDigits 10 n.toNat)) = some n := by
  have hlt : n.toNat < 0x10000000000000000 := n.toNat_lt
  rw [uint64?, natural?_toDigits, Option.bind_some, if_pos hlt, UInt64.ofNat_toNat]

theorem isDigit_of_mem_decimal {v : Int} {c : Char} (hc : c ∈ decimal v) (hsign : c ≠ '-') :
    c.isDigit = true := by
  have hdigits (h : c ∈ Nat.toDigits 10 v.natAbs) : c.isDigit = true :=
    Nat.isDigit_of_mem_toDigits (by decide) (by decide) h
  rw [decimal] at hc
  by_cases hv : v < 0
  · rw [if_pos hv, List.mem_cons] at hc
    exact hdigits (hc.resolve_left hsign)
  · rw [if_neg hv] at hc
    exact hdigits hc

theorem integer?_decimal (v : Int) : integer? (String.ofList (decimal v)) = some v := by
  rw [integer?, String.toList_ofList, decimal]
  by_cases hv : v < 0
  · have habs : -(v.natAbs : Int) = v := by omega
    rw [if_pos hv]
    simp only [digits?_toDigits]
    exact congrArg some habs
  · have habs : (v.natAbs : Int) = v := by omega
    rw [if_neg hv]
    split
    · rename_i h
      exact absurd h (toDigits_ne_cons _ (by decide) _)
    · rename_i h
      exact absurd h (toDigits_ne_cons _ (by decide) _)
    · rw [digits?_toDigits]
      exact congrArg some habs

theorem int64?_decimal (n : Int64) : int64? (String.ofList (decimal n.toInt)) = some n := by
  have hle : -0x8000000000000000 ≤ n.toInt := n.le_toInt
  have hlt : n.toInt < 0x8000000000000000 := n.toInt_lt
  rw [int64?, integer?_decimal, Option.bind_some]
  simp only [hle, hlt, decide_true, Bool.and_self, if_true, Int64.ofInt_toInt]

end Text

namespace Price

theorem ofInt?_toInt (p : Price) : ofInt? p.raw.toInt = some p := by
  have hle : -0x8000000000000000 ≤ p.raw.toInt := p.raw.le_toInt
  have hlt : p.raw.toInt < 0x8000000000000000 := p.raw.toInt_lt
  rw [ofInt?]
  simp only [hle, hlt, decide_true, Bool.and_self, if_true, Int64.ofInt_toInt]

/-- A text without a point is a count of units. -/
theorem parse?_decimal (p : Price) : parse? (String.ofList (Text.decimal p.raw.toInt)) = some p := by
  have hpoint : ¬ (Text.decimal p.raw.toInt).contains '.' = true := by
    rw [List.contains_iff_mem]
    intro hmem
    exact absurd (Text.isDigit_of_mem_decimal hmem (by decide)) (by decide)
  rw [parse?, String.toList_ofList, if_neg hpoint, Text.int64?_decimal]
  rfl

/-! ## Nine places -/

theorem isDigit_of_mem_padded {width n : Nat} {c : Char} (hc : c ∈ (Text.padded width n).toList) :
    c.isDigit = true := by
  rw [Text.padded, String.toList_ofList, List.mem_append] at hc
  cases hc with
  | inl hc =>
    rw [List.eq_of_mem_replicate hc]
    decide
  | inr hc => exact Nat.isDigit_of_mem_toDigits (by decide) (by decide) hc

theorem length_padded {width n : Nat} (hw : 0 < width) (h : n < 10 ^ width) :
    (Text.padded width n).toList.length = width := by
  have hle : (Nat.toDigits 10 n).length ≤ width := (Nat.length_toDigits_le_iff (by decide) hw).2 h
  rw [Text.padded, String.toList_ofList, List.length_append, List.length_replicate]
  omega

def sign (p : Price) : List Char := if p.raw.toInt < 0 then ['-'] else []

def wholeDigits (p : Price) : List Char := (Text.padded 1 (p.raw.toInt.natAbs / scale)).toList

def placeDigits (p : Price) : List Char := (Text.padded places (p.raw.toInt.natAbs % scale)).toList

theorem toList_text {p : Price} (h : p ≠ undefined) :
    p.text.toList = (p.sign ++ p.wholeDigits) ++ '.' :: p.placeDigits := by
  have hdef : ¬ p.isUndefined = true := by
    rw [isUndefined, decide_eq_true_iff]
    exact h
  rw [text, if_neg hdef]
  simp only [String.toList_append, sign, wholeDigits, placeDigits]
  by_cases hneg : p.raw.toInt < 0
  · rw [if_pos hneg, if_pos hneg]
    simp
  · rw [if_neg hneg, if_neg hneg]
    simp

theorem length_placeDigits (p : Price) : p.placeDigits.length = places := by
  refine length_padded (by decide) ?_
  exact Nat.mod_lt _ (by decide)

/-- The digits on both sides of the point denote the units of the price. -/
theorem units_digits (p : Price) : units p.wholeDigits p.placeDigits = p.raw.toInt.natAbs := by
  rw [units, length_placeDigits, Nat.sub_self, wholeDigits, placeDigits, Text.digitsValue_padded,
    Text.digitsValue_padded]
  have := Nat.div_add_mod p.raw.toInt.natAbs scale
  show p.raw.toInt.natAbs / scale * scale + p.raw.toInt.natAbs % scale * 1 = _
  rw [Nat.mul_one, Nat.mul_comm]
  exact this

theorem decimal?_digits (p : Price) :
    decimal? (p.sign ++ p.wholeDigits) p.placeDigits = some p := by
  have hfits : ¬ places < p.placeDigits.length := by
    rw [length_placeDigits]
    exact Nat.lt_irrefl _
  have hsome : p.placeDigits.isEmpty = false := by
    have hlen := length_placeDigits p
    cases hd : p.placeDigits with
    | nil => rw [hd] at hlen; exact absurd hlen (by decide)
    | cons c cs => rfl
  have hdigits : (p.wholeDigits ++ p.placeDigits).all Char.isDigit = true := by
    rw [List.all_eq_true]
    intro c hc
    cases List.mem_append.1 hc with
    | inl hc => exact isDigit_of_mem_padded hc
    | inr hc => exact isDigit_of_mem_padded hc
  have hunits := units_digits p
  by_cases hneg : p.raw.toInt < 0
  · have habs : -(p.raw.toInt.natAbs : Int) = p.raw.toInt := by omega
    rw [sign, if_pos hneg]
    simp only [List.cons_append, List.nil_append, decimal?, hfits, hsome, hdigits, hunits,
      Bool.and_false, Bool.or_false, Bool.not_true, decide_false, Bool.false_eq_true, if_false,
      if_true, habs, ofInt?_toInt]
  · have habs : (p.raw.toInt.natAbs : Int) = p.raw.toInt := by omega
    have hsign (ds : List Char) (hw : p.wholeDigits = '-' :: ds) : False := by
      have hmem : '-' ∈ p.wholeDigits := by
        rw [hw]
        exact List.mem_cons_self
      exact absurd (isDigit_of_mem_padded hmem) (by decide)
    rw [sign, if_neg hneg, List.nil_append, decimal?]
    · simp only [hfits, hsome, hdigits, hunits, Bool.and_false, Bool.or_false, Bool.not_true,
        decide_false, Bool.false_eq_true, if_false, habs, ofInt?_toInt]
    · exact hsign

theorem parse?_text {p : Price} (h : p ≠ undefined) : parse? p.text = some p := by
  have hfront : ∀ c ∈ p.sign ++ p.wholeDigits, (c != '.') = true := by
    intro c hc
    rw [bne_iff_ne]
    rintro rfl
    cases List.mem_append.1 hc with
    | inl hc =>
      rw [sign] at hc
      split at hc
      · exact absurd hc (by decide)
      · exact absurd hc (by decide)
    | inr hc => exact absurd (isDigit_of_mem_padded hc) (by decide)
  have hpoint : p.text.toList.contains '.' = true := by
    rw [toList_text h, List.contains_iff_mem]
    exact List.mem_append_right _ List.mem_cons_self
  rw [parse?]
  simp only [hpoint, if_true]
  rw [toList_text h, List.takeWhile_append_of_pos hfront, List.dropWhile_append_of_pos hfront,
    List.takeWhile_cons_of_neg (by simp), List.dropWhile_cons_of_neg (by simp), List.append_nil,
    List.drop_one, List.tail_cons]
  exact decimal?_digits p

end Price
end TickStream
