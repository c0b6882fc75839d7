import Mathlib.Tactic.Linarith
import TickStream.Proofs.Json.Values
import TickStream.Proofs.PriceTexts
import TickStream.Proofs.Record.Scalars
/-
Prices printed and read back.  Main statement: the text of a defined price has its sign, no zeros
in front and all nine places, denotes the price exactly and is read as it; and every price, the
undefined one too, is read from each of its forms in JSON.
-/
namespace TickStream

/-! ## JSON texts of single values -/

namespace Json

variable {v : Json} {cs : List Char}

/-- A value without items or members begins with no bracket. -/
theorem first_of_flat (h : Spells (.value v) cs) (hflat : v.depth = 0) :
    ∃ c tail, cs = c :: tail ∧ isGap c = false ∧ c ≠ '[' ∧ c ≠ '\x7b' := by
  have hnumber {c : Char} (hc : c = '-' ∨ c.isDigit = true) :
      isGap c = false ∧ c ≠ '[' ∧ c ≠ '\x7b' := by
    refine ⟨isGap_of_first hc, ?_, ?_⟩
    · rintro rfl
      exact absurd hc (by decide)
    · rintro rfl
      exact absurd hc (by decide)
  cases h with
  | null => exact ⟨_, _, rfl, by decide⟩
  | true => exact ⟨_, _, rfl, by decide⟩
  | false => exact ⟨_, _, rfl, by decide⟩
  | natural n =>
    obtain ⟨c, tail, hcs, hdigit, -⟩ := Text.toDigits_eq_cons n.toNat
    exact ⟨c, tail, hcs, hnumber (.inr hdigit)⟩
  | negative h => exact ⟨_, _, rfl, hnumber (.inl rfl)⟩
  | real h =>
    obtain ⟨c, tail, rfl, hc⟩ := Numeral.exists_of_read h
    exact ⟨c, tail, rfl, hnumber hc⟩
  | string h =>
    obtain ⟨ds, -, rfl⟩ := h
    exact ⟨_, _, rfl, by decide⟩
  | emptyArray h => cases hflat
  | array h => cases hflat
  | emptyObject h => cases hflat
  | object h => cases hflat

theorem skipGap_of_flat (h : Spells (.spaced v) cs) (hflat : v.depth = 0) :
    ∃ c tail, skipGap cs = c :: tail ∧ c ≠ '[' ∧ c ≠ '\x7b' := by
  cases h with
  | spaced hb ha hv =>
    obtain ⟨c, tail, rfl, hgap, hc⟩ := first_of_flat hv hflat
    rw [skipGap_append hb, List.cons_append, skipGap_cons hgap]
    exact ⟨c, _, rfl, hc⟩

end Json

namespace Scalar

variable {s : Scalar} {v : s.Val} {j : Json} {text : String}

theorem Renders.flat (h : s.Renders v j) : j.depth = 0 := by
  cases s
  case word w =>
    obtain rfl : j = .ofInt (w.toInt v) := h
    exact Json.depth_ofInt _
  case count =>
    obtain rfl | rfl := h
    · rfl
    · rfl
  case price =>
    obtain rfl | rfl | ⟨-, rfl⟩ := h
    · exact Json.depth_ofInt _
    · rfl
    · rfl
  case char =>
    obtain rfl | rfl | ⟨-, rfl⟩ := h
    · rfl
    · rfl
    · rfl
  case flag =>
    obtain rfl | rfl := h
    · rfl
    · rfl

/-- A value is read from every text of each of its forms. -/
theorem parse_of_renders (h : s.Renders v j) (ht : Json.Spells (.spaced j) text.toList) :
    s.parse text = .ok v := by
  have hflat := h.flat
  have hend : Json.Numeral.Ends [] := fun c hc => absurd hc (by simp)
  obtain ⟨left, hread, hleft⟩ := Json.completes_of_spells ht Json.depthLimit []
    (by rw [hflat]; decide) hend
  rw [List.append_nil] at hread
  obtain ⟨hlt, hread⟩ := hread
  obtain ⟨c, tail, hfirst, harray, hobject⟩ := Json.skipGap_of_flat ht hflat
  rw [parse, hfirst]
  split
  · rename_i heq
    exact absurd (List.cons.inj heq).1 harray
  · rename_i heq
    exact absurd (List.cons.inj heq).1 hobject
  · rw [hread]
    show (do
      let v ← s.ofJson j.sorted
      if (Json.skipGap left).isEmpty then return v else .error .malformed) = Except.ok v
    rw [ofJson_of_renders h, hleft]
    rfl

end Scalar

/-! ## Prices in decimal places -/

namespace Price

open Text

/-- Digits around a point that stand for `v` units with all nine places, and with no zero in front
but for the one that may stand there alone. -/
structure Spelled (v : Int) (whole fraction : List (Fin 10)) : Prop where
  some_digit : whole ≠ []
  no_zeros : whole.head? = some 0 → whole = [0]
  nine : fraction.length = 9
  value : (v : ℚ) / 10 ^ 9 =
    (if v < 0 then -1 else 1) * (number whole + number fraction / 10 ^ 9)

/-- The digits of a price on both sides of its point, as digits. -/
theorem exists_digits (p : Price) : ∃ whole fraction,
    p.wholeDigits = digitText whole ∧ p.placeDigits = digitText fraction ∧
      number whole = p.raw.toInt.natAbs / scale ∧ number fraction = p.raw.toInt.natAbs % scale := by
  obtain ⟨whole, hwhole⟩ := all_isDigit_iff.1
    (List.all_eq_true.2 fun _ hc => isDigit_of_mem_padded hc : p.wholeDigits.all Char.isDigit = true)
  obtain ⟨fraction, hfraction⟩ := all_isDigit_iff.1
    (List.all_eq_true.2 fun _ hc => isDigit_of_mem_padded hc : p.placeDigits.all Char.isDigit = true)
  refine ⟨whole, fraction, hwhole, hfraction, ?_, ?_⟩
  · rw [← digitsValue_digitText, ← hwhole, wholeDigits, digitsValue_padded]
  · rw [← digitsValue_digitText, ← hfraction, placeDigits, digitsValue_padded]

/-- Before the point stand the digits of a number and no more. -/
theorem wholeDigits_eq (p : Price) : p.wholeDigits = Nat.toDigits 10 (p.raw.toInt.natAbs / scale) := by
  obtain ⟨c, cs, hcs, -⟩ := toDigits_eq_cons (p.raw.toInt.natAbs / scale)
  rw [wholeDigits, padded, String.toList_ofList, hcs]
  simp

theorem head_of_digitText {ds : List (Fin 10)} {n : Nat} (h : digitText ds = Nat.toDigits 10 n)
    (hzero : ds.head? = some 0) : ds = [0] := by
  obtain ⟨ds', rfl⟩ := List.head?_eq_some_iff.1 hzero
  obtain ⟨c, cs, hcs, -, hpos⟩ := toDigits_eq_cons n
  have hc : c = '0' := (List.cons.inj (hcs.symm.trans h.symm)).1
  have hn : n = 0 := Nat.eq_zero_of_not_pos fun h => hpos h hc
  subst hn
  have hnil : digitText ds' = [] := (List.cons.inj h).2
  rw [digitText_eq_nil.1 hnil]

/-- The units of a number, from its digits on both sides of the point. -/
theorem cast_natAbs (v : Int) : (v : ℚ) / 10 ^ 9 = (if v < 0 then -1 else 1) *
    ((v.natAbs / scale : ℕ) + (v.natAbs % scale : ℕ) / 10 ^ 9) := by
  have hscale : ((scale : ℕ) : ℚ) = 10 ^ 9 := by norm_num [scale, places]
  have hparts : ((v.natAbs : ℕ) : ℚ) =
      10 ^ 9 * (v.natAbs / scale : ℕ) + (v.natAbs % scale : ℕ) := by
    rw [← hscale]
    exact_mod_cast (Nat.div_add_mod v.natAbs scale).symm
  have hsum : ((v.natAbs : ℕ) : ℚ) / 10 ^ 9 =
      (v.natAbs / scale : ℕ) + (v.natAbs % scale : ℕ) / 10 ^ 9 := by
    rw [hparts, add_div, mul_div_cancel_left₀ _ (by norm_num)]
  rw [← hsum]
  split
  · rename_i hneg
    have habs : v = -(v.natAbs : Int) := by omega
    rw [habs, Int.cast_neg, Int.cast_natCast, Int.natAbs_neg, Int.natAbs_natCast, neg_div,
      neg_one_mul]
  · rename_i hpos
    have habs : v = (v.natAbs : Int) := by omega
    rw [habs, Int.cast_natCast, Int.natAbs_natCast, one_mul]

theorem exists_spelled {p : Price} (h : p ≠ undefined) : ∃ whole fraction,
    Spelled p.raw.toInt whole fraction ∧
      p.text.toList = (if p.raw.toInt < 0 then ['-'] else []) ++ digitText whole ++
        '.' :: digitText fraction := by
  obtain ⟨whole, fraction, hwhole, hfraction, hw, hf⟩ := p.exists_digits
  refine ⟨whole, fraction, ⟨?_, ?_, ?_, ?_⟩, ?_⟩
  · rintro rfl
    obtain ⟨c, cs, hcs, -⟩ := toDigits_eq_cons (p.raw.toInt.natAbs / scale)
    rw [p.wholeDigits_eq, hcs] at hwhole
    cases hwhole
  · exact head_of_digitText (hwhole.symm.trans p.wholeDigits_eq)
  · have hlen := p.length_placeDigits
    rw [hfraction, digitText, List.length_map] at hlen
    exact hlen
  · rw [hw, hf]
    exact cast_natAbs p.raw.toInt
  · rw [toList_text h, sign, hwhole, hfraction]

/-- A defined price is printed with its sign, no zeros in front and nine places, and read from this
text; and every price is read from each text of its units, quoted or not, and of its own text. -/
theorem printed_round_trip (p : Price) :
    (p ≠ undefined → (∃ whole fraction, Spelled p.raw.toInt whole fraction ∧
        p.text.toList = (if p.raw.toInt < 0 then ['-'] else []) ++ digitText whole ++
          '.' :: digitText fraction) ∧
      read p.text = .ok p) ∧
    ∀ (j : Json) (text : String), Json.Spells (.spaced j) text.toList →
      (j = .ofInt p.raw.toInt ∨ j = .string (String.ofList (decimal p.raw.toInt)) ∨
        p ≠ undefined ∧ j = .string p.text) →
      Scalar.parse .price text = .ok p := by
  refine ⟨fun h => ⟨exists_spelled h, ?_⟩, fun j text ht hj => Scalar.parse_of_renders hj ht⟩
  rw [read, parse?_text h]

/-- The least price, whose units have no counterpart above zero. -/
theorem printed_round_trip_least :
    let p : Price := ⟨-0x8000000000000000⟩
    p ≠ undefined ∧ p.text = "-9223372036.854775808" ∧ read p.text = .ok p ∧
      Scalar.parse .price "\"-9223372036.854775808\"" = .ok p ∧
      Scalar.parse .price "-9223372036854775808" = .ok p := by
  intro p
  have hp : p ≠ undefined := by decide
  have htext : p.text = "-9223372036.854775808" := by decide +kernel
  obtain ⟨hdefined, hjson⟩ := printed_round_trip p
  have hquoted : (Json.string p.text).compact = "\"-9223372036.854775808\"" := by decide +kernel
  have hnumber : (Json.ofInt p.raw.toInt).compact = "-9223372036854775808" := by decide +kernel
  refine ⟨hp, htext, (hdefined hp).2, ?_, ?_⟩
  · rw [← hquoted]
    exact hjson _ _ (Json.spells_compact trivial) (.inr (.inr ⟨hp, rfl⟩))
  · rw [← hnumber]
    exact hjson _ _ (Json.spells_compact (Json.integral_ofInt (by decide) (by decide))) (.inl rfl)

end Price
end TickStream
