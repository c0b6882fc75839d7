import Mathlib.Data.Nat.Digits.Defs
import Mathlib.Data.List.Induction
import Mathlib.Data.Rat.Cast.Defs
import Mathlib.Tactic.FieldSimp
import TickStream.Proofs.Text.Digits
/-
The texts of prices, by what they denote.  Main statement: a text is read as a price exactly if it
denotes one that is an integer number of units of 64 bits, as a count or in decimal places, and
then it is read as that price; every other text is refused.
-/
namespace TickStream
namespace Text

/-! ## Digits -/

variable {ds : List (Fin 10)} {cs : List Char} {c : Char} {n : Nat} {v : Int} {s : String}

def digitText (ds : List (Fin 10)) : List Char := ds.map fun d : Fin 10 => Nat.digitChar d.val

/-- The number that digits denote; the last one counts ones. -/
def number (ds : List (Fin 10)) : Nat := Nat.ofDigits 10 (ds.reverse.map Fin.val)

theorem all_isDigit_iff : cs.all Char.isDigit = true ↔ ∃ ds, cs = digitText ds := by
  constructor
  · intro h
    induction cs with
    | nil => exact ⟨[], rfl⟩
    | cons c cs ih =>
      rw [List.all_cons, Bool.and_eq_true] at h
      obtain ⟨ds, rfl⟩ := ih h.2
      obtain ⟨hc, hlt⟩ := digitChar_digitValue h.1
      refine ⟨⟨digitValue c, hlt⟩ :: ds, ?_⟩
      rw [digitText, digitText, List.map_cons, hc]
  · rintro ⟨ds, rfl⟩
    rw [List.all_eq_true]
    intro c hc
    obtain ⟨d, -, rfl⟩ := List.mem_map.1 hc
    rw [Nat.isDigit_digitChar]
    exact decide_eq_true d.isLt

theorem isDigit_of_mem_digitText (h : c ∈ digitText ds) : c.isDigit = true :=
  List.all_eq_true.1 (all_isDigit_iff.2 ⟨ds, rfl⟩) c h

theorem digitText_ne_cons (hc : c.isDigit = false) : digitText ds ≠ c :: cs := by
  intro h
  have hdigit : c.isDigit = true := isDigit_of_mem_digitText (h ▸ List.mem_cons_self)
  rw [hdigit] at hc
  cases hc

theorem digitText_eq_nil : digitText ds = [] ↔ ds = [] := List.map_eq_nil_iff

theorem number_concat (ds : List (Fin 10)) (d : Fin 10) :
    number (ds ++ [d]) = d + 10 * number ds := by
  rw [number, List.reverse_concat, List.map_cons, Nat.ofDigits_cons, number]

theorem digitsValue_digitText (ds : List (Fin 10)) : digitsValue (digitText ds) = number ds := by
  induction ds using List.reverseRecOn with
  | nil => rfl
  | append_singleton ds d ih =>
    have htext : digitText (ds ++ [d]) = digitText ds ++ [Nat.digitChar d] := List.map_append
    rw [htext, digitsValue_concat, digitValue_digitChar d.isLt, ih, number_concat, Nat.add_comm]

theorem digits?_eq_some_iff : digits? cs = some n ↔
    ∃ ds, ds ≠ [] ∧ cs = digitText ds ∧ number ds = n := by
  rw [digits?]
  constructor
  · intro h
    split at h
    · cases h
    · rename_i hgood
      simp only [Bool.or_eq_true, Bool.not_eq_true', not_or, Bool.not_eq_false] at hgood
      obtain ⟨ds, rfl⟩ := all_isDigit_iff.1 hgood.2
      refine ⟨ds, ?_, rfl, ?_⟩
      · rintro rfl
        exact hgood.1 rfl
      · rw [← digitsValue_digitText]
        exact Option.some.inj h
  · rintro ⟨ds, hne, rfl, rfl⟩
    have hsome : (digitText ds).isEmpty = false := by
      rw [List.isEmpty_eq_false_iff, ne_eq, digitText_eq_nil]
      exact hne
    rw [hsome, all_isDigit_iff.2 ⟨ds, rfl⟩, digitsValue_digitText]
    rfl

end Text

namespace Price

open Text

variable {s : String} {p : Price} {v : Int} {cs before after : List Char} {n : Nat}

/-! ## What texts denote -/

/-- A count of units: a sign that need not be there, and digits. -/
inductive Counts : List Char → Int → Prop where
  | positive {sign : List Char} {ds : List (Fin 10)} (hsign : sign = [] ∨ sign = ['+'])
      (hne : ds ≠ []) : Counts (sign ++ digitText ds) (number ds)
  | negative {ds : List (Fin 10)} (hne : ds ≠ []) : Counts ('-' :: digitText ds) (-number ds)

/-- Digits before and after a point, nine at most behind it and one at least in all, that stand
for an integer number of units. -/
structure Places (whole fraction : List (Fin 10)) (v : Int) : Prop where
  short : fraction.length ≤ 9
  some_digit : whole ≠ [] ∨ fraction ≠ []
  value : (v : ℚ) = (number whole + number fraction / 10 ^ fraction.length) * 10 ^ 9

/-- A number in decimal places, by what stands before and after its point. -/
inductive Decimal : List Char → List Char → Int → Prop where
  | positive {whole fraction : List (Fin 10)} {v : Int} (h : Places whole fraction v) :
      Decimal (digitText whole) (digitText fraction) v
  | negative {whole fraction : List (Fin 10)} {v : Int} (h : Places whole fraction v) :
      Decimal ('-' :: digitText whole) (digitText fraction) (-v)

/-- A text denotes an integer number of units: as a count if it has no point, and in decimal
places around its first point if it has one. -/
def Denotes (cs : List Char) (v : Int) : Prop :=
  '.' ∉ cs ∧ Counts cs v ∨
    ∃ before after, cs = before ++ '.' :: after ∧ '.' ∉ before ∧ Decimal before after v

/-! ## Counts -/

theorem counts_negative : Counts ('-' :: cs) v ↔
    ∃ ds, ds ≠ [] ∧ cs = digitText ds ∧ -(number ds : Int) = v := by
  constructor
  · generalize hcs : '-' :: cs = text
    intro h
    cases h with
    | positive hsign hne =>
      obtain rfl | rfl := hsign
      · exact absurd hcs.symm (digitText_ne_cons (by decide))
      · cases hcs
    | negative hne =>
      obtain ⟨-, rfl⟩ := List.cons.inj hcs
      exact ⟨_, hne, rfl, rfl⟩
  · rintro ⟨ds, hne, rfl, rfl⟩
    exact .negative hne

theorem counts_plus : Counts ('+' :: cs) v ↔
    ∃ ds, ds ≠ [] ∧ cs = digitText ds ∧ (number ds : Int) = v := by
  constructor
  · generalize hcs : '+' :: cs = text
    intro h
    cases h with
    | positive hsign hne =>
      obtain rfl | rfl := hsign
      · exact absurd hcs.symm (digitText_ne_cons (by decide))
      · obtain ⟨-, rfl⟩ := List.cons.inj hcs
        exact ⟨_, hne, rfl, rfl⟩
    | negative hne => cases hcs
  · rintro ⟨ds, hne, rfl, rfl⟩
    exact .positive (.inr rfl) hne

theorem counts_unsigned (hminus : ∀ ds, cs ≠ '-' :: ds) (hplus : ∀ ds, cs ≠ '+' :: ds) :
    Counts cs v ↔ ∃ ds, ds ≠ [] ∧ cs = digitText ds ∧ (number ds : Int) = v := by
  constructor
  · intro h
    cases h with
    | positive hsign hne =>
      obtain rfl | rfl := hsign
      · exact ⟨_, hne, rfl, rfl⟩
      · exact absurd rfl (hplus _)
    | negative hne => exact absurd rfl (hminus _)
  · rintro ⟨ds, hne, rfl, rfl⟩
    exact .positive (.inl rfl) hne

/-- Digits and a sign make an integer. -/
theorem integer?_eq_some_iff : integer? s = some v ↔ Counts s.toList v := by
  have hsigned (f : Int → Int) (ds : List Char) :
      (((digits? ds).bind fun n => some (n : Int)).map f = some v) ↔
        ∃ digits, digits ≠ [] ∧ ds = digitText digits ∧ f (number digits) = v := by
    simp only [Option.map_eq_some_iff, Option.bind_eq_some_iff, Option.some.injEq,
      digits?_eq_some_iff]
    constructor
    · rintro ⟨-, ⟨-, ⟨digits, hne, htext, rfl⟩, rfl⟩, rfl⟩
      exact ⟨digits, hne, htext, rfl⟩
    · rintro ⟨digits, hne, htext, rfl⟩
      exact ⟨_, ⟨_, ⟨digits, hne, htext, rfl⟩, rfl⟩, rfl⟩
  rw [integer?]
  generalize s.toList = cs
  split
  · rw [counts_negative]
    exact hsigned (fun n => -n) _
  · rw [counts_plus]
    exact hsigned (fun n => n) _
  · rw [counts_unsigned (by assumption) (by assumption)]
    exact hsigned (fun n => n) _

theorem ofInt?_eq_some_iff : ofInt? v = some p ↔ p.raw.toInt = v := by
  constructor
  · intro h
    rw [ofInt?] at h
    split at h
    · rename_i hfits
      simp only [Bool.and_eq_true, decide_eq_true_eq] at hfits
      rw [← Option.some.inj h]
      exact Int64.toInt_ofInt_of_le hfits.1 hfits.2
    · cases h
  · rintro rfl
    exact ofInt?_toInt p

theorem map_int64? (s : String) : (int64? s).map mk = (integer? s).bind ofInt? := by
  rw [int64?]
  cases integer? s with
  | none => rfl
  | some v =>
    rw [Option.bind_some, Option.bind_some, ofInt?]
    split <;> rfl

theorem count_eq_some_iff : (int64? s).map mk = some p ↔ Counts s.toList p.raw.toInt := by
  rw [map_int64?, Option.bind_eq_some_iff]
  constructor
  · rintro ⟨v, hv, hp⟩
    rw [ofInt?_eq_some_iff.1 hp]
    exact integer?_eq_some_iff.1 hv
  · intro h
    exact ⟨_, integer?_eq_some_iff.2 h, ofInt?_toInt p⟩

/-! ## Decimal places -/

/-- The units that digits around a point denote. -/
theorem cast_units {whole fraction : List (Fin 10)} (hshort : fraction.length ≤ 9) :
    ((units (digitText whole) (digitText fraction) : ℕ) : ℚ) =
      (number whole + number fraction / 10 ^ fraction.length) * 10 ^ 9 := by
  have hscale : (10 : ℚ) ^ 9 = 10 ^ fraction.length * 10 ^ (9 - fraction.length) := by
    rw [← pow_add, Nat.add_sub_cancel' hshort]
  have hlength : (digitText fraction).length = fraction.length := List.length_map _
  have hunits : units (digitText whole) (digitText fraction) =
      number whole * 10 ^ 9 + number fraction * 10 ^ (9 - fraction.length) := by
    rw [units, digitsValue_digitText, digitsValue_digitText, hlength]
    rfl
  have hpos : (10 : ℚ) ^ fraction.length ≠ 0 := pow_ne_zero _ (by norm_num)
  rw [hunits]
  simp only [Nat.cast_add, Nat.cast_mul, Nat.cast_pow, Nat.cast_ofNat]
  rw [add_mul, hscale, ← mul_assoc ((number fraction : ℚ) / _), div_mul_cancel₀ _ hpos]

theorem places_iff {whole fraction : List (Fin 10)} : Places whole fraction v ↔
    fraction.length ≤ 9 ∧ (whole ≠ [] ∨ fraction ≠ []) ∧
      v = units (digitText whole) (digitText fraction) := by
  constructor
  · rintro ⟨hshort, hsome, hvalue⟩
    rw [← cast_units hshort] at hvalue
    exact ⟨hshort, hsome, by exact_mod_cast hvalue⟩
  · rintro ⟨hshort, hsome, rfl⟩
    exact ⟨hshort, hsome, by rw [← cast_units hshort]; norm_cast⟩

/-- What may stand around a point, without the sign. -/
theorem digits_around_point_iff {whole fraction : List Char} :
    (places < fraction.length || (whole.isEmpty && fraction.isEmpty) ||
        !(whole ++ fraction).all Char.isDigit) = false ↔
      ∃ ws fs, whole = digitText ws ∧ fraction = digitText fs ∧ fs.length ≤ 9 ∧
        (ws ≠ [] ∨ fs ≠ []) := by
  have hlength (fs : List (Fin 10)) : (digitText fs).length = fs.length := List.length_map _
  simp only [Bool.or_eq_false_iff, decide_eq_false_iff_not, Nat.not_lt, Bool.and_eq_false_iff,
    List.isEmpty_eq_false_iff, Bool.not_eq_false', List.all_append, Bool.and_eq_true,
    all_isDigit_iff]
  constructor
  · rintro ⟨⟨hshort, hsome⟩, ⟨ws, rfl⟩, fs, rfl⟩
    rw [hlength] at hshort
    rw [ne_eq, ne_eq, digitText_eq_nil, digitText_eq_nil] at hsome
    exact ⟨ws, fs, rfl, rfl, hshort, hsome⟩
  · rintro ⟨ws, fs, rfl, rfl, hshort, hsome⟩
    rw [hlength, ne_eq, ne_eq, digitText_eq_nil, digitText_eq_nil]
    exact ⟨⟨hshort, hsome⟩, ⟨ws, rfl⟩, fs, rfl⟩

/-- What is read around a point once its sign is known. -/
theorem unsigned_eq_some_iff {negative : Bool} {whole fraction : List Char} :
    (if places < fraction.length || (whole.isEmpty && fraction.isEmpty) ||
        !(whole ++ fraction).all Char.isDigit then none
      else ofInt? (if negative then -(units whole fraction : Int) else units whole fraction)) =
        some p ↔
      ∃ (ws fs : List (Fin 10)) (v : Int), whole = digitText ws ∧ fraction = digitText fs ∧
        Places ws fs v ∧ p.raw.toInt = if negative then -v else v := by
  constructor
  · intro h
    split at h
    · cases h
    · rename_i hgood
      obtain ⟨ws, fs, rfl, rfl, hshort, hsome⟩ :=
        digits_around_point_iff.1 (Bool.eq_false_iff.2 hgood)
      exact ⟨ws, fs, _, rfl, rfl, places_iff.2 ⟨hshort, hsome, rfl⟩, ofInt?_eq_some_iff.1 h⟩
  · rintro ⟨ws, fs, v, rfl, rfl, hplaces, hp⟩
    obtain ⟨hshort, hsome, rfl⟩ := places_iff.1 hplaces
    have hgood := digits_around_point_iff.2 ⟨ws, fs, rfl, rfl, hshort, hsome⟩
    rw [if_neg (Bool.eq_false_iff.1 hgood)]
    exact ofInt?_eq_some_iff.2 hp

theorem decimal_negative {whole : List Char} : Decimal ('-' :: whole) after v ↔
    ∃ (ws fs : List (Fin 10)) (u : Int), whole = digitText ws ∧ after = digitText fs ∧
      Places ws fs u ∧ v = -u := by
  constructor
  · generalize hcs : '-' :: whole = text
    intro h
    cases h with
    | positive _ => exact absurd hcs.symm (digitText_ne_cons (by decide))
    | negative h =>
      obtain ⟨-, rfl⟩ := List.cons.inj hcs
      exact ⟨_, _, _, rfl, rfl, h, rfl⟩
  · rintro ⟨ws, fs, u, rfl, rfl, h, rfl⟩
    exact .negative h

theorem decimal_unsigned (hminus : ∀ ds, before ≠ '-' :: ds) : Decimal before after v ↔
    ∃ (ws fs : List (Fin 10)) (u : Int), before = digitText ws ∧ after = digitText fs ∧
      Places ws fs u ∧ v = u := by
  constructor
  · intro h
    cases h with
    | positive h => exact ⟨_, _, _, rfl, rfl, h, rfl⟩
    | negative _ => exact absurd rfl (hminus _)
  · rintro ⟨ws, fs, u, rfl, rfl, h, rfl⟩
    exact .positive h

theorem decimal?_eq_some_iff : decimal? before after = some p ↔ Decimal before after p.raw.toInt := by
  by_cases hminus : ∃ ds, before = '-' :: ds
  · obtain ⟨ds, rfl⟩ := hminus
    rw [decimal_negative, decimal?]
    exact unsigned_eq_some_iff
  · have hunsigned (ds : List Char) : before ≠ '-' :: ds := fun h => hminus ⟨ds, h⟩
    rw [decimal_unsigned hunsigned, decimal?]
    · exact unsigned_eq_some_iff
    · exact hunsigned

/-! ## Texts -/

theorem parse?_of_point (hs : s.toList = before ++ '.' :: after) (hfirst : '.' ∉ before) :
    parse? s = decimal? before after := by
  have hfront : ∀ c ∈ before, (c != '.') = true := by
    intro c hc
    rw [bne_iff_ne]
    rintro rfl
    exact hfirst hc
  have hpoint : (before ++ '.' :: after).contains '.' = true :=
    List.contains_iff_mem.2 (List.mem_append_right before List.mem_cons_self)
  rw [parse?, hs]
  simp only [hpoint, if_true]
  rw [List.takeWhile_append_of_pos hfront, List.dropWhile_append_of_pos hfront,
    List.takeWhile_cons_of_neg (by simp), List.dropWhile_cons_of_neg (by simp), List.append_nil,
    List.drop_one, List.tail_cons]

theorem parse?_of_no_point (h : '.' ∉ s.toList) : parse? s = (int64? s).map mk := by
  have hpoint : ¬ s.toList.contains '.' = true := mt List.contains_iff_mem.1 h
  rw [parse?]
  exact if_neg hpoint

/-- A text is read as a price exactly if it denotes the units of that price. -/
theorem parse?_eq_some_iff : parse? s = some p ↔ Denotes s.toList p.raw.toInt := by
  by_cases hpoint : '.' ∈ s.toList
  · constructor
    · intro h
      obtain ⟨before, after, hs, hfirst⟩ := List.eq_append_cons_of_mem hpoint
      rw [parse?_of_point hs hfirst] at h
      exact .inr ⟨before, after, hs, hfirst, decimal?_eq_some_iff.1 h⟩
    · rintro (⟨hnone, -⟩ | ⟨before, after, hs, hfirst, h⟩)
      · exact absurd hpoint hnone
      · rw [parse?_of_point hs hfirst]
        exact decimal?_eq_some_iff.2 h
  · rw [parse?_of_no_point hpoint, count_eq_some_iff]
    constructor
    · exact fun h => .inl ⟨hpoint, h⟩
    · rintro (⟨-, h⟩ | ⟨before, after, hs, -⟩)
      · exact h
      · refine absurd ?_ hpoint
        rw [hs]
        exact List.mem_append_right before List.mem_cons_self

theorem parse?_eq_none_iff : parse? s = none ↔
    ¬ ∃ v, Denotes s.toList v ∧ -0x8000000000000000 ≤ v ∧ v < 0x8000000000000000 := by
  rw [Option.eq_none_iff_forall_ne_some, not_exists]
  constructor
  · rintro h v ⟨hv, hlow, hhigh⟩
    have hraw : (Int64.ofInt v).toInt = v := Int64.toInt_ofInt_of_le hlow hhigh
    rw [← hraw] at hv
    exact h ⟨Int64.ofInt v⟩ (parse?_eq_some_iff.2 hv)
  · intro h p hp
    exact h p.raw.toInt ⟨parse?_eq_some_iff.1 hp, p.raw.le_toInt, p.raw.toInt_lt⟩

/-- A text is read as the price whose units it denotes, and refused by name if it denotes none that
fit 64 bits. -/
theorem read_exact (s : String) :
    (∀ p, read s = .ok p ↔ Denotes s.toList p.raw.toInt) ∧
    (read s = .error (.badPrice s) ↔
      ¬ ∃ v, Denotes s.toList v ∧ -0x8000000000000000 ≤ v ∧ v < 0x8000000000000000) := by
  rw [← parse?_eq_none_iff]
  simp only [← parse?_eq_some_iff, read]
  cases parse? s <;> simp

/-- Ten places are not rounded to nine. -/
example : read "1.0000000001" = .error (.badPrice "1.0000000001") := by decide

end Price
end TickStream
