import TickStream.Proofs.Json.Grammar
import TickStream.Proofs.Text.Digits
/-
Reading numerals.  Main statements: integers that fit 64 bits are read from their digits, and a
numeral is read as it is alone when something stands behind it that cannot be part of it.
-/
namespace TickStream
namespace Json
namespace Numeral

/-- What follows a numeral is not read as a part of it. -/
def Ends (rest : List Char) : Prop :=
  ∀ c ∈ rest.head?, c.isDigit = false ∧ c ≠ '.' ∧ c ≠ 'e' ∧ c ≠ 'E'

theorem takeWhile_ends {rest : List Char} (h : Ends rest) : rest.takeWhile Char.isDigit = [] := by
  cases rest with
  | nil => rfl
  | cons c rest =>
    have hc := (h c rfl).1
    exact List.takeWhile_cons_of_neg (by rw [hc]; decide)

theorem dropWhile_ends {rest : List Char} (h : Ends rest) : rest.dropWhile Char.isDigit = rest := by
  cases rest with
  | nil => rfl
  | cons c rest =>
    have hc := (h c rfl).1
    exact List.dropWhile_cons_of_neg (by rw [hc]; decide)

/-! ## What stands behind a numeral -/

section
variable {rest : List Char} (h : Ends rest)
include h

theorem takeWhile_append (cs : List Char) :
    (cs ++ rest).takeWhile Char.isDigit = cs.takeWhile Char.isDigit := by
  induction cs with
  | nil => exact takeWhile_ends h
  | cons c cs ih =>
    rw [List.cons_append, List.takeWhile_cons, List.takeWhile_cons, ih]

theorem dropWhile_append (cs : List Char) :
    (cs ++ rest).dropWhile Char.isDigit = cs.dropWhile Char.isDigit ++ rest := by
  induction cs with
  | nil => exact dropWhile_ends h
  | cons c cs ih =>
    rw [List.cons_append, List.dropWhile_cons, List.dropWhile_cons, ih]
    split <;> rfl

variable {negative : Bool} {significand : Nat} {start : Int} {n : Number} {cs left : List Char}

omit h in
theorem map_append {e : Except Fault Number} {back : List Char}
    (he : e.map (·, back) = .ok (n, left)) : e.map (·, back ++ rest) = .ok (n, left ++ rest) := by
  cases e with
  | error e => exact absurd he (by simp [Except.map])
  | ok m =>
    simp only [Except.map, Except.ok.injEq, Prod.mk.injEq] at he ⊢
    exact ⟨he.1, by rw [he.2]⟩

theorem exponentDigits_append {down : Bool}
    (hr : exponentDigits negative significand start down cs = .ok (n, left)) :
    exponentDigits negative significand start down (cs ++ rest) = .ok (n, left ++ rest) := by
  cases cs with
  | nil => exact absurd hr (by simp [exponentDigits])
  | cons c cs =>
    have htake := takeWhile_append h (c :: cs)
    have hdrop := dropWhile_append h (c :: cs)
    rw [List.cons_append] at htake hdrop ⊢
    rw [exponentDigits] at hr ⊢
    simp only [htake, hdrop]
    split at hr
    · exact absurd hr (by simp)
    · rename_i hdigit
      rw [if_neg hdigit]
      split at hr
      · exact map_append hr
      · split at hr
        · exact absurd hr (by simp)
        · rename_i hfault
          rw [if_neg hfault]
          exact map_append hr

theorem exponent_append (hr : exponent negative significand start cs = .ok (n, left)) :
    exponent negative significand start (cs ++ rest) = .ok (n, left ++ rest) := by
  cases cs with
  | nil => exact absurd hr (by simp [exponent, exponentDigits])
  | cons c cs =>
    by_cases hplus : c = '+'
    · subst hplus
      exact exponentDigits_append h hr
    · by_cases hminus : c = '-'
      · subst hminus
        exact exponentDigits_append h hr
      · have hother (ds : List Char) : exponent negative significand start (c :: ds) =
            exponentDigits negative significand start false (c :: ds) := by
          rw [exponent]
          · intro cs hcs
            injection hcs with hc
            exact hplus hc
          · intro cs hcs
            injection hcs with hc
            exact hminus hc
        rw [hother] at hr
        rw [List.cons_append, hother]
        exact exponentDigits_append h hr

omit h in
theorem scaled_other (hcs : ∀ c ∈ cs.head?, c ≠ 'e' ∧ c ≠ 'E') :
    scaled negative significand start cs = (real negative significand start).map (·, cs) := by
  rw [scaled]
  · rintro ds rfl
    exact (hcs 'e' rfl).1 rfl
  · rintro ds rfl
    exact (hcs 'E' rfl).2 rfl

theorem scaled_append (hr : scaled negative significand start cs = .ok (n, left)) :
    scaled negative significand start (cs ++ rest) = .ok (n, left ++ rest) := by
  cases cs with
  | nil =>
    rw [List.nil_append, scaled_other fun c hc => (h c hc).2.2]
    exact map_append hr
  | cons c cs =>
    by_cases hlower : c = 'e'
    · subst hlower
      exact exponent_append h hr
    · by_cases hupper : c = 'E'
      · subst hupper
        exact exponent_append h hr
      · have hother (ds : List Char) : ∀ d ∈ (c :: ds).head?, d ≠ 'e' ∧ d ≠ 'E' := by
          rintro d ⟨⟩
          exact ⟨hlower, hupper⟩
        rw [scaled_other (hother cs)] at hr
        rw [List.cons_append, scaled_other (hother _)]
        exact map_append hr

theorem fraction_append (hr : fraction negative significand start cs = .ok (n, left)) :
    fraction negative significand start (cs ++ rest) = .ok (n, left ++ rest) := by
  rw [fraction] at hr ⊢
  simp only [takeWhile_append h, dropWhile_append h]
  split at hr
  · exact absurd hr (by simp)
  · rename_i hsome
    rw [if_neg hsome]
    exact scaled_append h hr

end

/-! ## The digits of a numeral and what follows them -/

/-- The numeral of the digits `ds` before its point or exponent, and then `back`. -/
def whole (negative : Bool) (ds back : List Char) : Except Fault (Number × List Char) :=
  match back with
  | '.' :: back => fraction negative (accumulate 0 ds).1 (accumulate 0 ds).2 back
  | 'e' :: _ => scaled negative (accumulate 0 ds).1 (accumulate 0 ds).2 back
  | 'E' :: _ => scaled negative (accumulate 0 ds).1 (accumulate 0 ds).2 back
  | _ =>
    if (accumulate 0 ds).2 = 0 then .ok (integer negative (accumulate 0 ds).1, back)
    else scaled negative (accumulate 0 ds).1 (accumulate 0 ds).2 back

variable {negative : Bool} {n : Number} {cs ds left back rest : List Char}

theorem unsigned_eq_whole (hds : cs.takeWhile Char.isDigit = ds) (hne : ds ≠ [])
    (hzero : ∀ d ds', ds ≠ '0' :: d :: ds') :
    unsigned negative cs = whole negative ds (cs.dropWhile Char.isDigit) := by
  rw [unsigned, hds]
  split
  · exact absurd rfl hne
  · exact absurd rfl (hzero _ _)
  · rfl

theorem exists_of_unsigned (hr : unsigned negative cs = .ok (n, left)) :
    cs.takeWhile Char.isDigit ≠ [] ∧ ∀ d ds, cs.takeWhile Char.isDigit ≠ '0' :: d :: ds := by
  rw [unsigned] at hr
  split at hr
  · exact absurd hr (by simp)
  · exact absurd hr (by simp)
  · rename_i hne hzero
    exact ⟨hne, hzero⟩

theorem whole_other (hback : ∀ c ∈ back.head?, c ≠ '.' ∧ c ≠ 'e' ∧ c ≠ 'E') :
    whole negative ds back =
      if (accumulate 0 ds).2 = 0 then .ok (integer negative (accumulate 0 ds).1, back)
      else scaled negative (accumulate 0 ds).1 (accumulate 0 ds).2 back := by
  rw [whole]
  · rintro cs rfl
    exact (hback '.' rfl).1 rfl
  · rintro cs rfl
    exact (hback 'e' rfl).2.1 rfl
  · rintro cs rfl
    exact (hback 'E' rfl).2.2 rfl

theorem whole_append (h : Ends rest) (hr : whole negative ds back = .ok (n, left)) :
    whole negative ds (back ++ rest) = .ok (n, left ++ rest) := by
  -- Nothing but an exponent or a fraction changes the number.
  have hplain (hback : ∀ c ∈ back.head?, c ≠ '.' ∧ c ≠ 'e' ∧ c ≠ 'E')
      (hall : ∀ c ∈ (back ++ rest).head?, c ≠ '.' ∧ c ≠ 'e' ∧ c ≠ 'E') :
      whole negative ds (back ++ rest) = .ok (n, left ++ rest) := by
    rw [whole_other hback] at hr
    rw [whole_other hall]
    split at hr
    · rename_i hexact
      simp only [Except.ok.injEq, Prod.mk.injEq] at hr
      rw [if_pos hexact, hr.1, hr.2]
    · rename_i hexact
      rw [if_neg hexact]
      exact scaled_append h hr
  cases back with
  | nil => exact hplain (fun c hc => absurd hc (by simp)) fun c hc => (h c hc).2
  | cons c back =>
    by_cases hpoint : c = '.'
    · subst hpoint
      exact fraction_append h hr
    · by_cases hlower : c = 'e'
      · subst hlower
        have hscaled : scaled negative (accumulate 0 ds).1 (accumulate 0 ds).2 ('e' :: back) =
            .ok (n, left) := hr
        exact scaled_append h hscaled
      · by_cases hupper : c = 'E'
        · subst hupper
          have hscaled : scaled negative (accumulate 0 ds).1 (accumulate 0 ds).2 ('E' :: back) =
              .ok (n, left) := hr
          exact scaled_append h hscaled
        · have hother : ∀ d, some c = some d → d ≠ '.' ∧ d ≠ 'e' ∧ d ≠ 'E' := by
            rintro d ⟨⟩
            exact ⟨hpoint, hlower, hupper⟩
          exact hplain hother hother

theorem unsigned_append (h : Ends rest) (hr : unsigned negative cs = .ok (n, left)) :
    unsigned negative (cs ++ rest) = .ok (n, left ++ rest) := by
  obtain ⟨hne, hzero⟩ := exists_of_unsigned hr
  rw [unsigned_eq_whole rfl hne hzero] at hr
  rw [unsigned_eq_whole (takeWhile_append h cs) hne hzero, dropWhile_append h]
  exact whole_append h hr

/-- A numeral is read as it is alone. -/
theorem read_append (h : Ends rest) (hr : read cs = .ok (n, left)) :
    read (cs ++ rest) = .ok (n, left ++ rest) := by
  cases cs with
  | nil => exact absurd hr (by simp [read, unsigned])
  | cons c cs =>
    by_cases hminus : c = '-'
    · subst hminus
      exact unsigned_append h hr
    · have hother (ds : List Char) : read (c :: ds) = unsigned false (c :: ds) := by
        rw [read]
        intro cs hcs
        injection hcs with hc
        exact hminus hc
      rw [hother] at hr
      rw [List.cons_append, hother]
      exact unsigned_append h hr

/-! ## Integers -/

theorem le_foldl_digits (s : Nat) (cs : List Char) :
    s ≤ cs.foldl (fun n c => 10 * n + Text.digitValue c) s := by
  induction cs generalizing s with
  | nil => exact Nat.le_refl s
  | cons c cs ih =>
    have := ih (10 * s + Text.digitValue c)
    rw [List.foldl_cons]
    omega

/-- Digits whose number fits 64 bits are all taken into the significand. -/
theorem accumulate_eq (s : Nat) (cs : List Char)
    (h : cs.foldl (fun n c => 10 * n + Text.digitValue c) s < 0x10000000000000000) :
    accumulate s cs = (cs.foldl (fun n c => 10 * n + Text.digitValue c) s, 0) := by
  induction cs generalizing s with
  | nil => rfl
  | cons c cs ih =>
    rw [List.foldl_cons] at h ⊢
    have hnext := Nat.lt_of_le_of_lt (le_foldl_digits _ cs) h
    rw [accumulate]
    simp only [if_pos hnext]
    exact ih _ h

theorem accumulate_toDigits {n : Nat} (h : n < 0x10000000000000000) :
    accumulate 0 (Nat.toDigits 10 n) = (n, 0) := by
  have hvalue : (Nat.toDigits 10 n).foldl (fun n c => 10 * n + Text.digitValue c) 0 = n :=
    Text.digitsValue_toDigits n
  rw [accumulate_eq 0 _ (by rw [hvalue]; exact h), hvalue]

/-- The digits of a number do not begin with a zero that more digits follow. -/
theorem toDigits_ne_zero_cons (n : Nat) (d : Char) (ds : List Char) :
    Nat.toDigits 10 n ≠ '0' :: d :: ds := by
  intro h
  obtain ⟨c, cs, hcs, -, hzero⟩ := Text.toDigits_eq_cons n
  rw [hcs] at h
  injection h with hc htail
  by_cases hn : 0 < n
  · exact hzero hn hc
  · have hnil : n = 0 := by omega
    rw [hnil, Nat.toDigits_zero] at hcs
    injection hcs with _ hnone
    rw [← hnone] at htail
    exact absurd htail (by simp)

theorem unsigned_toDigits {n : Nat} (h : n < 0x10000000000000000) :
    unsigned negative (Nat.toDigits 10 n) = .ok (integer negative n, []) := by
  have hdigits := List.all_eq_true.1 (Text.all_isDigit_toDigits n)
  have htake : (Nat.toDigits 10 n ++ []).takeWhile Char.isDigit = Nat.toDigits 10 n ++ [] :=
    List.takeWhile_append_of_pos hdigits
  have hdrop : (Nat.toDigits 10 n ++ []).dropWhile Char.isDigit = [] :=
    List.dropWhile_append_of_pos hdigits
  rw [List.append_nil] at htake hdrop
  rw [unsigned_eq_whole htake Nat.toDigits_ne_nil (toDigits_ne_zero_cons n), hdrop,
    whole_other fun c hc => absurd hc (by simp), accumulate_toDigits h]
  rfl

theorem read_natural (n : UInt64) : read (Nat.toDigits 10 n.toNat) = .ok (.natural n, []) := by
  have hread : read (Nat.toDigits 10 n.toNat) = unsigned false (Nat.toDigits 10 n.toNat) := by
    rw [read]
    intro cs hcs
    exact Text.toDigits_ne_cons _ (by decide) cs hcs
  rw [hread, unsigned_toDigits n.toNat_lt, integer, UInt64.ofNat_toNat]
  rfl

theorem read_negative {n : Int64} (h : n < 0) :
    read ('-' :: Nat.toDigits 10 n.toInt.natAbs) = .ok (.negative n, []) := by
  have hneg : n.toInt < 0 := Int64.lt_iff_toInt_lt.1 h
  have hle : -0x8000000000000000 ≤ n.toInt := n.le_toInt
  have habs : -(n.toInt.natAbs : Int) = n.toInt := by omega
  have hfits : (n.toInt.natAbs = 0 || 0x8000000000000000 < n.toInt.natAbs) = false := by
    rw [Bool.or_eq_false_iff, decide_eq_false_iff_not, decide_eq_false_iff_not]
    omega
  show unsigned true (Nat.toDigits 10 n.toInt.natAbs) = _
  rw [unsigned_toDigits (by omega), integer, hfits, habs, Int64.ofInt_toInt]
  rfl

end Numeral
end Json
end TickStream
