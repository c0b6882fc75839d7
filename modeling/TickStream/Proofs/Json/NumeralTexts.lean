import Mathlib.Data.List.Induction
import Mathlib.Data.List.TakeWhile
import TickStream.Proofs.Json.Values
/-
What the reader of numerals accepts.  Main statement: a numeral that is read stands for its
number, and what it is read from has no white space in it and does not depend on what is left.
-/
namespace TickStream
namespace Json

namespace Numeral

/-- The reader takes a front off the text, without white space in it, and reads it as it does
alone. -/
def Takes (read : List Char → Except Fault (Number × List Char)) (cs : List Char) (n : Number)
    (left : List Char) : Prop :=
  ∃ front, cs = front ++ left ∧ (∀ c ∈ front, isGap c = false) ∧ read front = .ok (n, [])

variable {negative down : Bool} {significand : Nat} {start : Int} {n : Number}
  {cs ds left back : List Char}

theorem isGap_of_isDigit {c : Char} (h : c.isDigit = true) : isGap c = false :=
  isGap_of_first (.inr h)

theorem takeWhile_digits (h : ∀ c ∈ ds, c.isDigit = true) :
    ds.takeWhile Char.isDigit = ds ∧ ds.dropWhile Char.isDigit = [] := by
  have htake : (ds ++ []).takeWhile Char.isDigit = ds ++ [] := List.takeWhile_append_of_pos h
  have hdrop : (ds ++ []).dropWhile Char.isDigit = [] := List.dropWhile_append_of_pos h
  rw [List.append_nil] at htake hdrop
  exact ⟨htake, hdrop⟩

/-- Digits come to an end where no digit follows. -/
theorem takeWhile_digits_append (h : ∀ c ∈ ds, c.isDigit = true)
    (hback : ∀ c ∈ back.head?, c.isDigit = false) :
    (ds ++ back).takeWhile Char.isDigit = ds ∧ (ds ++ back).dropWhile Char.isDigit = back := by
  rw [List.takeWhile_append_of_pos h, List.dropWhile_append_of_pos h]
  cases back with
  | nil => exact ⟨List.append_nil ds, rfl⟩
  | cons c back =>
    have hc : ¬ c.isDigit = true := by
      rw [hback c rfl]
      decide
    rw [List.takeWhile_cons_of_neg hc, List.dropWhile_cons_of_neg hc, List.append_nil]
    exact ⟨rfl, rfl⟩

theorem not_digit_of_dropWhile (cs : List Char) :
    ∀ c ∈ (cs.dropWhile Char.isDigit).head?, c.isDigit = false := by
  intro c hc
  have := List.head?_dropWhile_not Char.isDigit cs
  rw [Option.mem_def.1 hc] at this
  simpa using this

theorem map_ok {e : Except Fault Number} (he : e.map (·, back) = .ok (n, left)) :
    left = back ∧ e = .ok n := by
  cases e with
  | error e => exact absurd he (by simp [Except.map])
  | ok m =>
    simp only [Except.map, Except.ok.injEq, Prod.mk.injEq] at he
    exact ⟨he.2.symm, congrArg Except.ok he.1⟩

theorem takes_exponentDigits
    (hr : exponentDigits negative significand start down cs = .ok (n, left)) :
    Takes (exponentDigits negative significand start down) cs n left := by
  cases cs with
  | nil => exact absurd hr (by simp [exponentDigits])
  | cons c cs =>
    by_cases hc : c.isDigit = true
    · have hdigits : ∀ d ∈ (c :: cs).takeWhile Char.isDigit, d.isDigit = true :=
        fun d hd => List.mem_takeWhile_imp hd
      have hsplit := List.takeWhile_append_dropWhile (p := Char.isDigit) (l := c :: cs)
      have hfront : (c :: cs).takeWhile Char.isDigit = c :: cs.takeWhile Char.isDigit :=
        List.takeWhile_cons_of_pos hc
      obtain ⟨htake, hdrop⟩ := takeWhile_digits hdigits
      rw [hfront] at htake hdrop
      rw [exponentDigits, hc, hfront] at hr
      simp only [Bool.not_true, Bool.false_eq_true, if_false] at hr
      -- The digits alone are read as they are here, and nothing is left of them.
      have hrest : left = (c :: cs).dropWhile Char.isDigit ∧
          exponentDigits negative significand start down (c :: cs.takeWhile Char.isDigit) =
            .ok (n, []) := by
        rw [exponentDigits, hc, htake, hdrop]
        simp only [Bool.not_true, Bool.false_eq_true, if_false]
        split at hr
        · obtain ⟨hleft, hreal⟩ := map_ok hr
          rw [hreal]
          exact ⟨hleft, rfl⟩
        · split at hr
          · exact absurd hr (by simp)
          · rename_i hfault
            obtain ⟨hleft, hreal⟩ := map_ok hr
            rw [if_neg hfault, hreal]
            exact ⟨hleft, rfl⟩
      refine ⟨c :: cs.takeWhile Char.isDigit, ?_, ?_, hrest.2⟩
      · rw [hrest.1, ← hfront, hsplit]
      · intro d hd
        rw [← hfront] at hd
        exact isGap_of_isDigit (hdigits d hd)
    · rw [exponentDigits] at hr
      simp only [hc, Bool.not_false, if_true] at hr
      exact absurd hr (by simp)

/-- A character in front of what is taken is taken with it. -/
theorem Takes.cons {f g : List Char → Except Fault (Number × List Char)} {c : Char}
    (h : Takes f cs n left) (hc : isGap c = false)
    (hg : ∀ front, f front = .ok (n, []) → g (c :: front) = .ok (n, [])) :
    Takes g (c :: cs) n left := by
  obtain ⟨front, hcs, hgap, hread⟩ := h
  refine ⟨c :: front, by rw [hcs, List.cons_append], ?_, hg front hread⟩
  intro d hd
  cases List.mem_cons.1 hd with
  | inl hd => rw [hd]; exact hc
  | inr hd => exact hgap d hd

theorem exponent_other (hcs : ∀ c ∈ cs.head?, c ≠ '+' ∧ c ≠ '-') :
    exponent negative significand start cs =
      exponentDigits negative significand start false cs := by
  rw [exponent]
  · intro ds hds
    subst hds
    exact (hcs '+' rfl).1 rfl
  · intro ds hds
    subst hds
    exact (hcs '-' rfl).2 rfl

theorem takes_exponent (hr : exponent negative significand start cs = .ok (n, left)) :
    Takes (exponent negative significand start) cs n left := by
  by_cases hplus : cs.head? = some '+'
  · obtain ⟨ds, rfl⟩ := List.head?_eq_some_iff.1 hplus
    exact (takes_exponentDigits hr).cons (by decide) fun _ h => h
  · by_cases hminus : cs.head? = some '-'
    · obtain ⟨ds, rfl⟩ := List.head?_eq_some_iff.1 hminus
      exact (takes_exponentDigits hr).cons (by decide) fun _ h => h
    · have hother : ∀ c ∈ cs.head?, c ≠ '+' ∧ c ≠ '-' := by
        intro c hc
        constructor
        · intro h
          exact hplus (h ▸ hc)
        · intro h
          exact hminus (h ▸ hc)
      rw [exponent_other hother] at hr
      obtain ⟨front, hcs, hgap, hread⟩ := takes_exponentDigits hr
      refine ⟨front, hcs, hgap, ?_⟩
      rw [exponent_other]
      · exact hread
      · intro c hc
        refine hother c ?_
        obtain ⟨tail, rfl⟩ := List.head?_eq_some_iff.1 hc
        rw [hcs]
        rfl

theorem takes_scaled (hr : scaled negative significand start cs = .ok (n, left)) :
    Takes (scaled negative significand start) cs n left := by
  by_cases hlower : cs.head? = some 'e'
  · obtain ⟨ds, rfl⟩ := List.head?_eq_some_iff.1 hlower
    exact (takes_exponent hr).cons (by decide) fun _ h => h
  · by_cases hupper : cs.head? = some 'E'
    · obtain ⟨ds, rfl⟩ := List.head?_eq_some_iff.1 hupper
      exact (takes_exponent hr).cons (by decide) fun _ h => h
    · rw [scaled_other] at hr
      · obtain ⟨hleft, hreal⟩ := map_ok hr
        refine ⟨[], hleft.symm, fun c hc => absurd hc List.not_mem_nil, ?_⟩
        rw [scaled_other (fun c hc => absurd hc (by simp)), hreal]
        rfl
      · intro c hc
        constructor
        · intro h
          exact hlower (h ▸ hc)
        · intro h
          exact hupper (h ▸ hc)

/-- What is taken behind digits is taken with them. -/
theorem Takes.digits {f g : List Char → Except Fault (Number × List Char)}
    (h : Takes f (cs.dropWhile Char.isDigit) n left)
    (hg : ∀ front, (cs.takeWhile Char.isDigit ++ front).takeWhile Char.isDigit =
        cs.takeWhile Char.isDigit → (cs.takeWhile Char.isDigit ++ front).dropWhile Char.isDigit =
        front → f front = .ok (n, []) → g (cs.takeWhile Char.isDigit ++ front) = .ok (n, [])) :
    Takes g cs n left := by
  obtain ⟨front, hcs, hgap, hread⟩ := h
  have hend : ∀ c ∈ front.head?, c.isDigit = false := by
    intro c hc
    refine not_digit_of_dropWhile cs c ?_
    obtain ⟨tail, rfl⟩ := List.head?_eq_some_iff.1 hc
    rw [hcs]
    rfl
  obtain ⟨htake, hdrop⟩ :=
    takeWhile_digits_append (fun d hd => List.mem_takeWhile_imp hd) hend
  refine ⟨cs.takeWhile Char.isDigit ++ front, ?_, ?_, hg front htake hdrop hread⟩
  · rw [List.append_assoc, ← hcs, List.takeWhile_append_dropWhile]
  · intro c hc
    cases List.mem_append.1 hc with
    | inl hc => exact isGap_of_isDigit (List.mem_takeWhile_imp hc)
    | inr hc => exact hgap c hc

theorem takes_fraction (hr : fraction negative significand start cs = .ok (n, left)) :
    Takes (fraction negative significand start) cs n left := by
  rw [fraction] at hr
  simp only at hr
  split at hr
  · exact absurd hr (by simp)
  · rename_i hsome
    refine (takes_scaled hr).digits fun front htake hdrop hread => ?_
    rw [fraction]
    simp only [htake, hdrop, if_neg hsome]
    exact hread

theorem takes_whole (hr : whole negative ds back = .ok (n, left)) :
    Takes (whole negative ds) back n left := by
  by_cases hpoint : back.head? = some '.'
  · obtain ⟨cs, rfl⟩ := List.head?_eq_some_iff.1 hpoint
    exact (takes_fraction hr).cons (by decide) fun _ h => h
  · by_cases hlower : back.head? = some 'e'
    · obtain ⟨cs, rfl⟩ := List.head?_eq_some_iff.1 hlower
      have hscaled : scaled negative (accumulate 0 ds).1 (accumulate 0 ds).2 ('e' :: cs) =
          .ok (n, left) := hr
      exact (takes_exponent hscaled).cons (by decide) fun _ h => h
    · by_cases hupper : back.head? = some 'E'
      · obtain ⟨cs, rfl⟩ := List.head?_eq_some_iff.1 hupper
        have hscaled : scaled negative (accumulate 0 ds).1 (accumulate 0 ds).2 ('E' :: cs) =
            .ok (n, left) := hr
        exact (takes_exponent hscaled).cons (by decide) fun _ h => h
      · have hother : ∀ c ∈ back.head?, c ≠ '.' ∧ c ≠ 'e' ∧ c ≠ 'E' := by
          intro c hc
          refine ⟨?_, ?_, ?_⟩
          · intro h
            exact hpoint (h ▸ hc)
          · intro h
            exact hlower (h ▸ hc)
          · intro h
            exact hupper (h ▸ hc)
        have hnil : ∀ c ∈ ([] : List Char).head?, c ≠ '.' ∧ c ≠ 'e' ∧ c ≠ 'E' :=
          fun c hc => absurd hc (by simp)
        rw [whole_other hother] at hr
        split at hr
        · rename_i hexact
          simp only [Except.ok.injEq, Prod.mk.injEq] at hr
          refine ⟨[], hr.2, fun c hc => absurd hc List.not_mem_nil, ?_⟩
          rw [whole_other hnil, if_pos hexact, hr.1]
        · rename_i hexact
          rw [scaled_other fun c hc => (hother c hc).2] at hr
          obtain ⟨hleft, hreal⟩ := map_ok hr
          refine ⟨[], hleft.symm, fun c hc => absurd hc List.not_mem_nil, ?_⟩
          rw [whole_other hnil, if_neg hexact, scaled_other fun c hc => (hnil c hc).2, hreal]
          rfl

theorem takes_unsigned (hr : unsigned negative cs = .ok (n, left)) :
    Takes (unsigned negative) cs n left := by
  obtain ⟨hne, hzero⟩ := exists_of_unsigned hr
  rw [unsigned_eq_whole rfl hne hzero] at hr
  refine (takes_whole hr).digits fun front htake hdrop hread => ?_
  rw [unsigned_eq_whole htake hne hzero, hdrop]
  exact hread

theorem read_other (hcs : cs.head? ≠ some '-') : read cs = unsigned false cs := by
  rw [read]
  intro ds hds
  subst hds
  exact hcs rfl

theorem takes_read (hr : read cs = .ok (n, left)) : Takes read cs n left := by
  by_cases hminus : cs.head? = some '-'
  · obtain ⟨ds, rfl⟩ := List.head?_eq_some_iff.1 hminus
    exact (takes_unsigned hr).cons (by decide) fun _ h => h
  · rw [read_other hminus] at hr
    obtain ⟨front, hcs, hgap, hread⟩ := takes_unsigned hr
    refine ⟨front, hcs, hgap, ?_⟩
    rw [read_other]
    · exact hread
    · intro hfront
      obtain ⟨tail, rfl⟩ := List.head?_eq_some_iff.1 hfront
      exact hminus (by rw [hcs]; rfl)

/-! ## Integers -/

theorem real_ok {exp : Int} (h : real negative significand exp = .ok n) : ∃ d, n = .real d := by
  rw [real] at h
  simp only at h
  split at h
  · injection h with h
    exact ⟨_, h.symm⟩
  · split at h
    · split at h
      · exact absurd h (by simp)
      · injection h with h
        exact ⟨_, h.symm⟩
    · split at h
      · injection h with h
        exact ⟨_, h.symm⟩
      · exact absurd h (by simp)

theorem exponentDigits_real
    (hr : exponentDigits negative significand start down cs = .ok (n, left)) :
    ∃ d, n = .real d := by
  cases cs with
  | nil => exact absurd hr (by simp [exponentDigits])
  | cons c cs =>
    rw [exponentDigits] at hr
    split at hr
    · exact absurd hr (by simp)
    · simp only at hr
      split at hr
      · exact real_ok (map_ok hr).2
      · split at hr
        · exact absurd hr (by simp)
        · exact real_ok (map_ok hr).2

theorem exponent_real (hr : exponent negative significand start cs = .ok (n, left)) :
    ∃ d, n = .real d := by
  rw [exponent.eq_def] at hr
  split at hr <;> exact exponentDigits_real hr

theorem scaled_real (hr : scaled negative significand start cs = .ok (n, left)) :
    ∃ d, n = .real d := by
  rw [scaled.eq_def] at hr
  split at hr
  · exact exponent_real hr
  · exact exponent_real hr
  · exact real_ok (map_ok hr).2

/-- Digits that are all taken into the significand fit 64 bits. -/
theorem accumulate_fits {s : Nat} (hs : s < 0x10000000000000000)
    (h : (accumulate s cs).2 = 0) :
    cs.foldl (fun n c => 10 * n + Text.digitValue c) s < 0x10000000000000000 := by
  induction cs generalizing s with
  | nil => exact hs
  | cons c cs ih =>
    rw [accumulate] at h
    split at h
    · rename_i hnext
      exact ih hnext h
    · exact absurd h (by simp)

/-- A numeral that is not read as a double is one of digits alone. -/
theorem whole_integer (hr : whole negative ds back = .ok (n, left)) (hn : ∀ d, n ≠ .real d) :
    n = integer negative (Text.digitsValue ds) ∧
      Text.digitsValue ds < 0x10000000000000000 ∧ left = back := by
  have hdouble : ¬ ∃ d, n = .real d := by
    intro h
    obtain ⟨d, hd⟩ := h
    exact hn d hd
  rw [whole.eq_def] at hr
  split at hr
  · rw [fraction] at hr
    split at hr
    · exact absurd hr (by simp)
    · exact absurd (scaled_real hr) hdouble
  · exact absurd (scaled_real hr) hdouble
  · exact absurd (scaled_real hr) hdouble
  · split at hr
    · rename_i hexact
      have hfits := accumulate_fits (by decide) hexact
      rw [accumulate_eq 0 ds hfits] at hr
      simp only [Except.ok.injEq, Prod.mk.injEq] at hr
      exact ⟨hr.1.symm, hfits, hr.2.symm⟩
    · exact absurd (scaled_real hr) hdouble

/-- Digits that do not begin with a zero are the digits of what they denote. -/
theorem toDigits_digitsValue (h : ∀ c ∈ ds, c.isDigit = true) (hne : ds ≠ [])
    (hzero : ∀ d ds', ds ≠ '0' :: d :: ds') : Nat.toDigits 10 (Text.digitsValue ds) = ds := by
  induction ds using List.reverseRecOn with
  | nil => exact absurd rfl hne
  | append_singleton ds c ih =>
    obtain ⟨hchar, hlt⟩ := Text.digitChar_digitValue (h c (List.mem_append_right ds List.mem_cons_self))
    rw [Text.digitsValue_concat]
    by_cases hds : ds = []
    · subst hds
      show Nat.toDigits 10 (10 * 0 + Text.digitValue c) = [c]
      rw [Nat.mul_zero, Nat.zero_add, Nat.toDigits_of_lt_base hlt, hchar]
    · have hfront : Nat.toDigits 10 (Text.digitsValue ds) = ds := by
        refine ih (fun d hd => h d (List.mem_append_left _ hd)) hds ?_
        intro d ds' heq
        exact hzero d (ds' ++ [c]) (by rw [heq]; rfl)
      have hpos : 0 < Text.digitsValue ds := by
        rw [Nat.pos_iff_ne_zero]
        intro hnone
        rw [hnone, Nat.toDigits_zero] at hfront
        exact hzero c [] (by rw [← hfront]; rfl)
      have hjoin := Nat.toDigits_append_toDigits (by decide : 1 < 10) hpos hlt
      rw [← hjoin, hfront, Nat.toDigits_of_lt_base hlt, hchar]

theorem unsigned_integer (hr : unsigned negative cs = .ok (n, [])) (hn : ∀ d, n ≠ .real d) :
    ∃ m, m < 0x10000000000000000 ∧ cs = Nat.toDigits 10 m ∧ n = integer negative m := by
  obtain ⟨hne, hzero⟩ := exists_of_unsigned hr
  rw [unsigned_eq_whole rfl hne hzero] at hr
  obtain ⟨hvalue, hfits, hrest⟩ := whole_integer hr hn
  refine ⟨_, hfits, ?_, hvalue⟩
  rw [toDigits_digitsValue (fun d hd => List.mem_takeWhile_imp hd) hne hzero]
  have hsplit := List.takeWhile_append_dropWhile (p := Char.isDigit) (l := cs)
  rw [← hrest, List.append_nil] at hsplit
  exact hsplit.symm

theorem read_integer (hr : read cs = .ok (n, [])) (hn : ∀ d, n ≠ .real d) :
    Spells (.value (number n)) cs := by
  by_cases hminus : cs.head? = some '-'
  · obtain ⟨ds, rfl⟩ := List.head?_eq_some_iff.1 hminus
    obtain ⟨m, -, rfl, hint⟩ := unsigned_integer (hr : unsigned true ds = .ok (n, [])) hn
    rw [integer] at hint
    simp only [Bool.not_true, Bool.false_eq_true, if_false] at hint
    split at hint
    · exact absurd hint (hn _)
    · rename_i hsmall
      simp only [Bool.or_eq_true, decide_eq_true_iff, not_or] at hsmall
      have hvalue : (Int64.ofInt (-(m : Int))).toInt = -(m : Int) :=
        Int64.toInt_ofInt_of_le (by omega) (by omega)
      have hneg : Int64.ofInt (-(m : Int)) < 0 := by
        rw [Int64.lt_iff_toInt_lt, hvalue]
        show -(m : Int) < 0
        omega
      have hspells := Spells.negative hneg
      rw [hvalue] at hspells
      have habs : (-(m : Int)).natAbs = m := by omega
      rw [habs] at hspells
      rw [hint]
      exact hspells
  · rw [read_other hminus] at hr
    obtain ⟨m, hm, rfl, hint⟩ := unsigned_integer hr hn
    have hspells := Spells.natural (UInt64.ofNat m)
    rw [UInt64.toNat_ofNat_of_lt' hm] at hspells
    rw [hint]
    exact hspells

theorem spells_of_read (hr : read cs = .ok (n, [])) : Spells (.value (number n)) cs := by
  by_cases hreal : ∃ d, n = .real d
  · obtain ⟨d, rfl⟩ := hreal
    exact .real hr
  · refine read_integer hr ?_
    intro d hd
    exact hreal ⟨d, hd⟩

end Numeral

end Json
end TickStream
