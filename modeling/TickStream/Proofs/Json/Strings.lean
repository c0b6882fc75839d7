import Mathlib.Data.Nat.Init
import TickStream.Proofs.Json.Grammar
/-
Reading strings.  Main statement: a string is read from every text of it, however its characters
are escaped.
-/
namespace TickStream
namespace Json

/-- The reader takes the value `v` off the front of its text and leaves `rest`. -/
def Reads {α : Type} {cs : List Char} (r : Except Fault (α × Rest cs)) (v : α)
    (rest : List Char) : Prop := ∃ h, r = .ok (v, ⟨rest, h⟩)

theorem length_le_utf8ByteSize (cs : List Char) : cs.length ≤ (String.ofList cs).utf8ByteSize := by
  induction cs with
  | nil => exact Nat.zero_le _
  | cons c cs ih =>
    have hpos := c.utf8Size_pos
    rw [String.ofList_cons, String.utf8ByteSize_append, String.utf8ByteSize_singleton, List.length_cons]
    omega

theorem reads_hexWord {n : Nat} {cs : List Char} (h : SpellsHex n cs) (rest : List Char) :
    Reads (hexWord (cs ++ rest)) n rest := by
  obtain ⟨a, b, c, d, p, q, r, s, rfl, ha, hb, hc, hd, rfl⟩ := h
  have hsize : ¬ (String.ofList ((a :: b :: c :: d :: rest).take 4)).utf8ByteSize < 4 :=
    Nat.not_lt_of_le (length_le_utf8ByteSize [a, b, c, d])
  show Reads (hexWord (a :: b :: c :: d :: rest)) _ _
  refine ⟨by simp only [List.length_cons]; omega, ?_⟩
  rw [hexWord, if_neg hsize]
  simp only [ha, hb, hc, hd]

theorem reads_numberedEscape {n : Nat} {cs : List Char} (h : SpellsHex n cs)
    (low : isLowSurrogate n = false) (high : isHighSurrogate n = false) (rest : List Char) :
    Reads (numberedEscape (cs ++ rest)) (Char.ofNat n) rest := by
  obtain ⟨hlt, hread⟩ := reads_hexWord h rest
  refine ⟨hlt, ?_⟩
  rw [numberedEscape, hread]
  simp only [low, high, Bool.false_eq_true, if_false]

theorem reads_numberedEscape_pair {n m : Nat} {cs ds : List Char} (h : SpellsHex n cs)
    (high : isHighSurrogate n) (h' : SpellsHex m ds) (low : isLowSurrogate m)
    (rest : List Char) :
    Reads (numberedEscape (cs ++ '\\' :: 'u' :: (ds ++ rest)))
      (Char.ofNat (0x10000 + (n - 0xd800) * 0x400 + (m - 0xdc00))) rest := by
  obtain ⟨hlt, hread⟩ := reads_hexWord h ('\\' :: 'u' :: (ds ++ rest))
  obtain ⟨hlt', hread'⟩ := reads_hexWord h' rest
  have hnot : isLowSurrogate n = false := by
    simp only [isHighSurrogate, isLowSurrogate, Bool.and_eq_true, decide_eq_true_iff,
      Bool.and_eq_false_iff, decide_eq_false_iff_not] at high ⊢
    omega
  refine ⟨?_, ?_⟩
  · simp only [List.length_append, List.length_cons]
    omega
  · rw [numberedEscape, hread]
    simp only [hnot, high, hread', low, Bool.false_eq_true, if_false, if_true]

/-- An escape is read after its backslash. -/
theorem reads_escape {c : Char} {cs : List Char} (h : SpellsChar c ('\\' :: cs))
    (rest : List Char) : Reads (escape (cs ++ rest)) c rest := by
  generalize hall : '\\' :: cs = ds at h
  cases h with
  | plain quote backslash control =>
    injection hall with hhead
    exact absurd hhead.symm backslash
  | @letter l _ h =>
    injection hall with _ hcs
    subst hcs
    have hu : l ≠ 'u' := by
      rintro rfl
      exact absurd h (by simp [letterEscape?])
    refine ⟨by simp, ?_⟩
    simp only [List.cons_append, List.nil_append, escape, if_neg hu, h]
  | numbered h low high =>
    injection hall with _ hcs
    subst hcs
    obtain ⟨hlt, hread⟩ := reads_numberedEscape h low high rest
    refine ⟨by simp only [List.cons_append, List.length_cons]; omega, ?_⟩
    simp only [List.cons_append, escape, if_true, hread]
  | @pair n m cs ds h high h' low =>
    injection hall with _ hcs
    subst hcs
    obtain ⟨hlt, hread⟩ := reads_numberedEscape_pair h high h' low rest
    have htext : 'u' :: (cs ++ '\\' :: 'u' :: ds) ++ rest =
        'u' :: (cs ++ '\\' :: 'u' :: (ds ++ rest)) := by
      simp
    rw [htext]
    refine ⟨by simp only [List.length_cons]; omega, ?_⟩
    simp only [escape, if_true, hread]

theorem SpellsChar.cases_head {c : Char} {cs : List Char} (h : SpellsChar c cs) :
    (cs = [c] ∧ c ≠ '"' ∧ c ≠ '\\' ∧ 0x20 ≤ c.toNat) ∨ ∃ ds, cs = '\\' :: ds := by
  cases h with
  | plain quote backslash control => exact .inl ⟨rfl, quote, backslash, control⟩
  | letter h => exact .inr ⟨_, rfl⟩
  | numbered h low high => exact .inr ⟨_, rfl⟩
  | pair h high h' low => exact .inr ⟨_, rfl⟩

/-- The characters of a string are read up to its quote. -/
theorem stringTail_spells {s cs : List Char} (h : SpellsChars s cs) (acc rest : List Char) :
    stringTail acc (cs ++ '"' :: rest) = .ok (String.ofList (acc.reverse ++ s), rest) := by
  induction h generalizing acc with
  | nil =>
    rw [List.nil_append, stringTail, List.append_nil]
    rfl
  | @cons c cs s ds head tail ih =>
    have hacc : (c :: acc).reverse ++ s = acc.reverse ++ c :: s := by
      rw [List.reverse_cons, List.append_assoc, List.singleton_append]
    rw [← hacc, ← ih (c :: acc), List.append_assoc]
    obtain ⟨rfl, quote, backslash, control⟩ | ⟨es, rfl⟩ := head.cases_head
    · rw [List.singleton_append, stringTail, if_neg quote, if_neg backslash,
        if_neg (Nat.not_lt_of_le control)]
    · obtain ⟨hlt, hread⟩ := reads_escape head (ds ++ '"' :: rest)
      rw [List.cons_append, stringTail, if_neg (by decide), if_pos rfl, hread]

theorem stringTail_of_spells {s : String} {cs : List Char} (h : SpellsChars s.toList cs)
    (rest : List Char) : stringTail [] (cs ++ '"' :: rest) = .ok (s, rest) := by
  rw [stringTail_spells h, List.reverse_nil, List.nil_append, String.ofList_toList]

end Json
end TickStream
