import TickStream.Proofs.Bytes.Covers
/-
Fields of fixed width, by the bytes that they hold.  Main statement: a field is read as a text
exactly if it holds the text, which has no zero character, and zeros behind it; of every other
field the first byte behind the first zero that is not zero is reported if there is one, and the
start of the field if there is none.  So a text that was written with room to spare is read back,
and no two fields of one width hold the same text.
-/
namespace TickStream

open Step Reader

namespace PaddedText

variable {field : String} {offset first stray : Nat} {bs : Bytes} {s : String} {e : Error}

/-! ## Bytes behind the first zero -/

/-- The first zero byte of a field, and the first byte behind it that is not zero. -/
structure Stray (bs : Bytes) (first stray : Nat) : Prop where
  text : ∀ i < first, bs[i]? ≠ some 0
  run : ∀ i, first ≤ i → i < stray → bs[i]? = some 0
  behind : first < stray
  byte : ∃ b, bs[stray]? = some b ∧ b ≠ 0

theorem getElem?_content_ne_zero {i : Nat} (h : i < (content bs).length) : bs[i]? ≠ some 0 := by
  rw [← content_append_padding bs, List.getElem?_append_left h, List.getElem?_eq_getElem h]
  intro hzero
  exact ne_zero_of_mem_content (List.getElem_mem h) (Option.some.inj hzero)

theorem getElem?_padding (bs : Bytes) (i : Nat) :
    (padding bs)[i]? = bs[(content bs).length + i]? := by
  have hsplit : (content bs ++ padding bs)[(content bs).length + i]? =
      (padding bs)[(content bs).length + i - (content bs).length]? :=
    List.getElem?_append_right (Nat.le_add_right ..)
  rw [content_append_padding, Nat.add_sub_cancel_left] at hsplit
  exact hsplit.symm

/-- What stands behind a text begins with a zero. -/
theorem head_padding {b : UInt8} (h : (padding bs)[0]? = some b) : b = 0 := by
  have hhead := List.head?_dropWhile_not (fun b : UInt8 => b != 0) bs
  rw [List.head?_eq_getElem?, ← padding, h] at hhead
  simpa using hhead

/-- The position among the bytes behind the text, and the position in the field. -/
theorem stray_of_findIdx? {i : Nat} (h : (padding bs).findIdx? (· != 0) = some i) :
    Stray bs (content bs).length ((content bs).length + i) := by
  obtain ⟨hi, hne, hbefore⟩ := List.findIdx?_eq_some_iff_getElem.1 h
  have hpos : 0 < i := by
    refine Nat.pos_of_ne_zero fun hzero => ?_
    subst hzero
    rw [head_padding (List.getElem?_eq_getElem hi)] at hne
    exact absurd hne (by decide)
  refine ⟨fun j hj => getElem?_content_ne_zero hj, fun j hle hlt => ?_, by omega, ?_⟩
  · obtain ⟨k, rfl⟩ := Nat.exists_eq_add_of_le hle
    have hk : k < i := by omega
    have hz := hbefore k hk
    rw [← getElem?_padding, List.getElem?_eq_getElem (Nat.lt_trans hk hi)]
    simpa using hz
  · refine ⟨(padding bs)[i], ?_, by simpa using hne⟩
    rw [← getElem?_padding, List.getElem?_eq_getElem hi]

/-- The first zero ends the text. -/
theorem Stray.first_eq (h : Stray bs first stray) : first = (content bs).length := by
  rcases Nat.lt_trichotomy first (content bs).length with hlt | heq | hgt
  · exact absurd (h.run first (Nat.le_refl _) h.behind) (getElem?_content_ne_zero hlt)
  · exact heq
  · obtain ⟨b, hb, -⟩ := h.byte
    have hlen : (content bs).length < bs.length := by
      have := (List.getElem?_eq_some_iff.1 hb).1
      have := h.behind
      omega
    have hget := getElem?_padding bs 0
    rw [Nat.add_zero, List.getElem?_eq_getElem hlen] at hget
    have hzero := head_padding hget
    exact absurd (List.getElem?_eq_some_iff.2 ⟨hlen, hzero⟩) (h.text _ hgt)

/-- A field has one stray byte at most. -/
theorem Stray.stray_eq {first' stray' : Nat} (h : Stray bs first stray)
    (h' : Stray bs first' stray') : stray = stray' := by
  have hzero : first = first' := h.first_eq.trans h'.first_eq.symm
  subst hzero
  obtain ⟨b, hb, hne⟩ := h.byte
  obtain ⟨b', hb', hne'⟩ := h'.byte
  rcases Nat.lt_trichotomy stray stray' with hlt | heq | hgt
  · rw [h'.run stray (Nat.le_of_lt h.behind) hlt] at hb
    exact absurd (Option.some.inj hb).symm hne
  · exact heq
  · rw [h.run stray' (Nat.le_of_lt h'.behind) hgt] at hb'
    exact absurd (Option.some.inj hb').symm hne'

theorem exists_stray_iff :
    (∃ first stray, Stray bs first stray) ↔ (padding bs).findIdx? (· != 0) ≠ none := by
  constructor
  · rintro ⟨first, stray, h⟩ hnone
    obtain ⟨b, hb, hne⟩ := h.byte
    have hle := Nat.le_of_lt h.behind
    rw [h.first_eq] at hle
    obtain ⟨i, rfl⟩ := Nat.exists_eq_add_of_le hle
    rw [← getElem?_padding] at hb
    have hz := List.findIdx?_eq_none_iff.1 hnone b (List.mem_of_getElem? hb)
    exact hne (by simpa using hz)
  · intro hsome
    obtain ⟨i, hi⟩ := Option.ne_none_iff_exists'.1 hsome
    exact ⟨_, _, stray_of_findIdx? hi⟩

/-! ## What a field is read as -/

theorem decode_eq_ok_iff : decode field offset bs = .ok s ↔
    Text.ZeroFree s ∧ ∃ n, bs = Bytes.ofString s ++ Bytes.zeros n := by
  constructor
  · exact fun h => ⟨zeroFree_of_decode h, _, eq_of_decode h⟩
  · rintro ⟨hs, n, rfl⟩
    exact decode_append_zeros hs n field offset

/-- A stray byte is looked for before the text is looked at. -/
theorem decode_eq_error_iff : decode field offset bs = .error e ↔
    (∃ first stray, Stray bs first stray ∧ e = .badPadding field (offset + stray)) ∨
      (¬ ∃ first stray, Stray bs first stray) ∧ (∀ s, content bs ≠ Bytes.ofString s) ∧
        e = .badUtf8 field offset := by
  rw [decode]
  cases hpad : (padding bs).findIdx? (· != 0) with
  | some i =>
    have hstray := stray_of_findIdx? hpad
    have hsome : ∃ first stray, Stray bs first stray := ⟨_, _, hstray⟩
    constructor
    · intro h
      injection h with h
      exact .inl ⟨_, _, hstray, by rw [← h, Nat.add_assoc]⟩
    · rintro (⟨first, stray, h, rfl⟩ | ⟨hnone, -⟩)
      · rw [h.stray_eq hstray, ← Nat.add_assoc]
      · exact absurd hsome hnone
  | none =>
    have hnone : ¬ ∃ first stray, Stray bs first stray := fun h => exists_stray_iff.1 h hpad
    cases htext : Bytes.toString? (content bs) with
    | some t =>
      constructor
      · intro h
        cases h
      · rintro (⟨first, stray, h, -⟩ | ⟨-, hne, -⟩)
        · exact absurd ⟨first, stray, h⟩ hnone
        · exact absurd (Bytes.toString?_eq_some_iff.1 htext) (hne t)
    | none =>
      have hne (t : String) : content bs ≠ Bytes.ofString t := fun ht => by
        rw [Bytes.toString?_eq_some_iff.2 ht] at htext
        cases htext
      constructor
      · intro h
        injection h with h
        exact .inr ⟨hnone, hne, h.symm⟩
      · rintro (⟨first, stray, h, -⟩ | ⟨-, -, rfl⟩)
        · exact absurd ⟨first, stray, h⟩ hnone
        · rfl

/-- A text that leaves room in its field, written and read. -/
theorem exists_field {width : Nat} (hs : Text.ZeroFree s)
    (hlen : (Bytes.ofString s).length < width) (field : String) :
    ∃ bs, bs.length = width ∧
      (∀ written, Writer.put written (.text field width s) = .ok (written ++ bs)) ∧
      ∀ name, Takes (text width name) bs s := by
  obtain ⟨bs, hbs⟩ : ∃ bs, encode field width s = .ok bs := encode_isOk_iff.2 hlen
  refine ⟨bs, length_encode hbs, fun written => ?_, fun name => takes_text hbs hs name⟩
  rw [Writer.put, Entry.encode, hbs]
  rfl

/-- Two fields of one width that are read as the same text hold the same bytes. -/
theorem fields_eq_of_decode {field' : String} {offset' : Nat} {bs' : Bytes}
    (hlen : bs.length = bs'.length) (h : decode field offset bs = .ok s)
    (h' : decode field' offset' bs' = .ok s) : bs = bs' := by
  obtain ⟨-, n, rfl⟩ := decode_eq_ok_iff.1 h
  obtain ⟨-, n', rfl⟩ := decode_eq_ok_iff.1 h'
  rw [List.length_append, List.length_append, Bytes.length_zeros, Bytes.length_zeros] at hlen
  rw [Nat.add_left_cancel hlen]

/-- Which fields are read as which text, and what is said of the others; that a text without a
zero is read back if it leaves room in its field; and that it has only one field of each width. -/
theorem decode_exact :
    (∀ field offset bs s, decode field offset bs = .ok s ↔
      Text.ZeroFree s ∧ ∃ n, bs = Bytes.ofString s ++ Bytes.zeros n) ∧
    (∀ field offset bs e, decode field offset bs = .error e ↔
      (∃ first stray, Stray bs first stray ∧ e = .badPadding field (offset + stray)) ∨
        (¬ ∃ first stray, Stray bs first stray) ∧ (∀ s, content bs ≠ Bytes.ofString s) ∧
          e = .badUtf8 field offset) ∧
    (∀ field width s, Text.ZeroFree s → (Bytes.ofString s).length < width →
      ∃ bs, bs.length = width ∧
        (∀ written, Writer.put written (.text field width s) = .ok (written ++ bs)) ∧
        ∀ name rest offset, EStateM.run (Reader.text width name) ⟨bs ++ rest, offset⟩ =
          .ok s ⟨rest, offset + width⟩) ∧
    (∀ field field' offset offset' bs bs' s, bs.length = bs'.length →
      decode field offset bs = .ok s → decode field' offset' bs' = .ok s → bs = bs') := by
  refine ⟨fun field offset bs s => decode_eq_ok_iff, fun field offset bs e => decode_eq_error_iff,
    fun field width s hs hlen => ?_, fun field field' offset offset' bs bs' s => fields_eq_of_decode⟩
  obtain ⟨bs, hwidth, hput, htakes⟩ := exists_field hs hlen field
  refine ⟨bs, hwidth, hput, fun name rest offset => ?_⟩
  rw [htakes name rest offset, hwidth]

/-- A text of two bytes in a field of four, which holds it alone, and a field in which it stands
behind a zero. -/
theorem decode_exact_accented :
    (∃ bs, Writer.put [7] (.text "symbol" 4 "é") = .ok ([7] ++ bs) ∧
      EStateM.run (Reader.text 4 "symbol") ⟨bs ++ [1], 9⟩ = .ok "é" ⟨[1], 13⟩ ∧
      ∀ bs' : Bytes, bs'.length = 4 → decode "symbol" 9 bs' = .ok "é" →
        bs' = [0xc3, 0xa9, 0, 0]) ∧
      decode "symbol" 9 [0x41, 0, 0xc3, 0xa9] = .error (.badPadding "symbol" 11) := by
  obtain ⟨hok, herror, hread, hone⟩ := decode_exact
  obtain ⟨bs, -, hput, hback⟩ := hread "symbol" 4 "é" (by decide) (by decide)
  refine ⟨⟨bs, hput [7], hback "symbol" [1] 9, fun bs' hlen h => ?_⟩, ?_⟩
  · exact hone "symbol" "symbol" 9 9 bs' _ "é" hlen h
      ((hok _ _ _ _).2 ⟨by decide, 2, by decide⟩)
  · refine (herror _ _ _ _).2 (.inl ⟨1, 2, ⟨?_, ?_, by decide, 0xc3, rfl, by decide⟩, rfl⟩)
    · decide
    · intro i hle hlt
      obtain rfl : i = 1 := by omega
      rfl

end PaddedText
end TickStream
