import TickStream.Proofs.Bytes.Fields
import TickStream.Proofs.OneRun
/-
Failures of readers that stand at known positions.  What is read of a byte string is given by the
position where it stops and by the positions of its texts and its codes.  Main statement: a
reader that goes from field to field, as these stand, either reaches the position behind the last
one or fails with an error whose offset is where the failure is; and what a sequence of readers
does comes from its steps.
-/
namespace TickStream

open Step Reader

namespace Bytes

variable {bs : Bytes} {p n stop : Nat}

/-- The `n` bytes at position `p`, or as many of them as there are. -/
def part (bs : Bytes) (p n : Nat) : Bytes := (bs.drop p).take n

/-- The bytes at a position are the same in what is left when the end is cut off behind them. -/
theorem part_take (h : p + n ≤ stop) : part (bs.take stop) p n = part bs p n := by
  rw [part, part, List.drop_take, List.take_take, Nat.min_eq_left (by omega)]

theorem length_part (h : p + n ≤ bs.length) : (part bs p n).length = n := by
  rw [part, List.length_take, List.length_drop]
  omega

end Bytes

def Error.offset? : Error → Option Nat
  | truncated _ offset _ _ | badPadding _ offset | badUtf8 _ offset | unknownValue _ _ offset =>
    some offset
  | _ => none

/-- What is read of a byte string, and where. -/
structure Region where
  bytes : Bytes
  /-- The position that nothing is read at, or behind. -/
  stop : Nat
  stop_le : stop ≤ bytes.length
  /-- The names, positions and widths of the texts. -/
  text : String → Nat → Nat → Prop
  /-- The names, positions and widths of the numbers that stand for something else. -/
  code : String → Nat → Nat → Prop

namespace Region

variable {α β : Type} {P : Region} {p q s n width : Nat} {field context : String}

/-- What an error says of bytes, if it gives an offset, is so.  A byte that does not belong to a
text follows the zeros that follow the text, in one field; a text that is not UTF-8 begins at the
offset; a code is the number at the offset; and bytes are missing at the end of what is read. -/
def Truthful (P : Region) : Error → Prop
  | .badPadding field offset => ∃ start width first stray, P.text field start width ∧
      start + width ≤ P.stop ∧ PaddedText.Stray (Bytes.part P.bytes start width) first stray ∧
      offset = start + stray
  | .badUtf8 field offset => ∃ width, P.text field offset width ∧ offset + width ≤ P.stop ∧
      ∀ s, PaddedText.content (Bytes.part P.bytes offset width) ≠ Bytes.ofString s
  | .unknownValue field value offset => ∃ width, P.code field offset width ∧
      offset + width ≤ P.stop ∧ Bytes.toNat (Bytes.part P.bytes offset width) = value
  | .truncated _ offset expected got => got < expected ∧ offset + got = P.stop
  | _ => True

/-- An offset that is where the failure is lies in what is read, or at its end. -/
theorem Truthful.offset_le {e : Error} {offset : Nat} (h : P.Truthful e)
    (he : e.offset? = some offset) : offset ≤ P.stop := by
  cases e with
  | badPadding =>
    injection he with he
    obtain ⟨start, width, first, stray, -, hend, hstray, hoffset⟩ := h
    obtain ⟨byte, hbyte, -⟩ := hstray.byte
    have hlt := (List.getElem?_eq_some_iff.1 hbyte).1
    rw [Bytes.length_part (Nat.le_trans hend P.stop_le)] at hlt
    omega
  | badUtf8 =>
    injection he with he
    obtain ⟨width, -, hend, -⟩ := h
    omega
  | unknownValue =>
    injection he with he
    obtain ⟨width, -, hend, -⟩ := h
    omega
  | truncated =>
    injection he with he
    obtain ⟨-, hend⟩ := h
    omega
  | _ => cases he

def cursor (P : Region) (p : Nat) : Cursor := ⟨(P.bytes.take P.stop).drop p, p⟩

/-- From position `p` the reader gives a value with `Q` and goes to position `q`, or it fails and
says truly where. -/
def Reaches (P : Region) (p q : Nat) (r : Reader α) (Q : α → Prop) : Prop :=
  p ≤ P.stop → Ensures (P.cursor p) r (fun a c => Q a ∧ q ≤ P.stop ∧ c = P.cursor q)
    fun e _ => P.Truthful e

variable {r : Reader α} {f : α → Reader β} {Q : α → Prop} {R : β → Prop}

theorem length_cursor (P : Region) (p : Nat) : (P.cursor p).rest.length = P.stop - p := by
  have hle := P.stop_le
  rw [cursor, List.length_drop, List.length_take]
  omega

/-! ## Steps -/

theorem reaches_pure {a : α} (h : Q a) : P.Reaches p p (pure a) Q :=
  fun hp => ensures_pure ⟨h, hp, rfl⟩

theorem reaches_throw {e : Error} (h : P.Truthful e) : P.Reaches p q (throw e) Q :=
  fun _ => ensures_of_error rfl h

theorem Reaches.bind (hr : P.Reaches p q r Q) (hf : ∀ a, Q a → P.Reaches q s (f a) R) :
    P.Reaches p s (r >>= f) R := by
  intro hp
  refine (hr hp).andThen ?_
  rintro a c ⟨ha, hq, rfl⟩
  exact hf a ha hq

theorem Reaches.giving (hr : P.Reaches p q r Q) {g : α → β} (hg : ∀ a, Q a → R (g a)) :
    P.Reaches p q (do return g (← r)) R :=
  hr.bind fun a ha => reaches_pure (hg a ha)

/-- A reader that looks where it stands. -/
theorem reaches_offset {f : Nat → Reader α} (h : P.Reaches p q (f p) Q) :
    P.Reaches p q (Reader.offset >>= f) Q := h

/-- Bytes that are missing are missing at the end. -/
theorem reaches_take (P : Region) (p n : Nat) (context : String) :
    P.Reaches p (p + n) (take n context) fun bs =>
      p + n ≤ P.stop ∧ bs = Bytes.part P.bytes p n := by
  intro hp
  have hlen := P.length_cursor p
  by_cases hn : (P.cursor p).rest.length < n
  · refine ensures_of_error (take_short hn context) ⟨hn, ?_⟩
    show p + (P.cursor p).rest.length = P.stop
    omega
  · have hstop : p + n ≤ P.stop := by omega
    refine ensures_of_ok (a := Bytes.part P.bytes p n) (t := P.cursor (p + n)) ?_
      ⟨⟨hstop, rfl⟩, hstop, rfl⟩
    have hgot : ((P.cursor p).rest.take n).length = n := by
      rw [List.length_take]
      omega
    have hrest : (P.cursor p).rest.drop n = (P.cursor (p + n)).rest := List.drop_drop
    rw [← Bytes.part_take hstop]
    show take n context (P.cursor p) = _
    rw [take, if_neg (by rw [hgot]; omega), hrest]
    rfl

theorem reaches_skip (P : Region) (p n : Nat) (context : String) :
    P.Reaches p (p + n) (skip n context) fun _ => True :=
  (P.reaches_take p n context).giving fun _ _ => trivial

theorem reaches_word (P : Region) (p : Nat) (w : Word) (context : String) :
    P.Reaches p (p + w.width) (word w context) fun v =>
      p + w.width ≤ P.stop ∧ w.bits v = Bytes.toNat (Bytes.part P.bytes p w.width) := by
  refine (P.reaches_take p w.width context).giving fun bs hbs => ?_
  obtain ⟨hstop, rfl⟩ := hbs
  refine ⟨hstop, w.bits_ofBits _ ?_⟩
  have hlt := Bytes.toNat_lt (Bytes.part P.bytes p w.width)
  rwa [Bytes.length_part (Nat.le_trans hstop P.stop_le)] at hlt

/-- Whatever the field of a text holds, an error says truly what is wrong with it. -/
theorem reaches_text (h : P.text field p width) :
    P.Reaches p (p + width) (Reader.text width field) fun _ => True := by
  rw [Reader.text]
  refine reaches_offset ?_
  refine (P.reaches_take p width field).bind fun bs hbs => ?_
  obtain ⟨hstop, rfl⟩ := hbs
  cases hdecode : PaddedText.decode field p (Bytes.part P.bytes p width) with
  | ok text => exact reaches_pure trivial
  | error e =>
    refine reaches_throw ?_
    rcases PaddedText.decode_eq_error_iff.1 hdecode with
      ⟨first, stray, hstray, rfl⟩ | ⟨-, hcontent, rfl⟩
    · exact ⟨p, width, first, stray, h, hstop, hstray, rfl⟩
    · exact ⟨width, h, hstop, hcontent⟩

/-- Things that stand one behind the other, the `i`-th of them at `g i`. -/
theorem reaches_times {g : Nat → Nat} {k : Nat}
    (h : ∀ i < k, P.Reaches (g i) (g (i + 1)) r fun _ => True) :
    P.Reaches (g 0) (g k) (times k r) fun _ => True := by
  induction k generalizing g with
  | zero => exact reaches_pure trivial
  | succ k ih =>
    refine (h 0 (Nat.succ_pos k)).bind fun a _ => ?_
    refine (ih (g := fun i => g (i + 1)) fun i hi => ?_).giving fun _ _ => trivial
    exact h (i + 1) (Nat.succ_lt_succ hi)

/-- Things of one size. -/
theorem reaches_times_of_size {size k : Nat}
    (h : ∀ i < k, P.Reaches (p + size * i) (p + size * i + size) r fun _ => True) :
    P.Reaches p (p + size * k) (times k r) fun _ => True := by
  refine reaches_times (g := fun i => p + size * i) fun i hi => ?_
  rw [Nat.mul_succ, ← Nat.add_assoc]
  exact h i hi

/-! ## Whole runs -/

/-- What a reader says that was started at a position. -/
theorem Reaches.truthful (h : P.Reaches p q r Q) (hp : p ≤ P.stop) {bs : Bytes} {e : Error}
    (hbs : (P.bytes.take P.stop).drop p = bs) (he : Reader.run r bs p = .error e) :
    P.Truthful e := by
  subst hbs
  obtain ⟨c, hrun⟩ := run_eq_error.1 he
  exact (h hp).of_error hrun

end Region
end TickStream
