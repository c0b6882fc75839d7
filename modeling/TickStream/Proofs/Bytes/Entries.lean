import Mathlib.Algebra.GroupWithZero.Nat
import TickStream.Proofs.Bytes.Takes
/-
What entries take up.  Main statements: entries have bytes exactly when each of their texts is
shorter than its field; the bytes are then as many as the fields have; and when they have none,
the reason is a text of theirs.
-/
namespace TickStream
namespace Entry

open Step

/-- What is asked of a text and the width of its field. -/
def OfText (P : Nat → String → Prop) : Entry → Prop
  | text _ width s => P width s
  | _ => True

def Fits (e : Entry) : Prop := e.OfText fun width s => (Bytes.ofString s).length < width

def width : Entry → Nat
  | word w _ => w.width
  | bytes bs => bs.length
  | zeros n => n
  | text _ width _ => width

def widthAll (es : List Entry) : Nat := (es.map width).sum

theorem widthAll_cons (e : Entry) (es : List Entry) : widthAll (e :: es) = e.width + widthAll es :=
  rfl

theorem widthAll_append (es fs : List Entry) : widthAll (es ++ fs) = widthAll es + widthAll fs := by
  rw [widthAll, List.map_append, List.sum_append, widthAll, widthAll]

theorem widthAll_flatMap_le {α : Type} {f g : α → List Entry}
    (h : ∀ x, widthAll (f x) ≤ widthAll (g x)) (xs : List α) :
    widthAll (xs.flatMap f) ≤ widthAll (xs.flatMap g) := by
  induction xs with
  | nil => exact Nat.le_refl _
  | cons x xs ih =>
    have hx := h x
    rw [List.flatMap_cons, List.flatMap_cons, widthAll_append, widthAll_append]
    omega

theorem encode_isOk (e : Entry) : (∃ bs, e.encode = .ok bs) ↔ e.Fits := by
  cases e with
  | text field width s => exact PaddedText.encode_isOk_iff
  | _ => exact ⟨fun _ => trivial, fun _ => ⟨_, rfl⟩⟩

theorem length_encode {e : Entry} {bs : Bytes} (h : e.encode = .ok bs) : bs.length = e.width := by
  cases e with
  | text field width s => exact PaddedText.length_encode h
  | word w v =>
    injection h with h
    rw [← h, w.length_encode, width]
  | bytes cs =>
    injection h with h
    rw [← h, width]
  | zeros n =>
    injection h with h
    rw [← h, Bytes.length_zeros, width]

theorem encodeAll_isOk (es : List Entry) : (∃ bs, encodeAll es = .ok bs) ↔ ∀ e ∈ es, e.Fits := by
  induction es with
  | nil => exact ⟨fun _ e he => absurd he List.not_mem_nil, fun _ => ⟨[], rfl⟩⟩
  | cons e es ih =>
    rw [List.forall_mem_cons, ← e.encode_isOk, ← ih]
    constructor
    · rintro ⟨bs, h⟩
      obtain ⟨front, back, hfront, hback, -⟩ := encodeAll_cons.1 h
      exact ⟨⟨front, hfront⟩, ⟨back, hback⟩⟩
    · rintro ⟨⟨front, hfront⟩, ⟨back, hback⟩⟩
      exact ⟨front ++ back, encodeAll_cons.2 ⟨front, back, hfront, hback, rfl⟩⟩

theorem length_encodeAll {es : List Entry} {bs : Bytes} (h : encodeAll es = .ok bs) :
    bs.length = widthAll es := by
  induction es generalizing bs with
  | nil =>
    injection h with h
    rw [← h]
    rfl
  | cons e es ih =>
    obtain ⟨front, back, hfront, hback, rfl⟩ := encodeAll_cons.1 h
    rw [List.length_append, length_encode hfront, ih hback, widthAll_cons]

theorem encode_eq_error {e : Entry} {fault : Error} (h : e.encode = .error fault) :
    ∃ field width s, e = text field width s ∧ width ≤ (Bytes.ofString s).length ∧
      fault = .textTooLong field (Bytes.ofString s).length width := by
  cases e with
  | text field width s =>
    have h : PaddedText.encode field width s = .error fault := h
    rw [PaddedText.encode] at h
    split at h
    · exact absurd h (by simp)
    · rename_i hlong
      injection h with h
      exact ⟨field, width, s, rfl, Nat.le_of_not_lt hlong, h.symm⟩
  | _ => exact absurd h (by simp [encode])

/-- The reason why entries have no bytes is one of their texts. -/
theorem encodeAll_eq_error {es : List Entry} {fault : Error} (h : encodeAll es = .error fault) :
    ∃ field width s, text field width s ∈ es ∧ width ≤ (Bytes.ofString s).length ∧
      fault = .textTooLong field (Bytes.ofString s).length width := by
  induction es with
  | nil => exact absurd h (by simp [encodeAll])
  | cons e es ih =>
    rw [encodeAll] at h
    cases hfront : e.encode with
    | error fault' =>
      rw [hfront] at h
      injection h with h
      obtain ⟨field, width, s, rfl, hlong, hfault⟩ := encode_eq_error hfront
      exact ⟨field, width, s, List.mem_cons_self, hlong, by rw [← h, hfault]⟩
    | ok front =>
      rw [hfront] at h
      cases hback : encodeAll es with
      | ok back =>
        rw [hback] at h
        exact absurd h (by simp [bind, Except.bind, pure, Except.pure])
      | error fault' =>
        rw [hback] at h
        injection h with h
        obtain ⟨field, width, s, hmem, hlong, hfault⟩ := ih (hback.trans (congrArg _ h))
        exact ⟨field, width, s, List.mem_cons_of_mem e hmem, hlong, hfault⟩

end Entry
end TickStream
