import Mathlib.Data.Nat.Digits.Defs
import TickStream.Proofs.Bytes.Texts
import TickStream.Proofs.Json.Printed
import TickStream.Proofs.Text.Digits
/-
What compact texts look like: they have no control characters, so they stand on one line, and
their size in bytes is bounded by the sizes of the texts and numbers in them.
-/
namespace TickStream

namespace Text

/-- The UTF-8 bytes of characters, counted. -/
def size (cs : List Char) : Nat := (cs.flatMap String.utf8EncodeChar).length

@[simp] theorem size_nil : size [] = 0 := rfl

@[simp] theorem size_cons (c : Char) (cs : List Char) : size (c :: cs) = c.utf8Size + size cs := by
  rw [size, List.flatMap_cons, List.length_append, String.length_utf8EncodeChar, size]

@[simp] theorem size_append (cs ds : List Char) : size (cs ++ ds) = size cs + size ds := by
  rw [size, List.flatMap_append, List.length_append, size, size]

theorem length_ofString (s : String) : (Bytes.ofString s).length = size s.toList := by
  rw [Bytes.ofString_eq, size]

theorem size_of_ascii {cs : List Char} (h : ∀ c ∈ cs, c.toNat < 128) : size cs = cs.length := by
  induction cs with
  | nil => rfl
  | cons c cs ih =>
    obtain ⟨hc, hcs⟩ := List.forall_mem_cons.1 h
    have hone : c.utf8Size = 1 := by
      rw [Char.utf8Size_eq_one_iff, UInt32.le_iff_toNat_le]
      exact Nat.le_of_lt_succ hc
    rw [size_cons, ih hcs, hone, List.length_cons, Nat.add_comm]

def Plain (cs : List Char) : Prop := ∀ c ∈ cs, 0x20 ≤ c.toNat

instance (cs : List Char) : Decidable (Plain cs) :=
  decidable_of_iff (cs.all fun c => 0x20 ≤ c.toNat) (by simp [Plain])

theorem plain_append {cs ds : List Char} : Plain (cs ++ ds) ↔ Plain cs ∧ Plain ds :=
  List.forall_mem_append

theorem plain_cons {c : Char} {cs : List Char} : Plain (c :: cs) ↔ 0x20 ≤ c.toNat ∧ Plain cs :=
  List.forall_mem_cons

theorem plain_nil : Plain [] := fun _ hc => absurd hc List.not_mem_nil

/-- A byte below those of visible characters is a control character. -/
theorem le_of_mem_utf8EncodeChar {c : Char} {b : UInt8} (hc : 0x20 ≤ c.toNat)
    (hb : b ∈ String.utf8EncodeChar c) : 0x20 ≤ b.toNat := by
  replace hc : 0x20 ≤ c.val.toNat := hc
  simp only [String.utf8EncodeChar] at hb
  split at hb
  · rw [List.mem_singleton] at hb
    subst hb
    simp only [UInt8.toNat_ofNat']
    omega
  · split at hb
    · simp only [List.mem_cons, List.not_mem_nil, or_false] at hb
      obtain rfl | rfl := hb <;> simp only [UInt8.toNat_ofNat'] <;> omega
    · split at hb
      · simp only [List.mem_cons, List.not_mem_nil, or_false] at hb
        obtain rfl | rfl | rfl := hb <;> simp only [UInt8.toNat_ofNat'] <;> omega
      · simp only [List.mem_cons, List.not_mem_nil, or_false] at hb
        obtain rfl | rfl | rfl | rfl := hb <;> simp only [UInt8.toNat_ofNat'] <;> omega

/-- Neither has a text without control characters bytes of such. -/
theorem Plain.not_mem_ofString {s : String} (h : Plain s.toList) {b : UInt8} (hb : b.toNat < 0x20) :
    b ∉ Bytes.ofString s := by
  rw [Bytes.ofString_eq, List.mem_flatMap]
  rintro ⟨c, hc, hmem⟩
  have := le_of_mem_utf8EncodeChar (h c hc) hmem
  omega

end Text

namespace Json

open Text

/-! ## Strings and numbers -/

theorem digit_bounds {n : Nat} {c : Char} (hc : c ∈ Nat.toDigits 10 n) :
    0x30 ≤ c.toNat ∧ c.toNat ≤ 0x39 := by
  have hdigit := List.all_eq_true.1 (all_isDigit_toDigits n) c hc
  simp only [Char.isDigit, Bool.and_eq_true, decide_eq_true_iff, ge_iff_le,
    UInt32.le_iff_toNat_le] at hdigit
  exact hdigit

theorem plain_digits (n : Nat) : Plain (Nat.toDigits 10 n) := by
  intro c hc
  have := digit_bounds hc
  omega

theorem size_digits {n e : Nat} (he : 0 < e) (hn : n < 10 ^ e) : size (Nat.toDigits 10 n) ≤ e := by
  have hascii : ∀ c ∈ Nat.toDigits 10 n, c.toNat < 128 := by
    intro c hc
    have := digit_bounds hc
    omega
  rw [size_of_ascii hascii]
  exact Nat.toDigits_length 10 n e he hn

theorem digitChar_bounds {d : Nat} (h : d < 16) :
    0x20 ≤ (Nat.digitChar d).toNat ∧ (Nat.digitChar d).utf8Size = 1 := by
  have hall : ∀ e : Fin 16, 0x20 ≤ (Nat.digitChar e).toNat ∧ (Nat.digitChar e).utf8Size = 1 := by
    decide
  exact hall ⟨d, h⟩

theorem plain_escapeChar (c : Char) : Plain (escapeChar c) := by
  unfold escapeChar
  split
  case h_8 =>
    split
    · rename_i hcontrol
      have hhigh := (digitChar_bounds (d := c.toNat / 16) (by omega)).1
      have hlow := (digitChar_bounds (d := c.toNat % 16) (by omega)).1
      simp only [plain_cons, hhigh, hlow, plain_nil]
      decide
    · rename_i hcontrol
      exact plain_cons.2 ⟨Nat.le_of_not_lt hcontrol, plain_nil⟩
  all_goals decide

/-- The longest escape has six characters. -/
theorem size_escapeChar (c : Char) : size (escapeChar c) ≤ 6 * c.utf8Size := by
  have hpos := c.utf8Size_pos
  have hescape (d : Char) (h : d.utf8Size = 1) : size ['\\', d] = 2 := by
    rw [size_cons, size_cons, h]
    rfl
  unfold escapeChar
  split
  case h_8 =>
    split
    · rename_i hcontrol
      have hhigh := (digitChar_bounds (d := c.toNat / 16) (by omega)).2
      have hlow := (digitChar_bounds (d := c.toNat % 16) (by omega)).2
      have hescaped : size ['\\', 'u', '0', '0', Nat.digitChar (c.toNat / 16),
          Nat.digitChar (c.toNat % 16)] = 6 := by
        simp only [size_cons, hhigh, hlow]
        rfl
      omega
    · rw [size_cons, size_nil]
      omega
  all_goals rw [hescape _ rfl]; decide

theorem plain_renderString (s : String) : Plain (renderString s) := by
  rw [renderString, plain_cons, plain_append]
  refine ⟨by decide, fun c hc => ?_, by decide⟩
  obtain ⟨d, -, hmem⟩ := List.mem_flatMap.1 hc
  exact plain_escapeChar d c hmem

theorem size_renderString (s : String) :
    size (renderString s) ≤ 6 * (Bytes.ofString s).length + 2 := by
  have hescaped (cs : List Char) : size (cs.flatMap escapeChar) ≤ 6 * size cs := by
    induction cs with
    | nil => exact Nat.le_refl _
    | cons c cs ih =>
      have hone := size_escapeChar c
      rw [List.flatMap_cons, size_append, size_cons]
      omega
  have hquote : '"'.utf8Size = 1 := rfl
  have htext := hescaped s.toList
  rw [renderString, size_cons, size_append, size_cons, size_nil, hquote, length_ofString]
  omega

/-- An integer of 64 bits has at most twenty characters. -/
theorem size_ofInt (v : Int) : size (render (ofInt v)) ≤ 20 := by
  rw [ofInt]
  split
  · have hlt : (Int64.ofInt v).toInt.natAbs < 10 ^ 19 := by
      have hlow := (Int64.ofInt v).le_toInt
      have hhigh := (Int64.ofInt v).toInt_lt
      omega
    have hdigits := size_digits (by decide) hlt
    have hsign : '-'.utf8Size = 1 := rfl
    rw [render, renderNumber, size_cons, hsign]
    omega
  · have hlt : (UInt64.ofNat v.toNat).toNat < 10 ^ 20 := by
      have := (UInt64.ofNat v.toNat).toNat_lt
      omega
    exact size_digits (by decide) hlt

/-! ## Values -/

theorem plain_member {k : String} {cs : List Char} (h : Plain cs) :
    Plain (renderString k ++ ':' :: cs) :=
  plain_append.2 ⟨plain_renderString k, plain_cons.2 ⟨by decide, h⟩⟩

theorem plain_bracketed {first last : Char} {cs : List Char} (hf : 0x20 ≤ first.toNat)
    (h : Plain cs) (hl : 0x20 ≤ last.toNat) : Plain (first :: (cs ++ [last])) :=
  plain_cons.2 ⟨hf, plain_append.2 ⟨h, plain_cons.2 ⟨hl, plain_nil⟩⟩⟩

mutual
theorem plain_render : (v : Json) → v.Integral → Plain (render v)
  | null, _ => by rw [render]; decide
  | bool true, _ => by rw [render]; decide
  | bool false, _ => by rw [render]; decide
  | number (.natural n), _ => plain_digits n.toNat
  | number (.negative n), _ => plain_cons.2 ⟨by decide, plain_digits n.toInt.natAbs⟩
  | number (.real _), h => h.elim
  | string s, _ => plain_renderString s
  | array vs, h => plain_bracketed (by decide) (plain_renderItems vs h) (by decide)
  | object ms, h => plain_bracketed (by decide) (plain_renderMembers ms h) (by decide)

theorem plain_renderItems : (vs : List Json) → IntegralItems vs → Plain (renderItems vs)
  | [], _ => plain_nil
  | [v], h => plain_render v h.1
  | v :: w :: vs, h => plain_append.2
    ⟨plain_render v h.1, plain_cons.2 ⟨by decide, plain_renderItems (w :: vs) h.2⟩⟩

theorem plain_renderMembers : (ms : List (String × Json)) → IntegralMembers ms →
    Plain (renderMembers ms)
  | [], _ => plain_nil
  | [(_, v)], h => plain_member (plain_render v h.1)
  | (_, v) :: m :: ms, h => plain_member (plain_append.2
    ⟨plain_render v h.1, plain_cons.2 ⟨by decide, plain_renderMembers (m :: ms) h.2⟩⟩)
end

theorem size_bracketed {first last : Char} (hf : first.utf8Size = 1) (hl : last.utf8Size = 1)
    (cs : List Char) : size (first :: (cs ++ [last])) = size cs + 2 := by
  rw [size_cons, size_append, size_cons, size_nil, hf, hl]
  omega

theorem size_array (vs : List Json) : size (render (array vs)) = size (renderItems vs) + 2 :=
  size_bracketed rfl rfl _

theorem size_object (ms : List (String × Json)) :
    size (render (object ms)) = size (renderMembers ms) + 2 := size_bracketed rfl rfl _

theorem size_renderItems_cons (v : Json) (vs : List Json) :
    size (renderItems (v :: vs)) ≤ size (render v) + 1 + size (renderItems vs) := by
  have hcomma : ','.utf8Size = 1 := rfl
  cases vs with
  | nil =>
    show size (render v) ≤ _
    omega
  | cons w vs =>
    rw [renderItems, size_append, size_cons, hcomma]
    omega

theorem size_renderItems {vs : List Json} {b : Nat} (h : ∀ v ∈ vs, size (render v) ≤ b) :
    size (renderItems vs) ≤ vs.length * (b + 1) := by
  induction vs with
  | nil => exact Nat.zero_le _
  | cons v vs ih =>
    obtain ⟨hv, hvs⟩ := List.forall_mem_cons.1 h
    have hcons := size_renderItems_cons v vs
    have hrest := ih hvs
    rw [List.length_cons, Nat.add_mul, Nat.one_mul]
    omega

/-- A member takes a quoted key, a colon, its value and a comma. -/
theorem size_renderMembers_cons (k : String) (v : Json) (ms : List (String × Json)) :
    size (renderMembers ((k, v) :: ms)) ≤
      6 * (Bytes.ofString k).length + 4 + size (render v) + size (renderMembers ms) := by
  have hcomma : ','.utf8Size = 1 := rfl
  have hcolon : ':'.utf8Size = 1 := rfl
  have hkey := size_renderString k
  cases ms with
  | nil =>
    show size (renderString k ++ ':' :: render v) ≤ _
    rw [size_append, size_cons, hcolon]
    omega
  | cons m ms =>
    rw [renderMembers, size_append, size_cons, size_append, size_cons, hcolon, hcomma]
    omega

end Json
end TickStream
