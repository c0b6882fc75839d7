import TickStream.Proofs.Bytes.Takes
import TickStream.Record.Field
/-
Rows of fields read back as they were written.

`LawfulFieldKind` says of one field which values have bytes and which of these come back from
them; the theorems about rows follow by induction on the layout, for every layout at once.
-/
namespace TickStream

open Step Reader

/-- What is known of the fields of a family, whatever their kind. -/
class LawfulFieldKind (κ : Type) [FieldKind κ] where
  /-- The values that can be written. -/
  Fits : (k : κ) → FieldKind.Val k → Prop
  /-- The values that read back as they were written. -/
  Plain : (k : κ) → FieldKind.Val k → Prop
  encode_isOk : ∀ (k : κ) (name : String) (v : FieldKind.Val k),
    (∃ bs, FieldKind.encode k name v = .ok bs) ↔ Fits k v
  length_encode : ∀ {k : κ} {name : String} {v : FieldKind.Val k} {bs : Bytes},
    FieldKind.encode k name v = .ok bs → bs.length = FieldKind.width k
  takes_read : ∀ {k : κ} {name : String} {v : FieldKind.Val k} {bs : Bytes},
    FieldKind.encode k name v = .ok bs → Plain k v → Takes (FieldKind.read k name) bs v
  spans_read : ∀ (k : κ) (name : String), Spans (FieldKind.read k name) (FieldKind.width k)

open LawfulFieldKind

namespace Row

section
variable {κ : Type} [FieldKind κ]

def Forall (P : (k : κ) → FieldKind.Val k → Prop) : (slots : List (Slot κ)) → Row slots → Prop
  | [], _ => True
  | .gap _ :: slots, row => Forall P slots row
  | .field _ k :: slots, (v, row) => P k v ∧ Forall P slots row
  | .optional _ k _ :: slots, (v, row) => P k v ∧ Forall P slots row

theorem forall_of_all {P : (k : κ) → FieldKind.Val k → Prop} (h : ∀ k v, P k v) :
    ∀ (slots : List (Slot κ)) (row : Row slots), Forall P slots row
  | [], _ => trivial
  | .gap _ :: slots, row => forall_of_all h slots row
  | .field _ k :: slots, (v, row) => ⟨h k v, forall_of_all h slots row⟩
  | .optional _ k _ :: slots, (v, row) => ⟨h k v, forall_of_all h slots row⟩

end

section
variable {κ : Type} [FieldKind κ] [LawfulFieldKind κ]

/-- A row has bytes exactly when each of its values has. -/
theorem encode_isOk (slots : List (Slot κ)) (row : Row slots) :
    (∃ bs, encode slots row = .ok bs) ↔ Forall Fits slots row := by
  -- A named field and one that JSON may leave out are the same in bytes.
  have value (name : String) (k : κ) (v : FieldKind.Val k) (slots : List (Slot κ))
      (row : Row slots) (ih : (∃ bs, encode slots row = .ok bs) ↔ Forall Fits slots row) :
      (∃ bs, (do let bs ← FieldKind.encode k name v; return bs ++ (← encode slots row)) = .ok bs) ↔
        Fits k v ∧ Forall Fits slots row := by
    rw [← LawfulFieldKind.encode_isOk k name v, ← ih]
    constructor
    · rintro ⟨bs, h⟩
      obtain ⟨xs, ys, hx, hy, -⟩ := append_eq_ok.1 h
      exact ⟨⟨xs, hx⟩, ⟨ys, hy⟩⟩
    · rintro ⟨⟨xs, hx⟩, ⟨ys, hy⟩⟩
      exact ⟨xs ++ ys, append_eq_ok.2 ⟨xs, ys, hx, hy, rfl⟩⟩
  induction slots with
  | nil => exact ⟨fun _ => trivial, fun _ => ⟨[], rfl⟩⟩
  | cons slot slots ih =>
    cases slot with
    | gap n =>
      refine Iff.trans ?_ (ih row)
      constructor
      · rintro ⟨bs, h⟩
        obtain ⟨ys, hy, -⟩ := bind_eq_ok.1 h
        exact ⟨ys, hy⟩
      · rintro ⟨ys, hy⟩
        exact ⟨Bytes.zeros n ++ ys, bind_eq_ok.2 ⟨ys, hy, rfl⟩⟩
    | field name k => exact value name k row.1 slots row.2 (ih row.2)
    | optional name k unset => exact value name k row.1 slots row.2 (ih row.2)

/-- A row takes as many bytes as its layout says. -/
theorem length_encode {slots : List (Slot κ)} {row : Row slots} {bs : Bytes}
    (h : encode slots row = .ok bs) : bs.length = width slots := by
  induction slots generalizing bs with
  | nil =>
    injection h with h
    rw [← h]
    rfl
  | cons slot slots ih =>
    rw [width]
    cases slot with
    | gap n =>
      obtain ⟨ys, hy, hbs⟩ := bind_eq_ok.1 h
      injection hbs with hbs
      rw [← hbs, List.length_append, Bytes.length_zeros, ih hy, Slot.width]
    | field name k =>
      obtain ⟨xs, ys, hx, hy, rfl⟩ := append_eq_ok.1 h
      rw [List.length_append, LawfulFieldKind.length_encode hx, ih hy, Slot.width]
    | optional name k unset =>
      obtain ⟨xs, ys, hx, hy, rfl⟩ := append_eq_ok.1 h
      rw [List.length_append, LawfulFieldKind.length_encode hx, ih hy, Slot.width]

/-- A row of plain values reads back as it was written. -/
theorem takes_read {slots : List (Slot κ)} {row : Row slots} {bs : Bytes}
    (h : encode slots row = .ok bs) (hp : Forall Plain slots row) :
    Takes (read slots) bs row := by
  induction slots generalizing bs with
  | nil =>
    injection h with h
    rw [← h]
    exact takes_pure ()
  | cons slot slots ih =>
    cases slot with
    | gap n =>
      obtain ⟨ys, hy, hbs⟩ := bind_eq_ok.1 h
      injection hbs with hbs
      rw [← hbs]
      exact (takes_skip (Bytes.length_zeros n) "reserved").andThen (ih hy hp)
    | field name k =>
      obtain ⟨xs, ys, hx, hy, rfl⟩ := append_eq_ok.1 h
      exact (LawfulFieldKind.takes_read hx hp.1).andThen ((ih hy hp.2).giving (row.1, ·))
    | optional name k unset =>
      obtain ⟨xs, ys, hx, hy, rfl⟩ := append_eq_ok.1 h
      exact (LawfulFieldKind.takes_read hx hp.1).andThen ((ih hy hp.2).giving (row.1, ·))

/-- A row is read from as many bytes as its layout says, and from nothing behind them. -/
theorem spans_read (slots : List (Slot κ)) : Spans (read slots) (width slots) := by
  induction slots with
  | nil => exact spans_pure ()
  | cons slot slots ih =>
    cases slot with
    | gap n => exact (spans_skip n "reserved").andThen fun _ => ih
    | field name k =>
      exact (LawfulFieldKind.spans_read k name).andThen fun v => ih.giving (v, ·)
    | optional name k unset =>
      exact (LawfulFieldKind.spans_read k name).andThen fun v => ih.giving (v, ·)

end
end Row

/-! ## Numbers and levels -/

/-- Every number has bytes and comes back from them. -/
instance : LawfulFieldKind Scalar where
  Fits _ _ := True
  Plain _ _ := True
  encode_isOk _ _ _ := ⟨fun _ => trivial, fun _ => ⟨_, rfl⟩⟩
  length_encode {k name v bs} h := by
    injection h with h
    rw [← h]
    exact k.carrier.length_encode _
  takes_read {k name v bs} h _ := by
    injection h with h
    have hw := (takes_word k.carrier (k.toWord v) name).giving k.ofWord
    rw [k.ofWord_toWord] at hw
    rw [← h]
    exact hw
  spans_read k name := (spans_word k.carrier name).giving k.ofWord

namespace LevelKind

theorem encode_isOk (k : LevelKind) (v : k.Val) : ∃ bs, k.encode v = .ok bs :=
  (Row.encode_isOk k.slots (k.toRow v)).2 (Row.forall_of_all (fun _ _ => trivial) _ _)

theorem length_encode {k : LevelKind} {v : k.Val} {bs : Bytes} (h : k.encode v = .ok bs) :
    bs.length = 32 := by
  rw [Row.length_encode h, width_slots]

theorem takes_read {k : LevelKind} {v : k.Val} {bs : Bytes} (h : k.encode v = .ok bs) :
    Takes k.read bs v := by
  have hr := (Row.takes_read h (Row.forall_of_all (fun _ _ => trivial) _ _)).giving k.ofRow
  rwa [k.ofRow_toRow] at hr

theorem spans_read (k : LevelKind) : Spans k.read 32 := by
  have hr := (Row.spans_read k.slots).giving k.ofRow
  rwa [width_slots] at hr

theorem encodeAll_isOk (k : LevelKind) (vs : List k.Val) : ∃ bs, k.encodeAll vs = .ok bs := by
  induction vs with
  | nil => exact ⟨[], rfl⟩
  | cons v vs ih =>
    obtain ⟨xs, hx⟩ := k.encode_isOk v
    obtain ⟨ys, hy⟩ := ih
    exact ⟨xs ++ ys, append_eq_ok.2 ⟨xs, ys, hx, hy, rfl⟩⟩

theorem length_encodeAll {k : LevelKind} {vs : List k.Val} {bs : Bytes}
    (h : k.encodeAll vs = .ok bs) : bs.length = 32 * vs.length := by
  induction vs generalizing bs with
  | nil =>
    injection h with h
    rw [← h]
    rfl
  | cons v vs ih =>
    obtain ⟨xs, ys, hx, hy, rfl⟩ := append_eq_ok.1 h
    rw [List.length_append, length_encode hx, ih hy, List.length_cons]
    omega

theorem encodeAll_concat {k : LevelKind} {vs : List k.Val} {v : k.Val} {bs : Bytes}
    (h : k.encodeAll (vs ++ [v]) = .ok bs) :
    ∃ front back, k.encodeAll vs = .ok front ∧ k.encode v = .ok back ∧ bs = front ++ back := by
  induction vs generalizing bs with
  | nil =>
    obtain ⟨xs, ys, hx, hy, rfl⟩ := append_eq_ok.1 h
    injection hy with hy
    exact ⟨[], xs, rfl, hx, by rw [← hy, List.append_nil, List.nil_append]⟩
  | cons u vs ih =>
    obtain ⟨xs, ys, hx, hy, rfl⟩ := append_eq_ok.1 h
    obtain ⟨front, back, hf, hb, rfl⟩ := ih hy
    exact ⟨xs ++ front, back, append_eq_ok.2 ⟨xs, front, hx, hf, rfl⟩, hb,
      by rw [List.append_assoc]⟩

/-- Levels are read from the last one back, as a vector grows. -/
theorem takes_readAll {k : LevelKind} {n : Nat} {vs : Vector k.Val n} {bs : Bytes}
    (h : k.encodeAll vs.toList = .ok bs) : Takes (k.readAll n) bs vs := by
  induction n generalizing bs with
  | zero =>
    have hnil : vs = #v[] := by ext i hi; omega
    subst hnil
    injection h with h
    rw [← h]
    exact takes_pure #v[]
  | succ n ih =>
    have hpush : vs.pop.push vs.back = vs := Vector.push_pop_back vs
    rw [← hpush, Vector.toList_push] at h
    obtain ⟨front, back, hf, hb, rfl⟩ := encodeAll_concat h
    have hback : Takes (do return vs.pop.push (← k.read)) back (vs.pop.push vs.back) :=
      (takes_read hb).giving vs.pop.push
    have hr : Takes (k.readAll (n + 1)) (front ++ back) (vs.pop.push vs.back) :=
      Takes.andThen (f := fun us : Vector k.Val n => do return us.push (← k.read)) (ih hf) hback
    rwa [hpush] at hr

theorem spans_readAll (k : LevelKind) (n : Nat) : Spans (k.readAll n) (32 * n) := by
  induction n with
  | zero => exact spans_pure #v[]
  | succ n ih => exact ih.andThen fun us => k.spans_read.giving us.push

end LevelKind

/-! ## Fields of a record body -/

/-- A text has bytes if it is shorter than its field, and comes back from them if none of its
characters is zero. -/
instance : LawfulFieldKind Field where
  Fits
    | .scalar _, _ => True
    | .text n, s => (Bytes.ofString s).length < n
    | .levels _ _, _ => True
  Plain
    | .scalar _, _ => True
    | .text _, s => Text.ZeroFree s
    | .levels _ _, _ => True
  encode_isOk
    | .scalar _, _, _ => ⟨fun _ => trivial, fun _ => ⟨_, rfl⟩⟩
    | .text _, _, _ => PaddedText.encode_isOk_iff
    | .levels k _, _, vs => ⟨fun _ => trivial, fun _ => k.encodeAll_isOk (Vector.toList vs)⟩
  length_encode {k name v bs} h := by
    cases k with
    | scalar s => exact @LawfulFieldKind.length_encode Scalar _ _ s name v bs h
    | text n => exact PaddedText.length_encode h
    | levels k n => rw [LevelKind.length_encodeAll h, Vector.length_toList]; rfl
  takes_read {k name v bs} h hp := by
    cases k with
    | scalar s => exact @LawfulFieldKind.takes_read Scalar _ _ s name v bs h trivial
    | text n => exact takes_text h hp name
    | levels k n => exact LevelKind.takes_readAll h
  spans_read k name := by
    cases k with
    | scalar s => exact LawfulFieldKind.spans_read s name
    | text n => exact spans_text n name
    | levels k n => exact k.spans_readAll n

end TickStream
