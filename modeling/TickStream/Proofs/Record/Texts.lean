import TickStream.Proofs.Bytes.Covers
import TickStream.Proofs.Record.Rows
import TickStream.Record.Codec
/-
What the frame of a record does not always keep: texts, which must be shorter than their
fields, and the fields that the first version of the format lacks.
-/
namespace TickStream
namespace Field

/-- The texts of a field, each with the width of the field. -/
def texts : (f : Field) → f.Val → List (String × Nat)
  | scalar _, _ => []
  | text n, s => [(s, n)]
  | levels _ _, _ => []

theorem fits_iff (f : Field) (v : f.Val) :
    LawfulFieldKind.Fits f v ↔ ∀ t ∈ f.texts v, (Bytes.ofString t.1).length < t.2 := by
  cases f with
  | text n => simp [texts, LawfulFieldKind.Fits]
  | scalar s => simp [texts, LawfulFieldKind.Fits]
  | levels k n => simp [texts, LawfulFieldKind.Fits]

theorem plain_iff (f : Field) (v : f.Val) :
    LawfulFieldKind.Plain f v ↔ ∀ t ∈ f.texts v, Text.ZeroFree t.1 := by
  cases f with
  | text n => simp [texts, LawfulFieldKind.Plain]
  | scalar s => simp [texts, LawfulFieldKind.Plain]
  | levels k n => simp [texts, LawfulFieldKind.Plain]

/-- The texts that are read come from fields. -/
theorem texts_of_read (f : Field) (name : String) :
    Reader.Covers (FieldKind.read f name) fun v _ => ∀ t ∈ f.texts v, Reader.HeldIn t.2 t.1 := by
  cases f with
  | scalar s =>
    exact (LawfulFieldKind.spans_read (Field.scalar s) name).covers.mono
      fun _ _ _ t ht => absurd ht List.not_mem_nil
  | text n =>
    refine (Reader.covers_text n name).mono fun v _ hv t ht => ?_
    rw [List.mem_singleton.1 ht]
    exact hv.2
  | levels k n =>
    exact (LawfulFieldKind.spans_read (Field.levels k n) name).covers.mono
      fun _ _ _ t ht => absurd ht List.not_mem_nil

end Field

namespace Row

/-- The texts of a row, in the order of its layout. -/
def texts : (slots : Layout) → Row slots → List (String × Nat)
  | [], _ => []
  | .gap _ :: slots, row => texts slots row
  | .field _ k :: slots, (v, row) => k.texts v ++ texts slots row
  | .optional _ k _ :: slots, (v, row) => k.texts v ++ texts slots row

/-- What holds of all that is read for a field holds of the values of a row that is read. -/
theorem forall_of_read {κ : Type} [FieldKind κ] {P : (k : κ) → FieldKind.Val k → Prop}
    (h : ∀ (k : κ) (name : String), Reader.Covers (FieldKind.read k name) fun v _ => P k v) :
    ∀ slots : List (Slot κ), Reader.Covers (read slots) fun row _ => Forall P slots row
  | [] => Reader.covers_pure trivial
  | .gap n :: slots => (Reader.spans_skip n "reserved").covers.bind fun _ _ _ =>
    forall_of_read h slots
  | .field name k :: slots => (h k name).bind fun _ _ hv =>
    (forall_of_read h slots).bind fun _ _ hrow => Reader.covers_pure ⟨hv, hrow⟩
  | .optional name k _ :: slots => (h k name).bind fun _ _ hv =>
    (forall_of_read h slots).bind fun _ _ hrow => Reader.covers_pure ⟨hv, hrow⟩

/-- What holds of all values of a row because of their texts. -/
theorem forall_iff_texts {P : (f : Field) → f.Val → Prop} {Q : String × Nat → Prop}
    (h : ∀ (f : Field) (v : f.Val), P f v ↔ ∀ t ∈ f.texts v, Q t) :
    ∀ (slots : Layout) (row : Row slots), Forall P slots row ↔ ∀ t ∈ texts slots row, Q t
  | [], _ => by simp [Forall, texts]
  | .gap _ :: slots, row => forall_iff_texts h slots row
  | .field _ k :: slots, (v, row) => by
    rw [Forall, texts, h k v, forall_iff_texts h slots row]
    simp only [List.mem_append, or_imp, forall_and]
  | .optional _ k _ :: slots, (v, row) => by
    rw [Forall, texts, h k v, forall_iff_texts h slots row]
    simp only [List.mem_append, or_imp, forall_and]

end Row

namespace InstrumentDefinition

/-- The texts of an instrument definition.  Only the field of the symbol is wider in the second
version. -/
def texts (d : InstrumentDefinition) (v : Version) : List (String × Nat) :=
  [(d.currency, 4), (d.settlCurrency, 4), (d.secsubtype, 6), (d.rawSymbol, v.symbolWidth),
   (d.group, 21), (d.exchange, 5), (d.asset, 7), (d.cfi, 7), (d.securityType, 7),
   (d.unitOfMeasure, 31), (d.underlying, 21), (d.strikePriceCurrency, 4)]

end InstrumentDefinition

namespace Kind

/-- The texts of a body, each with the width of its field in a version of the format. -/
def texts : (k : Kind) → Version → k.Body → List (String × Nat)
  | definition, v, d => d.texts v
  | error, .v1, m => [(m.text, 64)]
  | error, .v2, m => [(m.text, 302)]
  | system, .v1, m => [(m.text, 64)]
  | system, .v2, m => [(m.text, 303)]
  | symbolMapping, v, m =>
    [(m.stypeInSymbol, v.symbolWidth), (m.stypeOutSymbol, v.symbolWidth)]
  | _, _, _ => []

theorem texts_toRow (k : Kind) (v : Version) (b : k.Body) :
    Row.texts (k.layout v) (k.toRow v b) = k.texts v b := by
  cases k <;> cases v <;> rfl

def TextsFit (k : Kind) (v : Version) (b : k.Body) : Prop :=
  ∀ t ∈ k.texts v b, (Bytes.ofString t.1).length < t.2

def TextsPlain (k : Kind) (v : Version) (b : k.Body) : Prop :=
  ∀ t ∈ k.texts v b, Text.ZeroFree t.1

instance (k : Kind) (v : Version) (b : k.Body) : Decidable (k.TextsFit v b) :=
  inferInstanceAs (Decidable (∀ t ∈ _, _))

instance (k : Kind) (v : Version) (b : k.Body) : Decidable (k.TextsPlain v b) :=
  inferInstanceAs (Decidable (∀ t ∈ _, _))

/-- The fields that a version lacks have the values that say so. -/
def LacksUnset : (k : Kind) → Version → k.Body → Prop
  | error, .v1, m => m.code = unsetCode ∧ m.isLast = true
  | system, .v1, m => m.code = unsetCode
  | symbolMapping, .v1, m => m.stypeIn = unsetSymbology ∧ m.stypeOut = unsetSymbology
  | _, _, _ => True

/-- A body is kept by the layout of a version if nothing is set that the version lacks. -/
theorem ofRow_toRow {k : Kind} {v : Version} {b : k.Body} (h : k.LacksUnset v b) :
    k.ofRow v (k.toRow v b) = b := by
  cases v with
  | v2 => exact k.ofRow_toRow_v2 b
  | v1 =>
    cases k with
    | error =>
      obtain ⟨text, code, isLast⟩ := b
      obtain ⟨rfl, rfl⟩ := h
      rfl
    | system =>
      obtain ⟨text, code⟩ := b
      obtain rfl := h
      rfl
    | symbolMapping =>
      obtain ⟨stypeIn, inSymbol, stypeOut, outSymbol, startTs, endTs⟩ := b
      obtain ⟨rfl, rfl⟩ := h
      rfl
    | _ => rfl

end Kind
end TickStream
