import TickStream.Proofs.Bytes.Covers
import TickStream.Proofs.Json.Compact
import TickStream.Proofs.Record.JsonLines
import TickStream.Proofs.Scan.Lines
import TickStream.Proofs.Scan.Progress
/-
How long the line is that a record is printed on.  Main statement: a record that a frame decodes
to is printed on one line, which a scanner of lines reads whole and shows as it is.

The texts of such a record are no longer than their fields, and so the layout of its kind bounds
the line.
-/
namespace TickStream

open Json Step Text

/-! ## Rows -/

namespace Row

section
variable {κ : Type} [FieldKind κ]

/-- What members take at most: a quoted name in which all may be escaped, a colon, a value of
`b` bytes and a comma. -/
def memberBound (b : κ → Nat) : List (Slot κ) → Nat
  | [] => 0
  | .gap _ :: slots => memberBound b slots
  | .field name k :: slots => 6 * (Bytes.ofString name).length + 4 + b k + memberBound b slots
  | .optional name k _ :: slots => 6 * (Bytes.ofString name).length + 4 + b k + memberBound b slots

theorem size_toMembers {b : κ → Nat} : ∀ (slots : List (Slot κ)) (row : Row slots),
    Forall (fun k v => size (render (FieldKind.toJson k v)) ≤ b k) slots row →
      size (renderMembers (toMembers slots row)) ≤ memberBound b slots
  | [], _, _ => Nat.le_refl 0
  | .gap _ :: slots, row, h => size_toMembers slots row h
  | .field name k :: slots, (v, row), ⟨hv, h⟩ => by
    have hcons := size_renderMembers_cons name (FieldKind.toJson k v) (toMembers slots row)
    have hrest := size_toMembers slots row h
    rw [toMembers, memberBound]
    omega
  | .optional name k _ :: slots, (v, row), ⟨hv, h⟩ => by
    have hcons := size_renderMembers_cons name (FieldKind.toJson k v) (toMembers slots row)
    have hrest := size_toMembers slots row h
    rw [toMembers, memberBound]
    omega

theorem forall_imp {P Q : (k : κ) → FieldKind.Val k → Prop} (h : ∀ k v, P k v → Q k v) :
    ∀ (slots : List (Slot κ)) (row : Row slots), Forall P slots row → Forall Q slots row
  | [], _, _ => trivial
  | .gap _ :: slots, row, hp => forall_imp h slots row hp
  | .field _ k :: slots, (v, row), ⟨hv, hp⟩ => ⟨h k v hv, forall_imp h slots row hp⟩
  | .optional _ k _ :: slots, (v, row), ⟨hv, hp⟩ => ⟨h k v hv, forall_imp h slots row hp⟩

end
end Row

/-! ## Fields -/

/-- A number takes at most twenty characters, and a text of one character at most as many as
four escaped bytes. -/
theorem Scalar.size_toJson (s : Scalar) (v : s.Val) : size (render (s.toJson v)) ≤ 26 := by
  cases s with
  | word w => exact Nat.le_trans (size_ofInt (w.toInt v)) (by decide)
  | count =>
    have hlt (n : UInt64) : n.toNat < 10 ^ 20 := by
      have := n.toNat_lt
      omega
    exact Nat.le_trans (size_digits (by decide) (hlt v)) (by decide)
  | price => exact Nat.le_trans (size_ofInt (Price.raw v).toInt) (by decide)
  | char =>
    have hquoted := size_renderString (String.singleton (charOfByte v))
    have hlength := length_ofString (String.singleton (charOfByte v))
    have hfour := (charOfByte v).utf8Size_le_four
    rw [String.toList_singleton, size_cons, size_nil] at hlength
    show size (renderString (String.singleton (charOfByte v))) ≤ 26
    omega
  | flag =>
    cases v with
    | true => decide
    | false => decide

namespace LevelKind

/-- What a level takes at most. -/
def bound (k : LevelKind) : Nat := Row.memberBound (fun _ => 26) k.slots + 2

theorem size_toJson (k : LevelKind) (v : k.Val) : size (render (k.toJson v)) ≤ k.bound := by
  have hrow := Row.size_toMembers k.slots (k.toRow v)
    (Row.forall_of_all Scalar.size_toJson _ _)
  rw [toJson, size_object, bound]
  omega

end LevelKind

namespace Field

/-- What a field takes at most, if its text is no longer than it is wide. -/
def bound : Field → Nat
  | scalar _ => 26
  | text n => 6 * n + 2
  | levels k n => n * (k.bound + 1) + 2

def Held (f : Field) (v : f.Val) : Prop := ∀ t ∈ f.texts v, (Bytes.ofString t.1).length ≤ t.2

theorem held_iff (f : Field) (v : f.Val) :
    f.Held v ↔ ∀ t ∈ f.texts v, (Bytes.ofString t.1).length ≤ t.2 := Iff.rfl

theorem size_toJson (f : Field) (v : f.Val) (h : f.Held v) : size (render (f.toJson v)) ≤ f.bound := by
  cases f with
  | scalar s => exact s.size_toJson v
  | text n =>
    have hlen : (Bytes.ofString v).length ≤ n := h (v, n) (List.mem_singleton_self _)
    have hquoted := size_renderString v
    show size (renderString v) ≤ 6 * n + 2
    omega
  | levels k n =>
    have hitems : ∀ j ∈ (Vector.toList v).map k.toJson, size (render j) ≤ k.bound := by
      intro j hj
      obtain ⟨level, -, rfl⟩ := List.mem_map.1 hj
      exact k.size_toJson level
    have hsize := size_renderItems hitems
    rw [List.length_map, Vector.length_toList] at hsize
    show size (render (.array ((Vector.toList v).map k.toJson))) ≤ n * (k.bound + 1) + 2
    rw [size_array]
    omega

theorem held_of_read (f : Field) (name : String) :
    Reader.Covers (FieldKind.read f name) fun v _ => f.Held v :=
  (f.texts_of_read name).mono fun _ _ h t ht => (h t ht).2

end Field

/-! ## Records -/

namespace Kind

/-- The texts of a body are no longer than their fields are wide. -/
def TextsHeld (k : Kind) (v : Version) (b : k.Body) : Prop :=
  ∀ t ∈ k.texts v b, (Bytes.ofString t.1).length ≤ t.2

theorem held_toRow (k : Kind) (v : Version) (b : k.Body) :
    Row.Forall Field.Held (k.layout v) (k.toRow v b) ↔ k.TextsHeld v b := by
  rw [Row.forall_iff_texts Field.held_iff, k.texts_toRow v b]
  rfl

/-- For every text of the first version the second one has a field at least as wide. -/
theorem texts_widen (k : Kind) (b : k.Body) :
    List.Forall₂ (fun t t' => t.1 = t'.1 ∧ t.2 ≤ t'.2) (k.texts .v1 b) (k.texts .v2 b) := by
  cases k <;> simp [texts, InstrumentDefinition.texts, Version.symbolWidth]

theorem TextsHeld.widen {k : Kind} {v : Version} {b : k.Body} (h : k.TextsHeld v b) :
    k.TextsHeld .v2 b := by
  cases v with
  | v2 => exact h
  | v1 =>
    intro t' ht'
    obtain ⟨i, hi, rfl⟩ := List.getElem_of_mem ht'
    have hpairs := k.texts_widen b
    have hi' : i < (k.texts .v1 b).length := by rwa [hpairs.length_eq]
    obtain ⟨htext, hwidth⟩ := hpairs.get hi' hi
    have hheld := h _ (List.getElem_mem hi')
    rw [List.get_eq_getElem, List.get_eq_getElem] at htext hwidth
    rw [← htext]
    exact Nat.le_trans hheld hwidth

/-- What the line of a record takes at most: the header, the fields of the body and the braces. -/
def lineBound (k : Kind) : Nat :=
  16 + (Row.memberBound (fun _ => 26) Header.slots + 2) +
    Row.memberBound Field.bound (k.layout .v2) + 2

/-- The limit of lines is far away for every kind. -/
theorem lineBound_le (k : Kind) : k.lineBound ≤ LineScanner.limit := by
  cases k <;> decide +kernel

end Kind

namespace Codec

variable {c : Codec} {h : Header} {k : Kind} {b : k.Body}

/-- What a frame of a known kind decodes to: its header has the tag of the kind and the length of
the layout, and its texts come from fields that hold them. -/
theorem Decoded.of_known (hd : c.Decoded (.known h k b)) :
    Kind.ofTag? h.tag = some k ∧ h.length = c.words k ∧ k.TextsHeld c.version b := by
  obtain ⟨h', body, hdecode⟩ := hd
  obtain ⟨-, hf, htag, row, hread, rfl⟩ := exists_row_of_decodeBody hdecode
  obtain ⟨n, hheld⟩ := (Row.forall_of_read Field.held_of_read (k.layout c.version)).of_run hread
  rw [← k.toRow_ofRow c.version row, Kind.held_toRow] at hheld
  exact ⟨htag, length_eq_words hf htag, hheld⟩

/-- From the line of a record that a frame decodes to, the record is read. -/
theorem Decoded.decodeJson_compact (hd : c.Decoded (.known h k b)) :
    c.decodeJson (Record.known h k b).toJson.compact = .ok (.known h k b) := by
  obtain ⟨htag, hlength, -⟩ := hd.of_known
  exact decodeJson_of_writtenOn htag hlength (Record.writtenOn_compact h k b)

end Codec

theorem Header.size_toJson (h : Header) :
    Text.size (render h.toJson) ≤ Row.memberBound (fun _ => 26) slots + 2 := by
  have hrow := Row.size_toMembers slots h.toRow (Row.forall_of_all Scalar.size_toJson _ _)
  rw [Header.toJson, size_object]
  omega

namespace Record

variable {h : Header} {k : Kind} {b : k.Body}

theorem size_toJson (hb : k.TextsHeld .v2 b) :
    size (render (known h k b).toJson) ≤ k.lineBound := by
  have hfields : Row.Forall (fun f v => size (render (FieldKind.toJson f v)) ≤ Field.bound f)
      (k.layout .v2) (k.toRow .v2 b) :=
    Row.forall_imp Field.size_toJson _ _ ((k.held_toRow .v2 b).2 hb)
  have hhead := h.size_toJson
  have hbody := Row.size_toMembers (k.layout .v2) (k.toRow .v2 b) hfields
  have hcons := size_renderMembers_cons "hd" h.toJson (Row.toMembers (k.layout .v2) (k.toRow .v2 b))
  have hname : (Bytes.ofString "hd").length = 2 := by decide
  rw [toJson, size_object, Kind.lineBound]
  omega

/-- A record is printed on one line if its texts come from fields. -/
theorem oneLine_compact (hb : k.TextsHeld .v2 b) :
    LineScanner.OneLine (known h k b).toJson.compact := by
  have hplain : Plain (known h k b).toJson.compact.toList := by
    rw [Json.compact, String.toList_ofList]
    exact plain_render _ (integral_toJson h k b)
  have hbrace : (0x7b : UInt8) ∈ Bytes.ofString (known h k b).toJson.compact := by
    rw [Bytes.ofString_eq, Json.compact, String.toList_ofList, toJson, render, List.flatMap_cons]
    exact List.mem_append_left _ (by decide)
  refine ⟨hplain.not_mem_ofString (by decide), ?_, ?_, ?_⟩
  · rw [List.all_eq_false]
    exact ⟨_, hbrace, by decide⟩
  · intro hlast
    exact hplain.not_mem_ofString (by decide) (List.mem_of_getLast? hlast)
  · have hsize := size_toJson hb (h := h)
    rw [length_ofString, Json.compact, String.toList_ofList]
    exact Nat.le_trans hsize k.lineBound_le

end Record
end TickStream
