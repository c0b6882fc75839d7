import TickStream.Proofs.Record.Scalars
import TickStream.Proofs.Step
import TickStream.Record.Field
/-
The forms that rows of fields have in JSON: members in any order, among others that no field
asks for.  Main statement: if no key is written twice, a row is read from every list of members
that renders it, for every layout at once.
-/
namespace TickStream

open Json Step

/-- The forms of the fields of a family, whatever their kind. -/
class RenderedFieldKind (κ : Type) [FieldKind κ] where
  Renders : (k : κ) → FieldKind.Val k → Json → Prop
  renders_toJson : ∀ (k : κ) (v : FieldKind.Val k), Renders k v (FieldKind.toJson k v)
  /-- A value is read from each of its forms. -/
  ofJson_of_renders : ∀ {k : κ} {v : FieldKind.Val k} {j : Json}, Renders k v j →
    FieldKind.ofJson k j.sorted = .ok v

namespace Row

section
variable {κ : Type} [FieldKind κ]

def names : List (Slot κ) → List String
  | [] => []
  | .gap _ :: slots => names slots
  | .field name _ :: slots => name :: names slots
  | .optional name _ _ :: slots => name :: names slots

theorem map_fst_toMembers : ∀ (slots : List (Slot κ)) (row : Row slots),
    (toMembers slots row).map Prod.fst = names slots
  | [], _ => rfl
  | .gap _ :: slots, row => map_fst_toMembers slots row
  | .field name _ :: slots, (_, row) => congrArg (name :: ·) (map_fst_toMembers slots row)
  | .optional name _ _ :: slots, (_, row) => congrArg (name :: ·) (map_fst_toMembers slots row)

theorem integral_toMembers (h : ∀ (k : κ) (v : FieldKind.Val k), (FieldKind.toJson k v).Integral) :
    ∀ (slots : List (Slot κ)) (row : Row slots), IntegralMembers (toMembers slots row)
  | [], _ => trivial
  | .gap _ :: slots, row => integral_toMembers h slots row
  | .field _ k :: slots, (v, row) => ⟨h k v, integral_toMembers h slots row⟩
  | .optional _ k _ :: slots, (v, row) => ⟨h k v, integral_toMembers h slots row⟩

theorem depth_toMembers {d : Nat}
    (h : ∀ (k : κ) (v : FieldKind.Val k), (FieldKind.toJson k v).depth ≤ d) :
    ∀ (slots : List (Slot κ)) (row : Row slots), depthMembers (toMembers slots row) ≤ d
  | [], _ => Nat.zero_le d
  | .gap _ :: slots, row => depth_toMembers h slots row
  | .field _ k :: slots, (v, row) => Nat.max_le.2 ⟨h k v, depth_toMembers h slots row⟩
  | .optional _ k _ :: slots, (v, row) => Nat.max_le.2 ⟨h k v, depth_toMembers h slots row⟩

end

section
variable {κ : Type} [FieldKind κ] [RenderedFieldKind κ]

/-- The members render the row: they have a form of each of its values under the name of the
field.  A field that may be left out may be absent if it is unset. -/
def Renders : (slots : List (Slot κ)) → Row slots → List (String × Json) → Prop
  | [], _, _ => True
  | .gap _ :: slots, row, ms => Renders slots row ms
  | .field name k :: slots, (v, row), ms =>
    (∃ j, (name, j) ∈ ms ∧ RenderedFieldKind.Renders k v j) ∧ Renders slots row ms
  | .optional name k unset :: slots, (v, row), ms =>
    ((∃ j, (name, j) ∈ ms ∧ RenderedFieldKind.Renders k v j) ∨ v = unset ∧ ∀ j, (name, j) ∉ ms) ∧
      Renders slots row ms

/-- Members that a row is printed as render it, with whatever stands among them. -/
theorem renders_toMembers {slots : List (Slot κ)} {row : Row slots} {ms : List (String × Json)}
    (h : ∀ m ∈ toMembers slots row, m ∈ ms) : Renders slots row ms := by
  -- A named field and one that may be left out are printed alike.
  have value (name : String) (k : κ) (v : FieldKind.Val k) (hm : (name, FieldKind.toJson k v) ∈ ms) :
      ∃ j, (name, j) ∈ ms ∧ RenderedFieldKind.Renders k v j :=
    ⟨_, hm, RenderedFieldKind.renders_toJson k v⟩
  induction slots with
  | nil => trivial
  | cons slot slots ih =>
    cases slot with
    | gap n => exact ih h
    | field name k =>
      have hrest : Renders slots row.2 ms := ih fun m hm => h m (List.mem_cons_of_mem _ hm)
      exact ⟨value name k row.1 (h _ List.mem_cons_self), hrest⟩
    | optional name k unset =>
      have hrest : Renders slots row.2 ms := ih fun m hm => h m (List.mem_cons_of_mem _ hm)
      exact ⟨.inl (value name k row.1 (h _ List.mem_cons_self)), hrest⟩

theorem kindFault?_of_renders {k : κ} {v : FieldKind.Val k} {j : Json}
    (h : RenderedFieldKind.Renders k v j) : Slot.kindFault? k j.sorted = none := by
  rw [Slot.kindFault?, RenderedFieldKind.ofJson_of_renders h]

/-- No field finds fault with a member. -/
theorem fault?_of_renders {slots : List (Slot κ)} {row : Row slots} {ms : List (String × Json)}
    (hd : Distinct ms) (h : Renders slots row ms) {name : String} {j : Json}
    (hj : (name, j) ∈ ms) : slots.findSome? (fun s => s.fault? name j.sorted) = none := by
  -- The member may be the one that renders the field, and of its name there is no other.
  have value (k : κ) (v : FieldKind.Val k) (n : String)
      (hv : ∃ j, (n, j) ∈ ms ∧ RenderedFieldKind.Renders k v j) :
      (if n = name then Slot.kindFault? k j.sorted else none) = none := by
    by_cases hn : n = name
    · subst hn
      obtain ⟨j', hj', hr⟩ := hv
      rw [if_pos rfl, hd.eq_of_mem hj hj', kindFault?_of_renders hr]
    · rw [if_neg hn]
  induction slots with
  | nil => rfl
  | cons slot slots ih =>
    rw [List.findSome?_cons]
    cases slot with
    | gap n =>
      rw [Slot.fault?]
      exact ih h
    | field n k =>
      rw [Slot.fault?, value k row.1 n h.1]
      exact ih h.2
    | optional n k unset =>
      obtain ⟨hv | ⟨-, habsent⟩, hrest⟩ := h
      · rw [Slot.fault?, value k row.1 n hv]
        exact ih hrest
      · have hn : n ≠ name := by
          rintro rfl
          exact habsent j hj
        rw [Slot.fault?, if_neg hn]
        exact ih hrest

theorem firstFault_of_renders {slots : List (Slot κ)} {row : Row slots}
    {ms : List (String × Json)} (hd : Distinct ms) (h : Renders slots row ms) :
    firstFault slots (sortMembers (sortedMembers ms)) = none := by
  rw [firstFault, List.findSome?_eq_none_iff]
  intro m hm
  obtain ⟨j, hj, hv⟩ := mem_of_mem_sorted (k := m.1) (v := m.2) hm
  rw [hv]
  exact fault?_of_renders hd h hj

theorem ofMembers_of_renders {slots : List (Slot κ)} {row : Row slots}
    {ms : List (String × Json)} (hd : Distinct ms) (h : Renders slots row ms) :
    ofMembers slots (sortMembers (sortedMembers ms)) = .ok row := by
  induction slots with
  | nil => rfl
  | cons slot slots ih =>
    cases slot with
    | gap n => exact ih h
    | field name k =>
      obtain ⟨⟨j, hj, hr⟩, hrest⟩ := h
      rw [ofMembers, lookup_sorted hd hj]
      exact bind_eq_ok.2 ⟨row.1, RenderedFieldKind.ofJson_of_renders hr,
        bind_eq_ok.2 ⟨row.2, ih hrest, rfl⟩⟩
    | optional name k unset =>
      obtain ⟨⟨j, hj, hr⟩ | ⟨hunset, habsent⟩, hrest⟩ := h
      · rw [ofMembers, lookup_sorted hd hj]
        exact bind_eq_ok.2 ⟨row.1, RenderedFieldKind.ofJson_of_renders hr,
          bind_eq_ok.2 ⟨row.2, ih hrest, rfl⟩⟩
      · rw [ofMembers, lookup_sorted_none habsent, ← hunset]
        exact bind_eq_ok.2 ⟨row.1, rfl, bind_eq_ok.2 ⟨row.2, ih hrest, rfl⟩⟩

/-- A row is read from the members of an object that render it. -/
theorem ofObject_of_renders {slots : List (Slot κ)} {row : Row slots}
    {ms : List (String × Json)} (hd : Distinct ms) (h : Renders slots row ms) :
    ofObject slots (sortMembers (sortedMembers ms)) = .ok row := by
  simp only [ofObject, firstFault_of_renders hd h]
  exact ofMembers_of_renders hd h

end
end Row

/-! ## Numbers and levels -/

instance : RenderedFieldKind Scalar where
  Renders := Scalar.Renders
  renders_toJson := Scalar.renders_toJson
  ofJson_of_renders := Scalar.ofJson_of_renders

namespace LevelKind

/-- A level is an object that has its fields. -/
def Renders (k : LevelKind) (v : k.Val) (j : Json) : Prop :=
  ∃ ms, j = .object ms ∧ Distinct ms ∧ Row.Renders k.slots (k.toRow v) ms

theorem nodup_names (k : LevelKind) : (Row.names k.slots).Nodup := by
  cases k <;> decide

theorem renders_toJson (k : LevelKind) (v : k.Val) : k.Renders v (k.toJson v) := by
  refine ⟨_, rfl, ?_, Row.renders_toMembers fun _ hm => hm⟩
  rw [Distinct, Row.map_fst_toMembers]
  exact k.nodup_names

theorem ofJson_of_renders {k : LevelKind} {v : k.Val} {j : Json} (h : k.Renders v j) :
    k.ofJson j.sorted = .ok v := by
  obtain ⟨ms, rfl, hd, hr⟩ := h
  show (Row.ofObject k.slots (sortMembers (sortedMembers ms))).map k.ofRow = _
  rw [Row.ofObject_of_renders hd hr]
  show Except.ok (k.ofRow (k.toRow v)) = _
  rw [k.ofRow_toRow]

/-- Levels are taken from the last one back, as a vector grows. -/
theorem takeItems_of_renders {k : LevelKind} {total n : Nat} {vs : Vector k.Val n}
    {items : List Json} (h : ∀ i, (hi : i < n) → ∃ j, items[i]? = some j ∧ k.Renders vs[i] j) :
    k.takeItems total (items.map sorted) n = .ok vs := by
  induction n with
  | zero =>
    have hnil : vs = #v[] := by ext i hi; omega
    rw [hnil]
    rfl
  | succ n ih =>
    obtain ⟨j, hj, hr⟩ := h n (Nat.lt_succ_self n)
    have hfront : k.takeItems total (items.map sorted) n = .ok vs.pop := by
      refine ih fun i hi => ?_
      rw [Vector.getElem_pop]
      exact h i (by omega)
    have hback : k.ofJson j.sorted = .ok vs.back := ofJson_of_renders hr
    refine bind_eq_ok.2 ⟨vs.pop, hfront, ?_⟩
    rw [List.getElem?_map, hj]
    refine bind_eq_ok.2 ⟨vs.back, hback, ?_⟩
    exact congrArg Except.ok (Vector.push_pop_back vs)

theorem ofArray_of_renders {k : LevelKind} {n : Nat} {vs : Vector k.Val n} {items : List Json}
    (hn : items.length = n) (h : ∀ i, (hi : i < n) → ∃ j, items[i]? = some j ∧ k.Renders vs[i] j) :
    k.ofArray n (.array (items.map sorted)) = .ok vs := by
  have hlen : ¬ n < (items.map sorted).length := by
    rw [List.length_map]
    omega
  refine bind_eq_ok.2 ⟨vs, takeItems_of_renders h, ?_⟩
  rw [if_neg hlen]
  rfl

theorem integral_toJson (k : LevelKind) (v : k.Val) : (k.toJson v).Integral :=
  Row.integral_toMembers Scalar.integral_toJson k.slots (k.toRow v)

theorem depth_toJson (k : LevelKind) (v : k.Val) : (k.toJson v).depth ≤ 1 := by
  have h := Row.depth_toMembers (fun s v => Nat.le_of_eq (Scalar.depth_toJson s v)) k.slots
    (k.toRow v)
  exact Nat.succ_le_succ h

theorem integral_map_toJson (k : LevelKind) (vs : List k.Val) :
    IntegralItems (vs.map k.toJson) := by
  induction vs with
  | nil => trivial
  | cons v vs ih => exact ⟨k.integral_toJson v, ih⟩

theorem depth_map_toJson (k : LevelKind) (vs : List k.Val) :
    depthItems (vs.map k.toJson) ≤ 1 := by
  induction vs with
  | nil => exact Nat.zero_le 1
  | cons v vs ih => exact Nat.max_le.2 ⟨k.depth_toJson v, ih⟩

end LevelKind

/-! ## Fields of a record body -/

namespace Field

/-- The forms of a field: of a single number its own, of a text the string, of levels an array
of them, best first. -/
def Renders : (f : Field) → f.Val → Json → Prop
  | scalar s, v, j => s.Renders v j
  | text _, t, j => j = .string t
  | levels k n, vs, j =>
    ∃ items, j = .array items ∧ items.length = n ∧
      ∀ i, (hi : i < n) → ∃ j, items[i]? = some j ∧ k.Renders (Vector.get vs ⟨i, hi⟩) j

theorem renders_toJson (f : Field) (v : f.Val) : f.Renders v (f.toJson v) := by
  cases f with
  | scalar s => exact s.renders_toJson v
  | text n => rfl
  | levels k n =>
    refine ⟨_, rfl, ?_, fun i hi => ⟨_, ?_, k.renders_toJson _⟩⟩
    · rw [List.length_map, Vector.length_toList]
    · rw [List.getElem?_map, Vector.getElem?_toList, Vector.getElem?_eq_getElem hi]
      rfl

theorem ofJson_of_renders {f : Field} {v : f.Val} {j : Json} (h : f.Renders v j) :
    f.ofJson j.sorted = .ok v := by
  cases f with
  | scalar s => exact Scalar.ofJson_of_renders h
  | text n =>
    obtain rfl : j = .string v := h
    rfl
  | levels k n =>
    obtain ⟨items, rfl, hn, hall⟩ := h
    show k.ofArray n (.array (sortedItems items)) = _
    rw [sortedItems_eq]
    exact LevelKind.ofArray_of_renders hn hall

theorem integral_toJson (f : Field) (v : f.Val) : (f.toJson v).Integral := by
  cases f with
  | scalar s => exact s.integral_toJson v
  | text n => trivial
  | levels k n => exact k.integral_map_toJson (Vector.toList v)

theorem depth_toJson (f : Field) (v : f.Val) : (f.toJson v).depth ≤ 2 := by
  cases f with
  | scalar s =>
    have h := s.depth_toJson v
    exact Nat.le_trans (Nat.le_of_eq h) (Nat.zero_le 2)
  | text n => exact Nat.zero_le 2
  | levels k n => exact Nat.succ_le_succ (k.depth_map_toJson (Vector.toList v))

end Field

instance : RenderedFieldKind Field where
  Renders := Field.Renders
  renders_toJson := Field.renders_toJson
  ofJson_of_renders := Field.ofJson_of_renders

end TickStream
