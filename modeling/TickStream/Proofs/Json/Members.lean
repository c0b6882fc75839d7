import TickStream.Proofs.Json.Grammar
/-
The members of an object, after they have been sorted.  Main statement: if no key is written
twice, a reader finds under every key the value that was written for it, and nothing else.
-/
namespace TickStream
namespace Json

variable {k : String} {j : Json} {ms : List (String × Json)}

def Distinct (ms : List (String × Json)) : Prop := (ms.map Prod.fst).Nodup

instance (ms : List (String × Json)) : Decidable (Distinct ms) :=
  inferInstanceAs (Decidable (ms.map Prod.fst).Nodup)

theorem sortedMembers_eq (ms : List (String × Json)) :
    sortedMembers ms = ms.map fun m => (m.1, m.2.sorted) := by
  induction ms with
  | nil => rfl
  | cons m ms ih => rw [sortedMembers, List.map_cons, ih]

theorem sortedItems_eq (vs : List Json) : sortedItems vs = vs.map sorted := by
  induction vs with
  | nil => rfl
  | cons v vs ih => rw [sortedItems, List.map_cons, ih]

theorem Distinct.sorted (h : Distinct ms) : Distinct (sortedMembers ms) := by
  have hkeys : (sortedMembers ms).map Prod.fst = ms.map Prod.fst := by
    rw [sortedMembers_eq, List.map_map]
    rfl
  rw [Distinct, hkeys]
  exact h

theorem Distinct.tail {v : Json} (h : Distinct ((k, v) :: ms)) :
    Distinct ms ∧ ∀ w, (k, w) ∉ ms := by
  rw [Distinct, List.map_cons, List.nodup_cons] at h
  exact ⟨h.2, fun w hw => h.1 (List.mem_map.2 ⟨_, hw, rfl⟩)⟩

/-- Distinct members have one value for a key. -/
theorem Distinct.eq_of_mem (h : Distinct ms) {v w : Json} (hv : (k, v) ∈ ms) (hw : (k, w) ∈ ms) :
    v = w := by
  induction ms with
  | nil => exact absurd hv List.not_mem_nil
  | cons m ms ih =>
    obtain ⟨hrest, hkey⟩ := h.tail
    rcases List.mem_cons.1 hv with rfl | hv'
    · rcases List.mem_cons.1 hw with hw | hw'
      · injection hw with _ hw
        exact hw.symm
      · exact absurd hw' (hkey w)
    · rcases List.mem_cons.1 hw with rfl | hw'
      · exact absurd hv' (hkey v)
      · exact ih hrest hv' hw'

/-! ## Sorting -/

theorem mem_insertMember {key : String} {v : Json} {m : String × Json}
    (h : m ∈ insertMember key v ms) : m = (key, v) ∨ m ∈ ms := by
  induction ms with
  | nil => exact .inl (List.mem_singleton.1 h)
  | cons m' ms ih =>
    obtain ⟨k', w⟩ := m'
    rw [insertMember] at h
    split at h
    · exact List.mem_cons.1 h
    · split at h
      · exact (List.mem_cons.1 h).imp_right (List.mem_cons_of_mem _)
      · rcases List.mem_cons.1 h with rfl | h
        · exact .inr List.mem_cons_self
        · exact (ih h).imp_right (List.mem_cons_of_mem _)

def insertAll (ms sorted : List (String × Json)) : List (String × Json) :=
  ms.foldl (fun sorted m => insertMember m.1 m.2 sorted) sorted

theorem mem_insertAll {m : String × Json} {acc : List (String × Json)}
    (h : m ∈ insertAll ms acc) : m ∈ acc ∨ m ∈ ms := by
  induction ms generalizing acc with
  | nil => exact .inl h
  | cons m' ms ih =>
    rcases ih h with h | h
    · rcases mem_insertMember h with rfl | h
      · exact .inr List.mem_cons_self
      · exact .inl h
    · exact .inr (List.mem_cons_of_mem _ h)

theorem lookup_insertAll_of_not_mem (h : ∀ j, (k, j) ∉ ms) (acc : List (String × Json)) :
    lookup k (insertAll ms acc) = lookup k acc := by
  induction ms generalizing acc with
  | nil => rfl
  | cons m ms ih =>
    have hne : m.1 ≠ k := by
      rintro rfl
      exact h m.2 List.mem_cons_self
    have hrest := ih (fun j hj => h j (List.mem_cons_of_mem _ hj)) (insertMember m.1 m.2 acc)
    rw [lookup_insertMember, if_neg hne] at hrest
    exact hrest

theorem lookup_insertAll_of_mem (h : Distinct ms) (hj : (k, j) ∈ ms) (acc : List (String × Json)) :
    lookup k (insertAll ms acc) = some j := by
  induction ms generalizing acc with
  | nil => exact absurd hj List.not_mem_nil
  | cons m ms ih =>
    obtain ⟨hrest, hkey⟩ := h.tail
    rcases List.mem_cons.1 hj with rfl | hj'
    · have hlast := lookup_insertAll_of_not_mem hkey (insertMember k j acc)
      rw [lookup_insertMember, if_pos rfl] at hlast
      exact hlast
    · exact ih hrest hj' (insertMember m.1 m.2 acc)

/-- Sorting adds no member. -/
theorem mem_sortMembers {m : String × Json} (h : m ∈ sortMembers ms) : m ∈ ms :=
  (mem_insertAll h).resolve_left List.not_mem_nil

/-! ## What a reader finds -/

theorem mem_of_mem_sorted {v : Json} (h : (k, v) ∈ sortMembers (sortedMembers ms)) :
    ∃ j, (k, j) ∈ ms ∧ v = j.sorted := by
  have hmem := mem_sortMembers h
  rw [sortedMembers_eq] at hmem
  obtain ⟨m, hm, hk⟩ := List.mem_map.1 hmem
  injection hk with hk hv
  exact ⟨m.2, hk ▸ hm, hv.symm⟩

theorem lookup_sorted (h : Distinct ms) (hj : (k, j) ∈ ms) :
    lookup k (sortMembers (sortedMembers ms)) = some j.sorted := by
  refine lookup_insertAll_of_mem h.sorted ?_ []
  rw [sortedMembers_eq]
  exact List.mem_map.2 ⟨_, hj, rfl⟩

theorem lookup_sorted_none (h : ∀ j, (k, j) ∉ ms) :
    lookup k (sortMembers (sortedMembers ms)) = none := by
  refine lookup_insertAll_of_not_mem (fun v hv => ?_) []
  rw [sortedMembers_eq] at hv
  obtain ⟨m, hm, hk⟩ := List.mem_map.1 hv
  injection hk with hk
  exact h m.2 (hk ▸ hm)

end Json
end TickStream
