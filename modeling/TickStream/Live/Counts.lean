/-
Counts of records by tag.
-/
namespace TickStream
namespace Live

/-- How many records of each tag there were.  Only tags that came up have an entry. -/
structure Counts where
  entries : List (UInt8 × Nat)
  increasing : entries.Pairwise fun a b => a.1 < b.1
  deriving Repr

namespace Counts

def empty : Counts := ⟨[], .nil⟩

/-- One more of a tag, among entries in increasing order. -/
def bump (tag : UInt8) : List (UInt8 × Nat) → List (UInt8 × Nat)
  | [] => [(tag, 1)]
  | (t, n) :: rest =>
    if tag < t then (tag, 1) :: (t, n) :: rest
    else if tag = t then (t, n + 1) :: rest
    else (t, n) :: bump tag rest

theorem lt_of_mem_bump {tag t : UInt8} {entries : List (UInt8 × Nat)} (ht : t < tag)
    (h : ∀ c ∈ entries, t < c.1) : ∀ c ∈ bump tag entries, t < c.1 := by
  induction entries with
  | nil => simpa [bump] using ht
  | cons c rest ih =>
    simp only [bump]
    split
    · simpa [ht] using h
    · split
      · simpa using h
      · simpa using ⟨h c (by simp), by simpa using ih fun d hd => h d (by simp [hd])⟩

theorem pairwise_bump (tag : UInt8) {entries : List (UInt8 × Nat)}
    (h : entries.Pairwise fun a b => a.1 < b.1) :
    (bump tag entries).Pairwise fun a b => a.1 < b.1 := by
  induction entries with
  | nil => simp [bump]
  | cons c rest ih =>
    have ⟨above, tail⟩ := List.pairwise_cons.1 h
    simp only [bump]
    split
    · rename_i lt
      refine List.pairwise_cons.2 ⟨?_, h⟩
      intro d hd
      rcases List.mem_cons.1 hd with rfl | hd
      · exact lt
      · exact UInt8.lt_trans lt (above d hd)
    · split
      · exact List.pairwise_cons.2 ⟨above, tail⟩
      · rename_i ge ne
        have : c.1 < tag := by
          have : c.1 ≠ tag := fun e => ne e.symm
          grind
        exact List.pairwise_cons.2 ⟨lt_of_mem_bump this above, ih tail⟩

def add (tag : UInt8) (counts : Counts) : Counts :=
  ⟨bump tag counts.entries, pairwise_bump tag counts.increasing⟩

def look (tag : UInt8) : List (UInt8 × Nat) → Nat
  | [] => 0
  | (t, n) :: rest => if t = tag then n else look tag rest

def get (counts : Counts) (tag : UInt8) : Nat := look tag counts.entries

theorem look_eq_zero {tag : UInt8} {entries : List (UInt8 × Nat)}
    (h : ∀ c ∈ entries, c.1 ≠ tag) : look tag entries = 0 := by
  induction entries with
  | nil => rfl
  | cons c rest ih => simp [look, h c (by simp), ih fun d hd => h d (by simp [hd])]

theorem look_bump (tag t : UInt8) {entries : List (UInt8 × Nat)}
    (h : entries.Pairwise fun a b => a.1 < b.1) :
    look t (bump tag entries) = look t entries + if t = tag then 1 else 0 := by
  induction entries with
  | nil => simp [bump, look, eq_comm]
  | cons c rest ih =>
    have ⟨above, tail⟩ := List.pairwise_cons.1 h
    simp only [bump]
    split
    · rename_i lt
      have : tag = t → look t (c :: rest) = 0 := by
        rintro rfl
        refine look_eq_zero fun d hd => ?_
        rcases List.mem_cons.1 hd with rfl | hd
        · exact UInt8.ne_of_lt lt |>.symm
        · exact (UInt8.ne_of_lt (UInt8.lt_trans lt (above d hd))).symm
      grind [look]
    · split <;> grind [look]

theorem get_add (counts : Counts) (tag t : UInt8) :
    (counts.add tag).get t = counts.get t + if t = tag then 1 else 0 :=
  look_bump tag t counts.increasing

end Counts

end Live
end TickStream
