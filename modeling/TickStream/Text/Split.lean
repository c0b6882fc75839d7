/-
Cutting texts at a character.  Main statement: the parts, with the character between
them, are the text again.
-/
namespace TickStream
namespace Text

def split (sep : Char) : List Char → List (List Char)
  | [] => [[]]
  | c :: cs =>
    if c = sep then [] :: split sep cs
    else match split sep cs with
      | [] => [[c]]
      | part :: parts => (c :: part) :: parts

def join (sep : Char) : List (List Char) → List Char
  | [] => []
  | [part] => part
  | part :: next :: parts => part ++ sep :: join sep (next :: parts)

theorem split_ne_nil (sep : Char) (cs : List Char) : split sep cs ≠ [] := by
  cases cs with
  | nil => simp [split]
  | cons c cs =>
    simp only [split]
    split
    · simp
    · split <;> simp

theorem join_split (sep : Char) (cs : List Char) : join sep (split sep cs) = cs := by
  induction cs with
  | nil => rfl
  | cons c cs ih =>
    have hne := split_ne_nil sep cs
    simp only [split]
    split
    · rename_i h
      subst h
      cases hs : split c cs with
      | nil => exact absurd hs hne
      | cons part parts => rw [hs] at ih; simp [join, ih]
    · cases hs : split sep cs with
      | nil => exact absurd hs hne
      | cons part parts =>
        rw [hs] at ih
        cases parts with
        | nil => simpa [join] using ih
        | cons next parts => simpa [join] using ih

/-- A part without the character is cut nowhere. -/
theorem split_of_not_mem {sep : Char} {cs : List Char} (h : sep ∉ cs) : split sep cs = [cs] := by
  induction cs with
  | nil => rfl
  | cons c cs ih =>
    simp only [List.mem_cons, not_or] at h
    simp [split, Ne.symm h.1, ih h.2]

/-- Parts that do not have the character are found again. -/
theorem split_join {sep : Char} {parts : List (List Char)} (hne : parts ≠ [])
    (h : ∀ part ∈ parts, sep ∉ part) : split sep (join sep parts) = parts := by
  induction parts with
  | nil => exact absurd rfl hne
  | cons part parts ih =>
    cases parts with
    | nil => exact split_of_not_mem (h part (by simp))
    | cons next parts =>
      have hrest := ih (by simp) fun p hp => h p (List.mem_cons_of_mem _ hp)
      have hcut : ∀ front : List Char, sep ∉ front →
          split sep (front ++ sep :: join sep (next :: parts)) =
            front :: split sep (join sep (next :: parts)) := by
        intro front hf
        induction front with
        | nil => simp [split]
        | cons c front ihf =>
          simp only [List.mem_cons, not_or] at hf
          simp [split, Ne.symm hf.1, ihf hf.2]
      simp only [join]
      rw [hcut part (h part (by simp)), hrest]

variable {sep c : Char} {cs : List Char} {parts : List (List Char)}

theorem not_mem_of_mem_split {part : List Char} (h : part ∈ split sep cs) : sep ∉ part := by
  induction cs generalizing part with
  | nil =>
    rw [split, List.mem_singleton] at h
    rw [h]
    exact List.not_mem_nil
  | cons c cs ih =>
    rw [split] at h
    by_cases hc : c = sep
    · rw [if_pos hc, List.mem_cons] at h
      obtain rfl | hrest := h
      · exact List.not_mem_nil
      · exact ih hrest
    · rw [if_neg hc] at h
      obtain ⟨first, rest, hsplit⟩ := List.exists_cons_of_ne_nil (split_ne_nil sep cs)
      rw [hsplit] at h ih
      obtain rfl | hrest := List.mem_cons.1 h
      · intro hmem
        obtain heq | hfirst := List.mem_cons.1 hmem
        · exact hc heq.symm
        · exact ih List.mem_cons_self hfirst
      · exact ih (List.mem_cons_of_mem _ hrest)

/-- Parts are found again exactly if none has the character. -/
theorem split_join_iff (hne : parts ≠ []) :
    split sep (join sep parts) = parts ↔ ∀ part ∈ parts, sep ∉ part := by
  constructor
  · intro h part hpart
    rw [← h] at hpart
    exact not_mem_of_mem_split hpart
  · exact split_join hne

theorem join_concat (sep : Char) (parts : List (List Char)) (last : List Char) :
    join sep (parts ++ [last]) = parts.flatMap (· ++ [sep]) ++ last := by
  induction parts with
  | nil => rfl
  | cons part parts ih =>
    have hcons : join sep (part :: (parts ++ [last])) =
        part ++ sep :: join sep (parts ++ [last]) := by
      cases parts <;> rfl
    rw [List.cons_append, hcons, ih, List.flatMap_cons, List.append_assoc, List.append_assoc]
    rfl

theorem getLast?_join_iff (hc : c ≠ sep) (parts : List (List Char)) (last : List Char) :
    (join sep (parts ++ [last])).getLast? = some c ↔ last.getLast? = some c := by
  have hfront : (parts.flatMap (· ++ [sep])).getLast? ≠ some c := by
    obtain rfl | ⟨init, part, rfl⟩ := List.eq_nil_or_concat parts
    · simp
    · rw [List.concat_eq_append, List.flatMap_append, List.flatMap_singleton,
        ← List.append_assoc, List.getLast?_concat]
      exact fun h => hc (Option.some.inj h).symm
  rw [join_concat, List.getLast?_append]
  cases last.getLast? with
  | none => exact iff_of_false hfront nofun
  | some d => rfl

theorem mem_join_iff (hc : c ≠ sep) : c ∈ join sep parts ↔ ∃ part ∈ parts, c ∈ part := by
  obtain rfl | ⟨front, last, rfl⟩ := List.eq_nil_or_concat parts
  · simp [join]
  · rw [List.concat_eq_append, join_concat]
    simp [hc]

end Text
end TickStream
