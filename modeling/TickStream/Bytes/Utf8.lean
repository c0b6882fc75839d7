import TickStream.Bytes.Word
/-
Texts as bytes.
-/
namespace TickStream
namespace Bytes

def ofString (s : String) : Bytes := s.toByteArray.data.toList

def toString? (bs : Bytes) : Option String := String.fromUTF8? ⟨bs.toArray⟩

theorem toString?_eq_some_iff {bs : Bytes} {s : String} :
    toString? bs = some s ↔ bs = ofString s := by
  constructor
  · intro h
    simp only [toString?, String.fromUTF8?] at h
    split at h
    · injection h with h
      subst h
      simp [ofString, String.fromUTF8]
    · simp at h
  · intro h
    subst h
    have hv := s.isValidUTF8
    simp only [toString?, ofString, String.fromUTF8?, Array.toArray_toList]
    exact dif_pos hv

@[simp] theorem toString?_ofString (s : String) : toString? (ofString s) = some s :=
  toString?_eq_some_iff.2 rfl

def hex (bs : Bytes) : String :=
  String.ofList (bs.flatMap fun b =>
    [Nat.digitChar (b.toNat / 16), Nat.digitChar (b.toNat % 16)])

end Bytes
end TickStream
