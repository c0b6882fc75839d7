import TickStream.Bytes.Word
/-
Bytes cut into pieces of one length.
-/
namespace TickStream
namespace Bytes

/-- The bytes in pieces of `n`; the last piece may be shorter. -/
def pieces (n : Nat) (bs : Bytes) : List Bytes :=
  if n = 0 || bs.isEmpty then [] else bs.take n :: pieces n (bs.drop n)
termination_by bs.length
decreasing_by
  rename_i h
  cases bs with
  | nil => simp at h
  | cons b bs => simp at h; simp; omega

/-- The pieces make up the bytes. -/
theorem flatten_pieces {n : Nat} (hn : 0 < n) (bs : Bytes) : (pieces n bs).flatten = bs := by
  induction h : bs.length using Nat.strongRecOn generalizing bs with
  | ind len ih =>
    unfold pieces
    cases bs with
    | nil => simp
    | cons b bs =>
      subst h
      have hlt : ((b :: bs).drop n).length < (b :: bs).length := by simp; omega
      have hz : ¬ n = 0 := by omega
      simp [hz, ih _ hlt _ rfl]

end Bytes
end TickStream
