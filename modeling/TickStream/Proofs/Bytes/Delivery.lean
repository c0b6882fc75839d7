import TickStream.Bytes.Intake
import TickStream.Proofs.Step
/-
Sources that do not fail.  Main statement: what is read of such a source is the front of its
bytes, however it hands them out, and only the end of the stream makes a read short.
-/
namespace TickStream

open Step

namespace Source

/-- The source hands out `bs`, in pieces of whatever sizes and with whatever interruptions, and
then ends. -/
structure Delivers (s : Source) (bs : Bytes) : Prop where
  content : s.content = bs
  failure : s.failure = none

theorem delivers_ofBytes (bs : Bytes) : (ofBytes bs).Delivers bs := ⟨List.append_nil bs, rfl⟩

theorem readUpTo_of_delivers {s : Source} {bs : Bytes} (h : s.Delivers bs) (n : Nat) :
    ∃ t, readUpTo n s = (.ok (bs.take n), t) ∧ t.Delivers (bs.drop n) := by
  obtain ⟨hbs, hfail⟩ := h
  induction s generalizing bs n with
  | nil =>
    refine ⟨[], ?_, ?_⟩
    · rw [readUpTo, ← hbs, content, List.take_nil]
    · rw [← hbs, content, List.drop_nil]
      exact ⟨rfl, rfl⟩
  | cons d rest ih =>
    cases d with
    | interrupted => exact ih n hbs hfail
    | failed fault => exact absurd hfail (by simp [failure])
    | data piece =>
      rw [content] at hbs
      rw [failure] at hfail
      by_cases hshort : piece.length < n
      · -- The piece is used up, and the rest of the source gives what is missing.
        have hall : piece.take n = piece := List.take_of_length_le (Nat.le_of_lt hshort)
        obtain ⟨t, ht, hleft⟩ := ih (n - piece.length) rfl hfail
        refine ⟨t, ?_, ?_⟩
        · simp only [readUpTo, hall, if_pos hshort, ht]
          rw [← hbs, List.take_append, hall]
        · rw [← hbs, List.drop_append, List.drop_of_length_le (Nat.le_of_lt hshort),
            List.nil_append]
          exact hleft
      · have hle : n ≤ piece.length := Nat.le_of_not_lt hshort
        have hlen : (piece.take n).length = n := by rw [List.length_take, Nat.min_eq_left hle]
        refine ⟨.data (piece.drop n) :: rest, ?_, ?_, hfail⟩
        · simp only [readUpTo, hlen, Nat.lt_irrefl, if_false]
          rw [← hbs, List.take_append_of_le_length hle]
        · rw [← hbs, content, List.drop_append_of_le_length hle]

end Source

namespace Intake

variable {s : Source} {bs : Bytes}

theorem upTo_of_delivers (h : s.Delivers bs) (n : Nat) :
    ∃ t, EStateM.run (upTo n) s = .ok (bs.take n) t ∧ t.Delivers (bs.drop n) := by
  obtain ⟨t, ht, hleft⟩ := Source.readUpTo_of_delivers h n
  refine ⟨t, ?_, hleft⟩
  show ofRead (Source.readUpTo n) s = _
  simp only [ofRead, ht]

/-- Bytes that are there are taken. -/
theorem exactly_of_delivers {n : Nat} (h : s.Delivers bs) (hn : n ≤ bs.length)
    (context : String) (offset : Nat) :
    ∃ t, EStateM.run (exactly n context offset) s = .ok (bs.take n) t ∧
      t.Delivers (bs.drop n) := by
  obtain ⟨t, ht, hleft⟩ := upTo_of_delivers h n
  have hlen : (bs.take n).length = n := by rw [List.length_take, Nat.min_eq_left hn]
  refine ⟨t, ?_, hleft⟩
  rw [exactly, bind_ok ht, if_neg (by omega)]
  rfl

/-- Bytes that are not all there are reported as cut off. -/
theorem exactly_short {n : Nat} (h : s.Delivers bs) (hn : bs.length < n)
    (context : String) (offset : Nat) :
    ∃ t, EStateM.run (exactly n context offset) s =
      .error (.truncated context offset n bs.length) t := by
  obtain ⟨t, ht, -⟩ := upTo_of_delivers h n
  have hall : bs.take n = bs := List.take_of_length_le (Nat.le_of_lt hn)
  refine ⟨t, ?_⟩
  rw [exactly, bind_ok ht, hall, if_pos hn]
  rfl

theorem exactly_eq_ok {n : Nat} {context : String} {offset : Nat} {got : Bytes} {t : Source}
    (h : s.Delivers bs) (hx : EStateM.run (exactly n context offset) s = .ok got t) :
    n ≤ bs.length ∧ got = bs.take n ∧ t.Delivers (bs.drop n) := by
  by_cases hn : n ≤ bs.length
  · obtain ⟨u, hu, hleft⟩ := exactly_of_delivers h hn context offset
    rw [hu] at hx
    injection hx with hgot ht
    rw [← hgot, ← ht]
    exact ⟨hn, rfl, hleft⟩
  · obtain ⟨u, hu⟩ := exactly_short h (Nat.lt_of_not_le hn) context offset
    rw [hu] at hx
    exact absurd hx (by simp)

end Intake
end TickStream
