import TickStream.Proofs.Bytes.Entries
/-
What is known of the result of a reader that succeeds, and of the number of bytes it took.

`Reader.Covers r Q` says that `Q` holds of them.  Like `Takes`, the relation is closed under
sequencing, but it starts from what was read and not from what was written.
-/
namespace TickStream

open Step

namespace Bytes

theorem zero_mem_ofString {s : String} (hmem : '\x00' ∈ s.toList) :
    (0 : UInt8) ∈ ofString s := by
  have hbyte : (0 : UInt8) ∈ String.utf8EncodeChar '\x00' := by decide
  rw [ofString_eq, List.mem_flatMap]
  exact ⟨'\x00', hmem, hbyte⟩

end Bytes

namespace PaddedText

variable {field : String} {offset : Nat} {bs : Bytes} {s : String}

theorem ne_zero_of_mem_content {b : UInt8} (h : b ∈ content bs) : b ≠ 0 := by
  have hne := List.all_eq_true.1 List.all_takeWhile b h
  simpa using hne

theorem ofString_of_decode (h : decode field offset bs = .ok s) :
    Bytes.ofString s = content bs := by
  rw [decode] at h
  split at h
  · exact absurd h (by simp)
  · split at h
    · rename_i t ht
      injection h with h
      rw [← h]
      exact (Bytes.toString?_eq_some_iff.1 ht).symm
    · exact absurd h (by simp)

/-- The first zero ends a text, so none is part of it. -/
theorem zeroFree_of_decode (h : decode field offset bs = .ok s) : Text.ZeroFree s := by
  intro hzero
  have hmem := Bytes.zero_mem_ofString hzero
  rw [ofString_of_decode h] at hmem
  exact ne_zero_of_mem_content hmem rfl

/-- A field that decodes is its text, filled up with zeros. -/
theorem eq_of_decode (h : decode field offset bs = .ok s) :
    bs = Bytes.ofString s ++ Bytes.zeros (bs.length - (Bytes.ofString s).length) := by
  have htext := ofString_of_decode h
  have hpadding : ∀ b ∈ padding bs, b = 0 := by
    intro b hb
    rw [decode] at h
    split at h
    · cases h
    · rename_i hnone
      simpa using List.findIdx?_eq_none_iff.1 hnone b hb
  have hsplit := content_append_padding bs
  have hlen : bs.length - (content bs).length = (padding bs).length := by
    rw [← hsplit, List.length_append, hsplit]
    omega
  rw [htext, hlen, Bytes.zeros, ← List.eq_replicate_of_mem hpadding]
  exact hsplit.symm

theorem length_le_of_decode (h : decode field offset bs = .ok s) :
    (Bytes.ofString s).length ≤ bs.length := by
  have hlen := congrArg List.length (content_append_padding bs)
  rw [List.length_append] at hlen
  rw [ofString_of_decode h]
  omega

end PaddedText

namespace Reader

variable {α β : Type}

/-- If `r` gives `a` and takes `n` bytes, then `Q a n`. -/
def Covers (r : Reader α) (Q : α → Nat → Prop) : Prop :=
  ∀ ⦃c c' : Cursor⦄ ⦃a : α⦄, EStateM.run r c = .ok a c' →
    ∃ n, c.rest.length = n + c'.rest.length ∧ Q a n

theorem covers_pure {Q : α → Nat → Prop} {a : α} (h : Q a 0) : Covers (pure a) Q := by
  intro c c' b hr
  injection hr with ha hc
  rw [← ha, ← hc]
  exact ⟨0, (Nat.zero_add _).symm, h⟩

theorem covers_throw {Q : α → Nat → Prop} (e : Error) : Covers (throw e) Q := by
  intro c c' b hr
  injection hr

theorem Covers.bind {r : Reader α} {f : α → Reader β} {Q : α → Nat → Prop}
    {R : β → Nat → Prop} (hr : Covers r Q)
    (hf : ∀ a n, Q a n → Covers (f a) fun b k => R b (n + k)) : Covers (r >>= f) R := by
  intro c c' b h
  obtain ⟨a, t, ha, hb⟩ := run_bind_eq_ok.1 h
  obtain ⟨n, hn, hq⟩ := hr ha
  obtain ⟨k, hk, hR⟩ := hf a n hq hb
  exact ⟨n + k, by rw [hn, hk, Nat.add_assoc], hR⟩

theorem Covers.mono {r : Reader α} {Q R : α → Nat → Prop} (hr : Covers r Q)
    (h : ∀ a n, Q a n → R a n) : Covers r R := by
  intro c c' a hrun
  obtain ⟨n, hn, hq⟩ := hr hrun
  exact ⟨n, hn, h a n hq⟩

/-- What a reader gives of bytes that are all there are. -/
theorem Covers.of_run {r : Reader α} {Q : α → Nat → Prop} (hr : Covers r Q) {bs : Bytes}
    {offset : Nat} {a : α} (h : Reader.run r bs offset = .ok a) : ∃ n, Q a n := by
  obtain ⟨c', hrun⟩ := run_eq_ok.1 h
  obtain ⟨n, -, hq⟩ := hr hrun
  exact ⟨n, hq⟩

theorem covers_offset : Covers Reader.offset fun _ n => n = 0 := by
  intro c c' a hr
  injection hr with _ hc
  rw [← hc]
  exact ⟨0, (Nat.zero_add _).symm, rfl⟩

theorem Spans.covers {r : Reader α} {n : Nat} (hr : Spans r n) : Covers r fun _ k => k = n := by
  intro c c' a h
  obtain ⟨bs, hlen, hrest, -⟩ := hr h
  exact ⟨n, by rw [hrest, List.length_append, hlen], rfl⟩

def HeldIn (width : Nat) (s : String) : Prop :=
  Text.ZeroFree s ∧ (Bytes.ofString s).length ≤ width

theorem covers_text (width : Nat) (field : String) :
    Covers (text width field) fun s n => n = width ∧ HeldIn width s := by
  refine covers_offset.bind fun start n hn => ?_
  intro c c' s h
  obtain ⟨bs, t, hbs, h⟩ := run_bind_eq_ok.1 h
  obtain ⟨hrest, hlen⟩ := take_eq_ok hbs
  split at h
  · rename_i s' hdecode
    injection h with hs hc
    refine ⟨width, ?_, by omega, ?_⟩
    · rw [hrest, List.length_append, hlen, hc]
    · rw [← hs, HeldIn, ← hlen]
      exact ⟨PaddedText.zeroFree_of_decode hdecode, PaddedText.length_le_of_decode hdecode⟩
  · injection h

/-- Things that are read one after the other, each from as many bytes as are written for it. -/
theorem covers_times {r : Reader α} {P : α → Prop} {f : α → List Entry}
    (hr : Covers r fun a n => n = Entry.widthAll (f a) ∧ P a) (k : Nat) :
    Covers (times k r) fun as n => n = Entry.widthAll (as.flatMap f) ∧ ∀ a ∈ as, P a := by
  induction k with
  | zero => exact covers_pure ⟨rfl, fun a ha => absurd ha List.not_mem_nil⟩
  | succ k ih =>
    refine hr.bind fun a n ha => ih.bind fun as m has => covers_pure ⟨?_, ?_⟩
    · rw [List.flatMap_cons, Entry.widthAll_append]
      omega
    · exact List.forall_mem_cons.2 ⟨ha.2, has.2⟩

end Reader
end TickStream
