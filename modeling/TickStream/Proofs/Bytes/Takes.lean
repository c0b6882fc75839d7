import TickStream.Bytes.Cursor
import TickStream.Proofs.Bytes.Texts
import TickStream.Proofs.Step
/-
Readers that take exactly given bytes.

`Reader.Takes r bs a` says that `r` takes the bytes `bs` wherever they stand, gives `a`, and
leaves what follows them.  The relation is closed under sequencing, so a reader of a layout is
matched with what was written for it field by field.
-/
namespace TickStream

theorem Word.encode_u8 (v : UInt8) : Word.u8.encode v = [v] := by
  show [UInt8.ofNat v.toNat] = [v]
  rw [UInt8.ofNat_toNat]

namespace Reader

open Step

variable {α β : Type}

/-- `r` takes exactly `bs`, wherever they stand and whatever follows, and gives `a`. -/
def Takes (r : Reader α) (bs : Bytes) (a : α) : Prop :=
  ∀ (rest : Bytes) (offset : Nat),
    EStateM.run r ⟨bs ++ rest, offset⟩ = .ok a ⟨rest, offset + bs.length⟩

theorem takes_pure (a : α) : Takes (pure a) [] a := fun _ _ => rfl

theorem Takes.andThen {r : Reader α} {f : α → Reader β} {bs cs : Bytes} {a : α} {b : β}
    (hr : Takes r bs a) (hf : Takes (f a) cs b) : Takes (r >>= f) (bs ++ cs) b := by
  intro rest offset
  rw [List.append_assoc, bind_ok (hr (cs ++ rest) offset), hf rest, List.length_append,
    Nat.add_assoc]

theorem Takes.giving {r : Reader α} {bs : Bytes} {a : α} (hr : Takes r bs a) (g : α → β) :
    Takes (do return g (← r)) bs (g a) := by
  have h : Takes (do return g (← r)) (bs ++ []) (g a) := hr.andThen (takes_pure (g a))
  rwa [List.append_nil] at h

theorem takes_take {bs : Bytes} {n : Nat} (h : bs.length = n) (context : String) :
    Takes (take n context) bs bs := by
  intro rest offset
  rw [← h]
  exact take_append bs rest offset context

theorem takes_skip {bs : Bytes} {n : Nat} (h : bs.length = n) (context : String) :
    Takes (skip n context) bs () :=
  (takes_take h context).giving fun _ => ()

theorem takes_word (w : Word) (v : w.Val) (context : String) :
    Takes (word w context) (w.encode v) v := by
  have h : Takes (word w context) (w.encode v) (w.decode (w.encode v)) :=
    (takes_take (w.length_encode v) context).giving w.decode
  rwa [w.decode_encode] at h

/-- A reader that looks where it stands, and does not make its result of it. -/
theorem takes_offset {f : Nat → Reader α} {bs : Bytes} {a : α} (h : ∀ n, Takes (f n) bs a) :
    Takes (Reader.offset >>= f) bs a := by
  intro rest offset
  have hstart : EStateM.run Reader.offset ⟨bs ++ rest, offset⟩ =
      .ok offset ⟨bs ++ rest, offset⟩ := rfl
  rw [bind_ok hstart, h offset rest offset]

/-- A field that holds a text, wherever it stands. -/
theorem takes_field {width : Nat} {field : String} {bs : Bytes} {s : String}
    (hlen : bs.length = width) (h : ∀ start, PaddedText.decode field start bs = .ok s) :
    Takes (text width field) bs s := by
  refine takes_offset fun start => ?_
  rw [← List.append_nil bs]
  refine (takes_take hlen field).andThen ?_
  rw [h start]
  exact takes_pure s

/-- What was written for a text without a zero reads as that text. -/
theorem takes_text {written : String} {width : Nat} {s : String} {bs : Bytes}
    (h : PaddedText.encode written width s = .ok bs) (hs : Text.ZeroFree s) (field : String) :
    Takes (text width field) bs s :=
  takes_field (PaddedText.length_encode h) (PaddedText.decode_encode h hs field)

/-! ## What was there to be read -/

theorem take_eq_ok {n : Nat} {context : String} {c c' : Cursor} {bs : Bytes}
    (h : EStateM.run (take n context) c = .ok bs c') :
    c.rest = bs ++ c'.rest ∧ bs.length = n := by
  have h : (if (c.rest.take n).length < n then
      EStateM.Result.error (Error.truncated context c.offset n (c.rest.take n).length) c
    else .ok (c.rest.take n) ⟨c.rest.drop n, c.offset + n⟩) = .ok bs c' := h
  split at h
  · exact absurd h (by simp)
  · rename_i hn
    injection h with hbs hc
    rw [← hbs, ← hc, List.take_append_drop]
    exact ⟨rfl, by rw [List.length_take] at hn ⊢; omega⟩

/-- The bytes that a number was read from are the bytes that are written for it. -/
theorem word_eq_ok {w : Word} {context : String} {c c' : Cursor} {v : w.Val}
    (h : EStateM.run (word w context) c = .ok v c') : c.rest = w.encode v ++ c'.rest := by
  obtain ⟨bs, t, ht, hv⟩ := run_bind_eq_ok.1 h
  obtain ⟨hbs, hlen⟩ := take_eq_ok ht
  injection hv with hv hc
  rw [hbs, ← hv, ← hc, w.encode_decode bs hlen]

/-- All that `r` reads are the next `n` bytes: what it gives, it gives whatever follows them. -/
def Spans (r : Reader α) (n : Nat) : Prop :=
  ∀ ⦃c c' : Cursor⦄ ⦃a : α⦄, EStateM.run r c = .ok a c' →
    ∃ bs, bs.length = n ∧ c.rest = bs ++ c'.rest ∧ Takes r bs a

theorem spans_pure (a : α) : Spans (pure a) 0 := by
  intro c c' b h
  injection h with ha hc
  rw [← ha, ← hc]
  exact ⟨[], rfl, rfl, takes_pure a⟩

theorem Spans.andThen {r : Reader α} {f : α → Reader β} {n m : Nat} (hr : Spans r n)
    (hf : ∀ a, Spans (f a) m) : Spans (r >>= f) (n + m) := by
  intro c c' b h
  obtain ⟨a, t, ha, hb⟩ := run_bind_eq_ok.1 h
  obtain ⟨xs, hxs, hrest, hx⟩ := hr ha
  obtain ⟨ys, hys, hrest', hy⟩ := hf a hb
  refine ⟨xs ++ ys, ?_, ?_, hx.andThen hy⟩
  · rw [List.length_append, hxs, hys]
  · rw [hrest, hrest', List.append_assoc]

theorem Spans.giving {r : Reader α} {n : Nat} (hr : Spans r n) (g : α → β) :
    Spans (do return g (← r)) n := hr.andThen fun a => spans_pure (g a)

theorem spans_take (n : Nat) (context : String) : Spans (take n context) n := by
  intro c c' bs h
  obtain ⟨hrest, hlen⟩ := take_eq_ok h
  have hbs : bs = c.rest.take n := by rw [hrest, ← hlen, List.take_left]
  exact ⟨bs, hlen, hrest, takes_take hlen context⟩

theorem spans_skip (n : Nat) (context : String) : Spans (skip n context) n :=
  (spans_take n context).giving fun _ => ()

theorem spans_word (w : Word) (context : String) : Spans (word w context) w.width :=
  (spans_take w.width context).giving w.decode

theorem spans_text (n : Nat) (field : String) : Spans (text n field) n := by
  intro c c' s h
  obtain ⟨start, t, hstart, h⟩ := run_bind_eq_ok.1 h
  injection hstart with _ hc
  rw [← hc] at h
  obtain ⟨bs, u, hbs, h⟩ := run_bind_eq_ok.1 h
  obtain ⟨hrest, hlen⟩ := take_eq_ok hbs
  split at h
  · rename_i s' hdecode
    injection h with hs hc'
    rw [hs] at hdecode
    rw [← hc']
    exact ⟨bs, hlen, hrest, takes_field hlen (PaddedText.decode_anywhere hdecode)⟩
  · injection h

/-- What was read from the front of `bs ++ rest` is read from `bs`. -/
theorem Spans.takes {r : Reader α} {n : Nat} (hr : Spans r n) {bs rest : Bytes} {offset : Nat}
    {a : α} (hlen : bs.length = n) (h : Reader.run r (bs ++ rest) offset = .ok a) :
    Takes r bs a := by
  obtain ⟨c', hrun⟩ := run_eq_ok.1 h
  obtain ⟨xs, hxs, hrest, hx⟩ := hr hrun
  obtain ⟨hbs, -⟩ := List.append_inj hrest (by rw [hlen, hxs])
  rw [hbs]
  exact hx

theorem Takes.run_eq {r : Reader α} {bs : Bytes} {a : α} (h : Takes r bs a) (rest : Bytes)
    (offset : Nat) : Reader.run r (bs ++ rest) offset = .ok a := by
  rw [Reader.run, h rest offset]

/-- The bytes that a reader takes give one value. -/
theorem Takes.value_eq {r : Reader α} {bs : Bytes} {a b : α} (ha : Takes r bs a)
    (hb : Takes r bs b) : a = b := by
  have hread := ha.run_eq [] 0
  rw [hb.run_eq [] 0] at hread
  injection hread with hread
  exact hread.symm

end Reader

/-! ## Entries that a reader takes -/

namespace Entry

variable {α β : Type}

theorem encodeAll_cons {e : Entry} {es : List Entry} {bs : Bytes} :
    encodeAll (e :: es) = .ok bs ↔
      ∃ front back, e.encode = .ok front ∧ encodeAll es = .ok back ∧ bs = front ++ back := by
  rw [encodeAll]
  exact Step.append_eq_ok

theorem encodeAll_append {es fs : List Entry} {bs : Bytes} :
    encodeAll (es ++ fs) = .ok bs ↔
      ∃ front back, encodeAll es = .ok front ∧ encodeAll fs = .ok back ∧ bs = front ++ back := by
  induction es generalizing bs with
  | nil => simp [encodeAll]
  | cons e es ih =>
    rw [List.cons_append, encodeAll_cons]
    constructor
    · rintro ⟨x, yz, hx, hyz, rfl⟩
      obtain ⟨y, z, hy, hz, rfl⟩ := ih.1 hyz
      exact ⟨x ++ y, z, encodeAll_cons.2 ⟨x, y, hx, hy, rfl⟩, hz, by rw [List.append_assoc]⟩
    · rintro ⟨xy, z, hxy, hz, rfl⟩
      obtain ⟨x, y, hx, hy, rfl⟩ := encodeAll_cons.1 hxy
      exact ⟨x, y ++ z, hx, ih.2 ⟨y, z, hy, hz, rfl⟩, by rw [List.append_assoc]⟩

/-- Whatever is written for `es`, `r` takes it and gives `a`.  The bytes are few enough to be
counted in 32 bits, and so is every list among them. -/
def ReadBy (es : List Entry) (r : Reader α) (a : α) : Prop :=
  ∀ bs, encodeAll es = .ok bs → bs.length < UInt32.size → Reader.Takes r bs a

theorem readBy_nil (a : α) : ReadBy [] (pure a) a := by
  intro bs h _
  injection h with h
  rw [← h]
  exact Reader.takes_pure a

theorem ReadBy.append {x y : List Entry} {r : Reader α} {f : α → Reader β} {a : α} {b : β}
    (hr : ReadBy x r a) (hf : ReadBy y (f a) b) : ReadBy (x ++ y) (r >>= f) b := by
  intro bs h hlen
  obtain ⟨front, back, hfront, hback, rfl⟩ := encodeAll_append.1 h
  rw [List.length_append] at hlen
  exact (hr front hfront (by omega)).andThen (hf back hback (by omega))

/-- A reader that makes its result of another one's. -/
theorem ReadBy.giving {es : List Entry} {r : Reader α} {a : α} (hr : ReadBy es r a) (g : α → β) :
    ReadBy es (do return g (← r)) (g a) := fun bs h hlen => (hr bs h hlen).giving g

theorem readBy_one {e : Entry} {r : Reader α} {a : α}
    (h : ∀ bs, e.encode = .ok bs → Reader.Takes r bs a) : ReadBy [e] r a := by
  intro bs hbs _
  obtain ⟨front, back, hfront, hback, rfl⟩ := encodeAll_cons.1 hbs
  injection hback with hback
  rw [← hback, List.append_nil]
  exact h front hfront

theorem readBy_word (w : Word) (v : w.Val) (context : String) :
    ReadBy [.word w v] (Reader.word w context) v := by
  refine readBy_one fun bs h => ?_
  injection h with h
  rw [← h]
  exact Reader.takes_word w v context

theorem readBy_skip_word (w : Word) (v : w.Val) (context : String) :
    ReadBy [.word w v] (Reader.skip w.width context) () := by
  refine readBy_one fun bs h => ?_
  injection h with h
  exact Reader.takes_skip (by rw [← h, w.length_encode]) context

theorem readBy_skip_zeros (n : Nat) (context : String) :
    ReadBy [.zeros n] (Reader.skip n context) () := by
  refine readBy_one fun bs h => ?_
  injection h with h
  exact Reader.takes_skip (by rw [← h, Bytes.length_zeros]) context

theorem readBy_text {s : String} (hs : Text.ZeroFree s) (written : String) (width : Nat)
    (field : String) : ReadBy [.text written width s] (Reader.text width field) s :=
  readBy_one fun _ h => Reader.takes_text h hs field

/-! ## Lists -/

/-- A reader for each item, one after the other. -/
theorem readBy_times {es : β → List Entry} {r : Reader β} {items : List β}
    (h : ∀ x ∈ items, ReadBy (es x) r x) :
    ReadBy (items.flatMap es) (Reader.times items.length r) items := by
  induction items with
  | nil => exact readBy_nil []
  | cons x items ih =>
    have hx : ReadBy (es x) r x := h x List.mem_cons_self
    have hrest := ih fun y hy => h y (List.mem_cons_of_mem x hy)
    rw [List.flatMap_cons, List.length_cons, Reader.times]
    exact hx.append (hrest.giving (x :: ·))

/-- A list of items that all have bytes is not longer than its bytes. -/
theorem length_le_length_encodeAll {es : β → List Entry} {items : List β} {bs : Bytes}
    (hne : ∀ x ∈ items, ∀ xs, encodeAll (es x) = .ok xs → 0 < xs.length)
    (h : encodeAll (items.flatMap es) = .ok bs) : items.length ≤ bs.length := by
  induction items generalizing bs with
  | nil => exact Nat.zero_le _
  | cons x items ih =>
    obtain ⟨front, back, hfront, hback, rfl⟩ := encodeAll_append.1 h
    have hx := hne x List.mem_cons_self front hfront
    have hrest := ih (fun y hy => hne y (List.mem_cons_of_mem x hy)) hback
    rw [List.length_cons, List.length_append]
    omega

end Entry
end TickStream
