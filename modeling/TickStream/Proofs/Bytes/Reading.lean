import TickStream.Bytes.Intake
import TickStream.Proofs.TwoRuns
/-
Sources that may fail.  Main statement: what a read gives depends on the bytes that the source
hands out and on how it fails after them, and not on how it cuts them into pieces.
-/
namespace TickStream

open Step

namespace Source

/-- The last bytes of a source, or the failure that comes after them. -/
def ending (bs : Bytes) : Option IoFault → Except IoFault Bytes
  | none => .ok bs
  | some fault => .error fault

/-- The first `n` of the bytes `bs`, or what their end gives if there are fewer. -/
def firstOf (n : Nat) (bs : Bytes) (fault? : Option IoFault) : Except IoFault Bytes :=
  if n ≤ bs.length then .ok (bs.take n) else ending bs fault?

/-- The bytes of `bs` through the first that is `stop`, at most `limit` of them, or what their
end gives if there is no such line. -/
def lineOf (stop : UInt8) (limit : Nat) (bs : Bytes) (fault? : Option IoFault) :
    Except IoFault Bytes :=
  let line := bs.takeWhile (· != stop)
  if limit ≤ line.length then .ok (bs.take limit)
  else if line.length < bs.length then .ok (line ++ [stop])
  else ending bs fault?

theorem ending_append (front bs : Bytes) (fault? : Option IoFault) :
    ending (front ++ bs) fault? = (ending bs fault?).map (front ++ ·) := by
  cases fault? <;> rfl

theorem firstOf_append {n : Nat} {front : Bytes} (h : front.length < n) (bs : Bytes)
    (fault? : Option IoFault) :
    firstOf n (front ++ bs) fault? = (firstOf (n - front.length) bs fault?).map (front ++ ·) := by
  have hall : front.take n = front := List.take_of_length_le (Nat.le_of_lt h)
  rw [firstOf, firstOf, List.length_append]
  by_cases hn : n - front.length ≤ bs.length
  · rw [if_pos hn, if_pos (by omega), List.take_append, hall]
    rfl
  · rw [if_neg hn, if_neg (by omega), ending_append]

theorem readUpTo_fst (n : Nat) (s : Source) :
    (readUpTo n s).1 = firstOf n s.content s.failure := by
  induction s generalizing n with
  | nil => cases n <;> rfl
  | cons d rest ih =>
    cases d with
    | interrupted => exact ih n
    | failed fault => cases n <;> rfl
    | data piece =>
      rw [content, failure]
      by_cases hshort : piece.length < n
      · have hall : piece.take n = piece := List.take_of_length_le (Nat.le_of_lt hshort)
        rw [firstOf_append hshort, ← ih, readUpTo]
        simp only [hall, if_pos hshort]
        cases readUpTo (n - piece.length) rest with
        | mk result left => cases result <;> rfl
      · have hle : n ≤ piece.length := Nat.le_of_not_lt hshort
        have hlen : (piece.take n).length = n := by rw [List.length_take, Nat.min_eq_left hle]
        have hall : n ≤ (piece ++ content rest).length := by rw [List.length_append]; omega
        simp only [readUpTo, hlen, Nat.lt_irrefl, if_false]
        rw [firstOf, if_pos hall, List.take_append_of_le_length hle]

/-- A read that is short has met the end of the stream. -/
theorem readUpTo_eq_ok {n : Nat} {s t : Source} {bs : Bytes} (h : readUpTo n s = (.ok bs, t)) :
    s.content = bs ++ t.content ∧ s.failure = t.failure ∧ bs.length ≤ n ∧
      (bs.length < n → s.content = bs ∧ s.failure = none) := by
  obtain ⟨hcontent, hfailure⟩ := content_readUpTo h
  have hbs : firstOf n s.content s.failure = .ok bs := by rw [← readUpTo_fst, h]
  refine ⟨hcontent, hfailure, ?_⟩
  rw [firstOf] at hbs
  by_cases hn : n ≤ s.content.length
  · rw [if_pos hn] at hbs
    injection hbs with hbs
    have hlen : bs.length = n := by rw [← hbs, List.length_take, Nat.min_eq_left hn]
    exact ⟨Nat.le_of_eq hlen, fun hshort => absurd hlen (Nat.ne_of_lt hshort)⟩
  · rw [if_neg hn] at hbs
    cases hfault : s.failure with
    | some fault =>
      rw [hfault, ending] at hbs
      cases hbs
    | none =>
      rw [hfault, ending] at hbs
      injection hbs with hbs
      rw [← hbs]
      exact ⟨by omega, fun _ => ⟨rfl, rfl⟩⟩

/-- Bytes that are there are read, whatever comes after them. -/
theorem readUpTo_of_le {n : Nat} {s : Source} (h : n ≤ s.content.length) :
    ∃ t, readUpTo n s = (.ok (s.content.take n), t) ∧ t.content = s.content.drop n := by
  have hfst := readUpTo_fst n s
  rw [firstOf, if_pos h] at hfst
  rcases hread : readUpTo n s with ⟨result, t⟩
  rw [hread] at hfst
  have hresult : result = .ok (s.content.take n) := hfst
  subst hresult
  refine ⟨t, rfl, ?_⟩
  have hfront := (content_readUpTo hread).1
  have hsplit : s.content.take n ++ s.content.drop n = s.content.take n ++ t.content := by
    rw [List.take_append_drop, ← hfront]
  exact (List.append_cancel_left hsplit).symm

theorem takeWhile_ne_of_not_mem {stop : UInt8} {front : Bytes} (h : stop ∉ front) (bs : Bytes) :
    (front ++ bs).takeWhile (· != stop) = front ++ bs.takeWhile (· != stop) := by
  refine List.takeWhile_append_of_pos fun b hb => ?_
  rw [bne_iff_ne]
  intro heq
  exact h (heq ▸ hb)

theorem takeWhile_of_not_mem {stop : UInt8} {front : Bytes} (h : stop ∉ front) :
    front.takeWhile (· != stop) = front := by
  have hall := takeWhile_ne_of_not_mem h []
  rwa [List.append_nil, List.takeWhile_nil, List.append_nil] at hall

theorem takeWhile_line {stop : UInt8} {line : Bytes} (h : stop ∉ line) (tail : Bytes) :
    (line ++ stop :: tail).takeWhile (· != stop) = line := by
  rw [takeWhile_ne_of_not_mem h, List.takeWhile_cons_of_neg (by simp), List.append_nil]

theorem lineOf_append {stop : UInt8} {limit : Nat} {front : Bytes} (hstop : stop ∉ front)
    (h : front.length < limit) (bs : Bytes) (fault? : Option IoFault) :
    lineOf stop limit (front ++ bs) fault? =
      (lineOf stop (limit - front.length) bs fault?).map (front ++ ·) := by
  have hall : front.take limit = front := List.take_of_length_le (Nat.le_of_lt h)
  rw [lineOf, lineOf, takeWhile_ne_of_not_mem hstop]
  simp only [List.length_append]
  generalize hline : bs.takeWhile (· != stop) = line
  by_cases hlong : limit - front.length ≤ line.length
  · rw [if_pos hlong, if_pos (by omega), List.take_append, hall]
    rfl
  · rw [if_neg hlong, if_neg (by omega)]
    by_cases hfound : line.length < bs.length
    · rw [if_pos hfound, if_pos (by omega), List.append_assoc]
      rfl
    · rw [if_neg hfound, if_neg (by omega), ending_append]

theorem readUntil_fst (stop : UInt8) (limit : Nat) (s : Source) :
    (readUntil stop limit s).1 = lineOf stop limit s.content s.failure := by
  induction s generalizing limit with
  | nil => cases limit <;> rfl
  | cons d rest ih =>
    cases d with
    | interrupted => exact ih limit
    | failed fault => cases limit <;> rfl
    | data piece =>
      rw [content, failure]
      by_cases hstop : stop ∈ piece
      · obtain ⟨line, tail, rfl, hline⟩ := List.eq_append_cons_of_mem hstop
        have hfound : (line ++ stop :: tail).takeWhile (· != stop) = line :=
          takeWhile_line hline tail
        have hwhole : (line ++ stop :: tail ++ content rest).takeWhile (· != stop) = line := by
          rw [List.append_assoc, List.cons_append]
          exact takeWhile_line hline _
        simp only [readUntil, hfound, List.drop_left]
        rw [lineOf, hwhole]
        by_cases hlim : line.length < limit
        · have hmore : line.length < (line ++ stop :: tail ++ content rest).length := by
            simp only [List.length_append, List.length_cons]
            omega
          rw [if_pos hlim]
          simp only [if_neg (Nat.not_le_of_lt hlim), if_pos hmore]
        · have hle : limit ≤ (line ++ stop :: tail).length := by
            rw [List.length_append]
            omega
          rw [if_neg hlim]
          simp only [if_pos (Nat.le_of_not_lt hlim), List.take_append_of_le_length hle]
      · simp only [readUntil, takeWhile_of_not_mem hstop, List.drop_length]
        by_cases hlim : piece.length < limit
        · rw [lineOf_append hstop hlim, ← ih, if_pos hlim]
          cases readUntil stop (limit - piece.length) rest with
          | mk result left => cases result <;> rfl
        · have hle : limit ≤ piece.length := Nat.le_of_not_lt hlim
          have hlong : limit ≤ (piece ++ (content rest).takeWhile (· != stop)).length := by
            rw [List.length_append]
            omega
          rw [if_neg hlim, lineOf, takeWhile_ne_of_not_mem hstop]
          simp only [if_pos hlong, List.take_append_of_le_length hle]

/-! ## Two sources of the same bytes -/

/-- The sources hand out the same bytes, and then both end or fail in the same way. -/
structure Alike (s t : Source) : Prop where
  content : s.content = t.content
  failure : s.failure = t.failure

theorem Alike.size_eq {s t : Source} (h : s.Alike t) : s.size = t.size :=
  congrArg List.length h.content

/-- The same bytes were read and the sources are still alike, or both failed in the same way. -/
inductive SameRead : Except IoFault Bytes × Source → Except IoFault Bytes × Source → Prop where
  | ok {bs : Bytes} {s t : Source} (h : s.Alike t) : SameRead (.ok bs, s) (.ok bs, t)
  | error {fault : IoFault} {s t : Source} : SameRead (.error fault, s) (.error fault, t)

/-- The reading takes the front of the content off a source, and gives the same of sources that
are alike. -/
structure Faithful (read : Source → Except IoFault Bytes × Source) : Prop where
  front : ∀ {s t : Source} {bs : Bytes}, read s = (.ok bs, t) →
    s.content = bs ++ t.content ∧ s.failure = t.failure
  same : ∀ {s t : Source}, s.Alike t → (read s).1 = (read t).1

theorem faithful_readUpTo (n : Nat) : Faithful (readUpTo n) where
  front := content_readUpTo
  same h := by rw [readUpTo_fst, readUpTo_fst, h.content, h.failure]

theorem faithful_readUntil (stop : UInt8) (limit : Nat) : Faithful (readUntil stop limit) where
  front := content_readUntil
  same h := by rw [readUntil_fst, readUntil_fst, h.content, h.failure]

theorem Faithful.sameRead {read : Source → Except IoFault Bytes × Source} (hread : Faithful read)
    {s t : Source} (h : s.Alike t) : SameRead (read s) (read t) := by
  have hsame := hread.same h
  rcases hs : read s with ⟨got, s'⟩
  rcases ht : read t with ⟨got', t'⟩
  rw [hs, ht] at hsame
  have hgot : got = got' := hsame
  subst hgot
  cases got with
  | error fault => exact .error
  | ok bs =>
    obtain ⟨hcs, hfs⟩ := hread.front hs
    obtain ⟨hct, hft⟩ := hread.front ht
    refine .ok ⟨?_, ?_⟩
    · have hall : bs ++ s'.content = bs ++ t'.content := by rw [← hcs, ← hct, h.content]
      exact List.append_cancel_left hall
    · rw [← hfs, ← hft, h.failure]

end Source

namespace Intake

theorem run_upTo_eq_ok {n : Nat} {s t : Source} {bs : Bytes} :
    EStateM.run (upTo n) s = .ok bs t ↔ Source.readUpTo n s = (.ok bs, t) := by
  show ofRead (Source.readUpTo n) s = .ok bs t ↔ _
  rw [ofRead]
  rcases Source.readUpTo n s with ⟨result, left⟩
  cases result <;> simp

theorem length_of_exactly {n : Nat} {context : String} {offset : Nat} {s t : Source} {bs : Bytes}
    (h : EStateM.run (exactly n context offset) s = .ok bs t) : bs.length = n := by
  obtain ⟨got, u, hread, h⟩ := run_bind_eq_ok.1 h
  have hle := (Source.readUpTo_eq_ok (run_upTo_eq_ok.1 hread)).2.2.1
  by_cases hshort : got.length < n
  · rw [if_pos hshort, run_throw_bind] at h
    cases h
  · rw [if_neg hshort] at h
    injection h with h
    rw [← h]
    omega

/-- After a failure nothing is said of the sources. -/
def Lost (_ _ : Source) : Prop := True

theorem respects_ofRead {read : Source → Except IoFault Bytes × Source}
    (hread : Source.Faithful read) : Respects Source.Alike Source.Alike Lost (ofRead read) := by
  intro s t h
  have hsame := hread.sameRead h
  show Agree Source.Alike Lost (ofRead read s) (ofRead read t)
  rw [ofRead, ofRead]
  generalize read s = out at hsame
  generalize read t = out' at hsame
  cases hsame with
  | ok h => exact .ok h
  | error => exact .error trivial

theorem respects_upTo (n : Nat) : Respects Source.Alike Source.Alike Lost (upTo n) :=
  respects_ofRead (Source.faithful_readUpTo n)

theorem respects_exactly (n : Nat) (context : String) (offset : Nat) :
    Respects Source.Alike Source.Alike Lost (exactly n context offset) := by
  refine (respects_upTo n).bind fun bs => Respects.ite ?_ (respects_pure bs)
  exact (respects_throw _).mono (fun _ _ h => h) fun _ _ _ => trivial

end Intake
end TickStream
