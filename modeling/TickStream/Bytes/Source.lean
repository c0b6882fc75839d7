import TickStream.Bytes.Pieces
import TickStream.Error
/-
Byte sources: a stream as it is delivered, piece by piece, with interruptions and at
most one failure.  How a stream is cut into pieces must not show in what is read from
it; `content` and `failure` are what may show.
-/
namespace TickStream

/-- What one read of a source meets. -/
inductive Delivery where
  /-- Bytes, of which a read takes as many as it asks for. -/
  | data (bs : Bytes)
  /-- Nothing yet: the read is to be tried again. -/
  | interrupted
  | failed (fault : IoFault)
  deriving DecidableEq, Repr

/-- What a source still has to deliver.  After the last delivery the stream is at its
end. -/
abbrev Source := List Delivery

namespace Source

def content : Source → Bytes
  | [] => []
  | .data bs :: rest => bs ++ content rest
  | .interrupted :: rest => content rest
  | .failed _ :: _ => []

def failure : Source → Option IoFault
  | [] => none
  | .data _ :: rest => failure rest
  | .interrupted :: rest => failure rest
  | .failed fault :: _ => some fault

def size (s : Source) : Nat := s.content.length

/-- Up to `n` bytes: fewer only at the end of the stream.  Interrupted reads are tried
again.  A failure gives up what was read before it. -/
def readUpTo (n : Nat) : Source → Except IoFault Bytes × Source
  | [] => (.ok [], [])
  | .interrupted :: rest => readUpTo n rest
  | .failed fault :: rest => if n = 0 then (.ok [], .failed fault :: rest) else (.error fault, rest)
  | .data bs :: rest =>
    let got := bs.take n
    if got.length < n then
      match readUpTo (n - got.length) rest with
      | (.ok more, left) => (.ok (got ++ more), left)
      | (.error fault, left) => (.error fault, left)
    else (.ok got, .data (bs.drop n) :: rest)

/-- The bytes up to and including the first one that is `stop`, at most `limit` of them.
Fewer only at the end of the stream. -/
def readUntil (stop : UInt8) (limit : Nat) : Source → Except IoFault Bytes × Source
  | [] => (.ok [], [])
  | .interrupted :: rest => readUntil stop limit rest
  | .failed fault :: rest =>
    if limit = 0 then (.ok [], .failed fault :: rest) else (.error fault, rest)
  | .data bs :: rest =>
    let line := bs.takeWhile (· != stop)
    match bs.drop line.length with
    | _ :: tail =>
      if line.length < limit then (.ok (line ++ [stop]), .data tail :: rest)
      else (.ok (bs.take limit), .data (bs.drop limit) :: rest)
    | [] =>
      if line.length < limit then
        match readUntil stop (limit - line.length) rest with
        | (.ok more, left) => (.ok (line ++ more), left)
        | (.error fault, left) => (.error fault, left)
      else (.ok (bs.take limit), .data (bs.drop limit) :: rest)

/-- What has been delivered already, of a source whose first delivery is held in a buffer. -/
def buffered : Source → Source
  | .data bs :: _ => [.data bs]
  | _ => []

/-- The bytes that one read of a file or a network brings at most. -/
def bufferSize : Nat := 16384

def ofBytes (bs : Bytes) : Source := [.data bs]

/-- A source that hands out at most `n` bytes a read, with an interruption before every
read if asked for, and a failure at its end if there is one. -/
def scheduled (bs : Bytes) (n : Nat) (interrupt : Bool) (fault : Option IoFault) : Source :=
  let read (piece : Bytes) : List Delivery :=
    if interrupt then [.interrupted, .data piece] else [.data piece]
  (bs.pieces n).flatMap read ++ (if interrupt then [.interrupted] else []) ++
    (fault.map Delivery.failed).toList

/-! ## What is read is the front of the content -/

theorem content_readUpTo {n : Nat} {s t : Source} {bs : Bytes}
    (h : readUpTo n s = (.ok bs, t)) : s.content = bs ++ t.content ∧ s.failure = t.failure := by
  induction s generalizing n bs with
  | nil =>
    simp only [readUpTo, Prod.mk.injEq, Except.ok.injEq] at h
    obtain ⟨rfl, rfl⟩ := h
    exact ⟨rfl, rfl⟩
  | cons d rest ih =>
    cases d with
    | interrupted => exact ih (by simpa [readUpTo] using h)
    | failed fault =>
      simp only [readUpTo] at h
      split at h
      · simp only [Prod.mk.injEq, Except.ok.injEq] at h
        obtain ⟨rfl, rfl⟩ := h
        exact ⟨rfl, rfl⟩
      · simp at h
    | data piece =>
      simp only [readUpTo] at h
      split at h
      · rename_i hlt
        have hall : piece.take n = piece := by
          apply List.take_of_length_le
          simp only [List.length_take] at hlt
          omega
        rw [hall] at h
        split at h
        · rename_i more left heq
          simp only [Prod.mk.injEq, Except.ok.injEq] at h
          obtain ⟨rfl, rfl⟩ := h
          have := ih heq
          exact ⟨by simp [content, this.1], by simpa [failure] using this.2⟩
        · simp at h
      · simp only [Prod.mk.injEq, Except.ok.injEq] at h
        obtain ⟨rfl, rfl⟩ := h
        exact ⟨by simp [content, ← List.append_assoc], rfl⟩

theorem content_readUntil {stop : UInt8} {limit : Nat} {s t : Source} {bs : Bytes}
    (h : readUntil stop limit s = (.ok bs, t)) :
    s.content = bs ++ t.content ∧ s.failure = t.failure := by
  induction s generalizing limit bs with
  | nil =>
    simp only [readUntil, Prod.mk.injEq, Except.ok.injEq] at h
    obtain ⟨rfl, rfl⟩ := h
    exact ⟨rfl, rfl⟩
  | cons d rest ih =>
    cases d with
    | interrupted => exact ih (by simpa [readUntil] using h)
    | failed fault =>
      simp only [readUntil] at h
      split at h
      · simp only [Prod.mk.injEq, Except.ok.injEq] at h
        obtain ⟨rfl, rfl⟩ := h
        exact ⟨rfl, rfl⟩
      · simp at h
    | data piece =>
      have hcut : ∀ k, content (.data piece :: rest) =
          piece.take k ++ content (.data (piece.drop k) :: rest) := by
        intro k
        simp [content, ← List.append_assoc]
      have hfront : piece.takeWhile (· != stop) ++ piece.dropWhile (· != stop) = piece :=
        List.takeWhile_append_dropWhile
      have hdrop : piece.drop (piece.takeWhile (· != stop)).length =
          piece.dropWhile (· != stop) := by
        have (a b : Bytes) : (a ++ b).drop a.length = b := List.drop_left
        have := this (piece.takeWhile (· != stop)) (piece.dropWhile (· != stop))
        rwa [hfront] at this
      simp only [readUntil, hdrop] at h
      split at h
      · rename_i b tail heq
        have hb : b = stop := by
          have := List.head_dropWhile_not (· != stop) (by rw [heq]; simp : piece.dropWhile _ ≠ [])
          simpa [heq] using this
        split at h
        · simp only [Prod.mk.injEq, Except.ok.injEq] at h
          obtain ⟨rfl, rfl⟩ := h
          refine ⟨?_, rfl⟩
          rw [heq, hb] at hfront
          simp only [content]
          conv => lhs; rw [← hfront]
          simp
        · simp only [Prod.mk.injEq, Except.ok.injEq] at h
          obtain ⟨rfl, rfl⟩ := h
          exact ⟨hcut limit, rfl⟩
      · rename_i heq
        rw [heq, List.append_nil] at hfront
        split at h
        · split at h
          · rename_i more left hrest
            simp only [Prod.mk.injEq, Except.ok.injEq] at h
            obtain ⟨rfl, rfl⟩ := h
            have := ih hrest
            exact ⟨by simp [content, this.1, hfront], by simpa [failure] using this.2⟩
          · simp at h
        · simp only [Prod.mk.injEq, Except.ok.injEq] at h
          obtain ⟨rfl, rfl⟩ := h
          exact ⟨hcut limit, rfl⟩

/-- A line read off a source leaves less of it. -/
theorem size_readUntil {stop : UInt8} {limit : Nat} {s t : Source} {b : UInt8} {bs : Bytes}
    (h : readUntil stop limit s = (.ok (b :: bs), t)) : t.size < s.size := by
  have front := (content_readUntil h).1
  simp only [size, front, List.length_append, List.length_cons]
  omega

end Source
end TickStream
