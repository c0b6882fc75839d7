import Mathlib.Data.List.Forall2
import Mathlib.Logic.Function.Iterate
import TickStream.Proofs.Scan.Advance
/-
Runs of a scanner: the first access, which decodes the metadata, and then record after record.
Main statement: over frames that decode, the scanner gives their records in order, and stands
at the first byte behind them.
-/
namespace TickStream

open Step

theorem Codec.length_of_decode {c : Codec} {f : Bytes} {r : Record} (hd : c.decode f = .ok r) :
    f.length = r.header.recordSize := by
  obtain ⟨body, rfl, hf, -⟩ := Codec.exists_of_decode hd
  exact hf.length_eq

namespace FrameScanner

variable {s t u : FrameScanner} {m : Metadata} {rs : List Record}

/-! ## The first access -/

theorem readHead_ok {size : Nat} {u : Source} (hs : s.phase = .fresh)
    (hr : EStateM.run Metadata.read s.source = .ok (m, size) u) :
    EStateM.run readHead s = .ok m
      { s with source := u, metadata := some m, phase := .streaming, offset := size } := by
  have hread : EStateM.run (guarded readMetadata) s = .ok ()
      { s with source := u, metadata := some m, phase := .streaming, offset := size } := by
    refine run_guarded_ok ?_
    rw [readMetadata, bind_ok (run_intake_ok hr)]
    rfl
  rw [readHead, bind_ok (run_get s)]
  show EStateM.run (if s.phase = .fresh then _ else _) s = _
  rw [if_pos hs, bind_ok hread]
  rfl

theorem readHead_error {e : Error} {u : Source} (hs : s.phase = .fresh)
    (hr : EStateM.run Metadata.read s.source = .error e u) :
    EStateM.run readHead s = .error e { s with source := u, phase := .failed, header := none } := by
  have hread : EStateM.run (guarded readMetadata) s =
      .error e { s with source := u, phase := .failed, header := none } := by
    refine run_guarded_error (t := { s with source := u }) ?_
    rw [readMetadata, bind_error (run_intake_error hr)]
  rw [readHead, bind_ok (run_get s)]
  show EStateM.run (if s.phase = .fresh then _ else _) s = _
  rw [if_pos hs, bind_error hread]

theorem readHead_again (hs : s.phase ≠ .fresh) (hm : s.metadata = some m) :
    EStateM.run readHead s = .ok m s := by
  rw [readHead, bind_ok (run_get s)]
  show EStateM.run (if s.phase = .fresh then _ else _) s = _
  rw [if_neg hs, bind_ok (run_get s), hm]
  rfl

/-- An advance decodes the metadata if nobody has. -/
theorem nextFrame_fresh (hs : s.phase = .fresh) (ht : t.phase = .streaming)
    (hr : EStateM.run readHead s = .ok m t) :
    EStateM.run nextFrame s = EStateM.run nextFrame t := by
  rw [run_nextFrame, hs, run_nextFrame_streaming ht]
  exact bind_ok hr

theorem nextFrame_fresh_error {e : Error} (hs : s.phase = .fresh)
    (hr : EStateM.run readHead s = .error e t) : EStateM.run nextFrame s = .error e t := by
  rw [run_nextFrame, hs]
  exact bind_error hr

/-- A new scanner whose source begins with metadata. -/
theorem opens {source u : Source} {size : Nat} {rest : Bytes}
    (hr : EStateM.run Metadata.read source = .ok (m, size) u) (hu : u.Delivers rest) :
    ∃ s, s.Streams m rest ∧ s.offset = size ∧ s.frames = 0 ∧
      EStateM.run readHead (ofSource source) = .ok m s ∧
      EStateM.run nextFrame (ofSource source) = EStateM.run nextFrame s := by
  have hhead := readHead_ok (s := ofSource source) rfl hr
  exact ⟨_, ⟨rfl, rfl, Bytes.length_zeros capacity, hu⟩, rfl, rfl, hhead,
    nextFrame_fresh rfl rfl hhead⟩

/-! ## Records -/

theorem nextRecord_error {e : Error} (hn : EStateM.run nextFrame s = .error e t) :
    EStateM.run nextRecord s = .error e t := by
  rw [nextRecord, bind_error hn]

theorem nextRecord_end (hn : EStateM.run nextFrame s = .ok false t) :
    EStateM.run nextRecord s = .ok none t := by
  rw [nextRecord, bind_ok hn]
  rfl

/-- Scanners that advance alike give the same record. -/
theorem nextRecord_congr (hn : EStateM.run nextFrame s = EStateM.run nextFrame t) :
    EStateM.run nextRecord s = EStateM.run nextRecord t := by
  rw [nextRecord, EStateM.run_bind, EStateM.run_bind, hn]

theorem nextRecord_nil (hs : s.Streams m []) :
    ∃ t, EStateM.run nextRecord s = .ok none t ∧ s.Ended t := by
  obtain ⟨t, ht, hend⟩ := nextFrame_nil hs
  exact ⟨t, nextRecord_end ht, hend⟩

/-- A frame that decodes is taken off the source and gives its record. -/
theorem nextRecord_of_decode {f rest : Bytes} {r : Record} (hd : m.codec.decode f = .ok r)
    (hs : s.Streams m (f ++ rest)) :
    ∃ t, EStateM.run nextRecord s = .ok (some r) t ∧ s.Took t m r.header f rest := by
  obtain ⟨body, rfl, hf, hbody⟩ := Codec.exists_of_decode hd
  rw [List.append_assoc] at hs
  obtain ⟨t, ht, htook⟩ := nextFrame_framed hf hs
  refine ⟨t, ?_, htook⟩
  have hdecode : t.decodeCurrent = .ok r := by
    rw [decodeCurrent, htook.header, htook.streams.codec]
    show m.codec.decodeBody r.header ((t.scratch.take r.header.recordSize).drop Header.size) = _
    have hbytes : t.scratch.take t.currentSize = r.header.encode ++ body := htook.bytes
    rw [← htook.size, hbytes, Header.drop_encode_append, hbody]
  have hguard : EStateM.run (guarded (ofExcept t.decodeCurrent)) t = .ok r t :=
    run_guarded_ok (run_ofExcept_ok hdecode t)
  rw [nextRecord, bind_ok ht, if_pos rfl, bind_ok (run_get t), bind_ok hguard]
  rfl

/-! ## Runs -/

/-- From `s` on the records `rs` are given one after the other, and then the scanner is `t`. -/
inductive Yields : FrameScanner → List Record → FrameScanner → Prop where
  | nil (s : FrameScanner) : Yields s [] s
  | cons {s t u : FrameScanner} {r : Record} {rs : List Record} :
    EStateM.run nextRecord s = .ok (some r) t → Yields t rs u → Yields s (r :: rs) u

/-- Frames that decode give their records, whatever follows them. -/
theorem yields_of_decode {fs : List Bytes} {rest : Bytes}
    (hd : List.Forall₂ (fun f r => m.codec.decode f = .ok r) fs rs)
    (hs : s.Streams m (fs.flatten ++ rest)) :
    ∃ t, s.Yields rs t ∧ t.Streams m rest ∧ t.offset = s.offset + fs.flatten.length ∧
      t.frames = s.frames + rs.length := by
  induction hd generalizing s with
  | nil => exact ⟨s, .nil s, hs, rfl, rfl⟩
  | @cons f r fs rs hf _ ih =>
    rw [List.flatten_cons, List.append_assoc] at hs
    obtain ⟨t, ht, htook⟩ := nextRecord_of_decode hf hs
    obtain ⟨u, hu, hstreams, hoffset, hframes⟩ := ih htook.streams
    refine ⟨u, .cons ht hu, hstreams, ?_, ?_⟩
    · rw [hoffset, htook.offset, List.flatten_cons, List.length_append,
        Codec.length_of_decode hf, Nat.add_assoc]
    · rw [hframes, htook.frames, List.length_cons]
      omega

theorem nextRecords_succ_some {r : Record} (hr : EStateM.run nextRecord s = .ok (some r) t)
    (n : Nat) : (nextRecords (n + 1) s).1 = .ok r :: (nextRecords n t).1 := by
  rw [nextRecords, Scan.results_succ, hr]
  rfl

theorem nextRecords_succ_none (hr : EStateM.run nextRecord s = .ok none t) (n : Nat) :
    (nextRecords n s).1 = [] := by
  cases n with
  | zero => rfl
  | succ n => rw [nextRecords, Scan.results_succ, hr]

theorem nextRecords_error {e : Error} (hr : EStateM.run nextRecord s = .error e t) (n : Nat) :
    (nextRecords n s).1 = [Except.error e].take n := by
  cases n with
  | zero => rfl
  | succ n => rw [nextRecords, Scan.results_succ, hr, List.take_succ_cons, List.take_nil]

/-- The results of a run are its records, and then those of what is left. -/
theorem Yields.nextRecords (hy : s.Yields rs t) {ending : List (Except Error Record)}
    (ht : ∀ n, (nextRecords n t).1 = ending.take n) (n : Nat) :
    (FrameScanner.nextRecords n s).1 = (rs.map Except.ok ++ ending).take n := by
  induction hy generalizing n with
  | nil s => exact ht n
  | cons hr _ ih =>
    cases n with
    | zero => rfl
    | succ n =>
      rw [nextRecords_succ_some hr, ih ht, List.map_cons, List.cons_append, List.take_succ_cons]

def afterRecord (s : FrameScanner) : FrameScanner :=
  match EStateM.run nextRecord s with
  | .ok _ t => t
  | .error _ t => t

theorem afterRecord_ok {x : Option Record} (hr : EStateM.run nextRecord s = .ok x t) :
    afterRecord s = t := by
  rw [afterRecord, hr]

theorem Yields.iterate (hy : s.Yields rs t) : afterRecord^[rs.length] s = t := by
  induction hy with
  | nil s => rfl
  | cons hr _ ih => rw [List.length_cons, Function.iterate_succ_apply, afterRecord_ok hr, ih]

end FrameScanner
end TickStream
