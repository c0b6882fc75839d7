import TickStream.Proofs.Scan.FrameDeliveries
import TickStream.Proofs.Scan.LineDeliveries
/-
Everything that callers can do with scanners.  Main statement: what they get does not depend on
how the source delivers its bytes, whatever they do and wherever the source fails.
-/
namespace TickStream

open Step Scan

/-! ## Schedules -/

/-- The source hands out `bs` and ends, or it hands out as many of the bytes as `stop?` says and
fails.  It may cut them into pieces of any sizes, and it may be interrupted anywhere. -/
structure Source.Schedules (s : Source) (bs : Bytes) (stop? : Option (Nat × IoFault)) : Prop where
  content : s.content = match stop? with
    | none => bs
    | some (n, _) => bs.take n
  failure : s.failure = stop?.map Prod.snd

theorem Source.Schedules.alike {s t : Source} {bs : Bytes} {stop? : Option (Nat × IoFault)}
    (hs : s.Schedules bs stop?) (ht : t.Schedules bs stop?) : s.Alike t :=
  ⟨by rw [hs.content, ht.content], by rw [hs.failure, ht.failure]⟩

/-! ## Operations -/

namespace FrameScanner

inductive Operation where
  | metadata
  | nextFrame
  | nextRecord
  /-- Takes up to this many records. -/
  | records (n : Nat)
  | readAll
  | currentHeader
  | currentBytes
  | currentTsOut
  | decodeCurrent

inductive Answer where
  | metadata (result : Except Error Metadata)
  | advanced (result : Except Error Bool)
  | record (result : Except Error (Option Record))
  | records (results : List (Except Error Record))
  | all (result : Except Error (List Record))
  | header (h? : Option Header)
  | bytes (bs : Bytes)
  | tsOut (ts? : Option UInt64)
  | decoded (result : Except Error Record)

structure Counters where
  currentSize : Nat
  frames : Nat
  failed : Bool

def counters (s : FrameScanner) : Counters := ⟨s.currentSize, s.frames, s.isFailed⟩

def answer : Operation → FrameScanner → Answer × FrameScanner
  | .metadata, s => (outcome readHead s).map .metadata id
  | .nextFrame, s => (outcome nextFrame s).map .advanced id
  | .nextRecord, s => (outcome nextRecord s).map .record id
  | .records n, s => (nextRecords n s).map .records id
  | .readAll, s => (outcome readAll s).map .all id
  | .currentHeader, s => (.header s.header, s)
  | .currentBytes, s => (.bytes s.currentBytes, s)
  | .currentTsOut, s => (.tsOut s.currentTsOut?, s)
  | .decodeCurrent, s => (.decoded s.decodeCurrent, s)

def perform (op : Operation) (s : FrameScanner) : (Answer × Counters) × FrameScanner :=
  let (a, t) := answer op s
  ((a, t.counters), t)

theorem keeps_answer (op : Operation) : Keeps Matches (answer op) := by
  cases op with
  | metadata => exact respects_readHead.outcome.map Answer.metadata
  | nextFrame => exact respects_nextFrame.outcome.map Answer.advanced
  | nextRecord => exact respects_nextRecord.outcome.map Answer.record
  | records n => exact (keeps_results respects_nextRecord n).map Answer.records
  | readAll => exact respects_readAll.outcome.map Answer.all
  | currentHeader => exact keeps_query fun _ _ ⟨_⟩ => rfl
  | currentBytes => exact keeps_query fun _ _ ⟨_⟩ => rfl
  | currentTsOut => exact keeps_query fun _ _ ⟨_⟩ => rfl
  | decodeCurrent => exact keeps_query fun _ _ ⟨_⟩ => rfl

theorem keeps_perform (op : Operation) : Keeps Matches (perform op) :=
  keeps_counted (keeps_answer op) fun _ _ ⟨_⟩ => rfl

end FrameScanner

namespace LineScanner

inductive Operation where
  | nextLine
  | nextRecord
  /-- Takes up to this many records. -/
  | records (n : Nat)
  | readAll
  | currentLine
  | decodeCurrent

inductive Answer where
  | advanced (result : Except Error Bool)
  | record (result : Except Error (Option Record))
  | records (results : List (Except Error Record))
  | all (result : Except Error (List Record))
  | line (text : String)
  | decoded (result : Except Error Record)

/-- What a scanner tells of itself at any time. -/
structure Counters where
  lines : Nat
  records : Nat
  failed : Bool

def counters (s : LineScanner) : Counters := ⟨s.lines, s.records, s.isFailed⟩

def answer : Operation → LineScanner → Answer × LineScanner
  | .nextLine, s => (outcome nextLine s).map .advanced id
  | .nextRecord, s => (outcome nextRecord s).map .record id
  | .records n, s => (nextRecords n s).map .records id
  | .readAll, s => (outcome readAll s).map .all id
  | .currentLine, s => (.line s.current, s)
  | .decodeCurrent, s => (.decoded s.decodeCurrent, s)

/-- The answer, and what the counters show after it. -/
def perform (op : Operation) (s : LineScanner) : (Answer × Counters) × LineScanner :=
  let (a, t) := answer op s
  ((a, t.counters), t)

theorem keeps_answer (op : Operation) : Keeps Matches (answer op) := by
  cases op with
  | nextLine => exact respects_nextLine.outcome.map Answer.advanced
  | nextRecord => exact respects_nextRecord.outcome.map Answer.record
  | records n => exact (keeps_results respects_nextRecord n).map Answer.records
  | readAll => exact respects_readAll.outcome.map Answer.all
  | currentLine => exact keeps_query fun _ _ ⟨_⟩ => rfl
  | decodeCurrent => exact keeps_query fun _ _ ⟨_⟩ => rfl

theorem keeps_perform (op : Operation) : Keeps Matches (perform op) :=
  keeps_counted (keeps_answer op) fun _ _ ⟨_⟩ => rfl

end LineScanner

/-! ## Every sequence of operations -/

namespace Scan

/-- Two schedules of the same bytes, with the same failure behind them if there is one, give
callers the same answers and the same counters, for every sequence of operations on a scanner of
frames and for every one on a scanner of lines. -/
theorem delivery_not_shown {bs : Bytes} {stop? : Option (Nat × IoFault)} {s t : Source}
    (hs : s.Schedules bs stop?) (ht : t.Schedules bs stop?) :
    (∀ ops : List FrameScanner.Operation,
      trace FrameScanner.perform ops (.ofSource s) =
        trace FrameScanner.perform ops (.ofSource t)) ∧
    ∀ (c : Codec) (ops : List LineScanner.Operation),
      trace LineScanner.perform ops (.ofSource s c) =
        trace LineScanner.perform ops (.ofSource t c) := by
  have halike := hs.alike ht
  refine ⟨fun ops => ?_, fun c ops => ?_⟩
  · have hstart : Alike (FrameScanner.ofSource s) (FrameScanner.ofSource t) := ⟨halike⟩
    exact trace_eq FrameScanner.keeps_perform ops (.alike hstart)
  · have hstart : Alike (LineScanner.ofSource s c) (LineScanner.ofSource t c) := ⟨halike⟩
    exact trace_eq LineScanner.keeps_perform ops (.alike hstart)

/-- Six bytes of eight and then a reset: once in one piece, once in three with interruptions, one
of which comes between a carriage return and its newline. -/
theorem delivery_not_shown_reset :
    let bs := Bytes.ofString "17\r\n{}\r\n"
    let whole : Source := [.data (bs.take 6), .failed .connectionReset]
    let pieces : Source := [.data (bs.take 3), .interrupted, .data (bs.drop 3 |>.take 1),
      .interrupted, .interrupted, .data (bs.drop 4 |>.take 2), .failed .connectionReset]
    whole.Schedules bs (some (6, .connectionReset)) ∧
      pieces.Schedules bs (some (6, .connectionReset)) ∧
      (∀ ops : List FrameScanner.Operation,
        trace FrameScanner.perform ops (.ofSource whole) =
          trace FrameScanner.perform ops (.ofSource pieces)) ∧
      ∀ (c : Codec) (ops : List LineScanner.Operation),
        trace LineScanner.perform ops (.ofSource whole c) =
          trace LineScanner.perform ops (.ofSource pieces c) := by
  intro bs whole pieces
  have hwhole : whole.Schedules bs (some (6, .connectionReset)) := ⟨by decide, rfl⟩
  have hpieces : pieces.Schedules bs (some (6, .connectionReset)) := ⟨by decide, rfl⟩
  exact ⟨hwhole, hpieces, delivery_not_shown hwhole hpieces⟩

end Scan
end TickStream
