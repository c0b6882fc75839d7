import TickStream.Record.Header
import TickStream.Record.Kind
import TickStream.Vocabulary.Market
/-
Records: a header and a body of a known kind, or the bytes of a record whose tag is not
known, so that streams with newer records can still be passed on.
-/
namespace TickStream

inductive Record where
  | known (header : Header) (kind : Kind) (body : kind.Body)
  /-- A record of unknown tag: its whole frame, or the line it stood on in JSON. -/
  | unrecognized (header : Header) (bytes : Bytes)
  deriving DecidableEq

namespace Record

def header : Record → Header
  | known h _ _ => h
  | unrecognized h _ => h

def isUnrecognized : Record → Bool
  | known _ _ _ => false
  | unrecognized _ _ => true

/-- The side of the book, where a record has one that means something. -/
def side? : Record → Option Side
  | known _ .mbo b => Side.ofCode? b.side
  | known _ .trade b => Side.ofCode? b.side
  | known _ .mbp1 b => Side.ofCode? b.side
  | known _ .mbp10 b => Side.ofCode? b.side
  | known _ .bbo b => Side.ofCode? b.side
  | known _ .cmbp1 b => Side.ofCode? b.side
  | known _ .cbbo b => Side.ofCode? b.side
  | known _ .imbalance b => Side.ofCode? b.side
  | _ => none

/-- What the event does to the book, where a record says so. -/
def action? : Record → Option Action
  | known _ .mbo b => Action.ofCode? b.action
  | known _ .trade b => Action.ofCode? b.action
  | known _ .mbp1 b => Action.ofCode? b.action
  | known _ .mbp10 b => Action.ofCode? b.action
  | known _ .cmbp1 b => Action.ofCode? b.action
  | _ => none

end Record

namespace InstrumentDefinition

def class? (d : InstrumentDefinition) : Option InstrumentClass :=
  InstrumentClass.ofCode? d.instrumentClass

end InstrumentDefinition

namespace Statistic

def kind? (s : Statistic) : Option StatisticKind := StatisticKind.ofCode? s.kind

def update? (s : Statistic) : Option StatisticUpdate := StatisticUpdate.ofCode? s.update

end Statistic
end TickStream
