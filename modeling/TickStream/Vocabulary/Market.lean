import TickStream.Vocabulary.Code
/-
The vocabulary of market events: sides, book actions, instrument classes and
statistics.  Characters stand for the first three, small numbers for the others.
-/
namespace TickStream

/-- Side of the book an event refers to. -/
inductive Side where
  | ask
  | bid
  | none
  deriving DecidableEq, Repr

namespace Side

def all : List Side :=
  [.ask, .bid, .none]

def name : Side → String
  | .ask => "Ask"
  | .bid => "Bid"
  | .none => "None"

def code : Side → UInt8
  | .ask => 0x41
  | .bid => 0x42
  | .none => 0x4e

def ofCode? (n : UInt8) : Option Side := Code.find? all code n

theorem ofCode?_code (a : Side) : ofCode? a.code = some a := by cases a <;> decide

theorem code_of_ofCode? {n : UInt8} {a : Side} (h : ofCode? n = some a) : a.code = n :=
  Code.key_of_find? h

end Side

/-- What an event does to the book. -/
inductive Action where
  | modify
  | trade
  | fill
  | cancel
  | add
  | clear
  | none
  deriving DecidableEq, Repr

namespace Action

def all : List Action :=
  [.modify, .trade, .fill, .cancel, .add, .clear, .none]

def name : Action → String
  | .modify => "Modify"
  | .trade => "Trade"
  | .fill => "Fill"
  | .cancel => "Cancel"
  | .add => "Add"
  | .clear => "Clear"
  | .none => "None"

def code : Action → UInt8
  | .modify => 0x4d
  | .trade => 0x54
  | .fill => 0x46
  | .cancel => 0x43
  | .add => 0x41
  | .clear => 0x52
  | .none => 0x4e

def ofCode? (n : UInt8) : Option Action := Code.find? all code n

theorem ofCode?_code (a : Action) : ofCode? a.code = some a := by cases a <;> decide

theorem code_of_ofCode? {n : UInt8} {a : Action} (h : ofCode? n = some a) : a.code = n :=
  Code.key_of_find? h

end Action

/-- Broad class of an instrument. -/
inductive InstrumentClass where
  | bond
  | call
  | future
  | stock
  | mixedSpread
  | put
  | futureSpread
  | optionSpread
  | fxSpot
  deriving DecidableEq, Repr

namespace InstrumentClass

def all : List InstrumentClass :=
  [.bond, .call, .future, .stock, .mixedSpread, .put, .futureSpread, .optionSpread, .fxSpot]

def name : InstrumentClass → String
  | .bond => "Bond"
  | .call => "Call"
  | .future => "Future"
  | .stock => "Stock"
  | .mixedSpread => "MixedSpread"
  | .put => "Put"
  | .futureSpread => "FutureSpread"
  | .optionSpread => "OptionSpread"
  | .fxSpot => "FxSpot"

def code : InstrumentClass → UInt8
  | .bond => 0x42
  | .call => 0x43
  | .future => 0x46
  | .stock => 0x4b
  | .mixedSpread => 0x4d
  | .put => 0x50
  | .futureSpread => 0x53
  | .optionSpread => 0x54
  | .fxSpot => 0x58

def ofCode? (n : UInt8) : Option InstrumentClass := Code.find? all code n

theorem ofCode?_code (a : InstrumentClass) : ofCode? a.code = some a := by cases a <;> decide

theorem code_of_ofCode? {n : UInt8} {a : InstrumentClass} (h : ofCode? n = some a) : a.code = n :=
  Code.key_of_find? h

end InstrumentClass

/-- What a statistic measures. -/
inductive StatisticKind where
  | openingPrice
  | indicativeOpeningPrice
  | settlementPrice
  | tradingSessionLowPrice
  | tradingSessionHighPrice
  | clearedVolume
  | lowestOffer
  | highestBid
  | openInterest
  | fixingPrice
  | closePrice
  | netChange
  | vwap
  deriving DecidableEq, Repr

namespace StatisticKind

def all : List StatisticKind :=
  [.openingPrice, .indicativeOpeningPrice, .settlementPrice, .tradingSessionLowPrice,
   .tradingSessionHighPrice, .clearedVolume, .lowestOffer, .highestBid, .openInterest,
   .fixingPrice, .closePrice, .netChange, .vwap]

def name : StatisticKind → String
  | .openingPrice => "OpeningPrice"
  | .indicativeOpeningPrice => "IndicativeOpeningPrice"
  | .settlementPrice => "SettlementPrice"
  | .tradingSessionLowPrice => "TradingSessionLowPrice"
  | .tradingSessionHighPrice => "TradingSessionHighPrice"
  | .clearedVolume => "ClearedVolume"
  | .lowestOffer => "LowestOffer"
  | .highestBid => "HighestBid"
  | .openInterest => "OpenInterest"
  | .fixingPrice => "FixingPrice"
  | .closePrice => "ClosePrice"
  | .netChange => "NetChange"
  | .vwap => "Vwap"

def code : StatisticKind → UInt16
  | .openingPrice => 1
  | .indicativeOpeningPrice => 2
  | .settlementPrice => 3
  | .tradingSessionLowPrice => 4
  | .tradingSessionHighPrice => 5
  | .clearedVolume => 6
  | .lowestOffer => 7
  | .highestBid => 8
  | .openInterest => 9
  | .fixingPrice => 10
  | .closePrice => 11
  | .netChange => 12
  | .vwap => 13

def ofCode? (n : UInt16) : Option StatisticKind := Code.find? all code n

theorem ofCode?_code (a : StatisticKind) : ofCode? a.code = some a := by cases a <;> decide

theorem code_of_ofCode? {n : UInt16} {a : StatisticKind} (h : ofCode? n = some a) : a.code = n :=
  Code.key_of_find? h

end StatisticKind

/-- Whether a statistic is new or withdraws an earlier one. -/
inductive StatisticUpdate where
  | new
  | delete
  deriving DecidableEq, Repr

namespace StatisticUpdate

def all : List StatisticUpdate :=
  [.new, .delete]

def name : StatisticUpdate → String
  | .new => "New"
  | .delete => "Delete"

def code : StatisticUpdate → UInt8
  | .new => 1
  | .delete => 2

def ofCode? (n : UInt8) : Option StatisticUpdate := Code.find? all code n

theorem ofCode?_code (a : StatisticUpdate) : ofCode? a.code = some a := by cases a <;> decide

theorem code_of_ofCode? {n : UInt8} {a : StatisticUpdate} (h : ofCode? n = some a) : a.code = n :=
  Code.key_of_find? h

end StatisticUpdate

end TickStream
