import TickStream.Vocabulary.Code
import TickStream.Vocabulary.Tag
/-
Data schemas: which kind of market event a stream is asked for.
-/
namespace TickStream

/-- What a stream carries: book events, trades, bars, definitions and so on. -/
inductive Schema where
  | mbo
  | mbp1
  | mbp10
  | tbbo
  | trades
  | ohlcv1s
  | ohlcv1m
  | ohlcv1h
  | ohlcv1d
  | definition
  | statistics
  | status
  | imbalance
  | ohlcvEod
  | cmbp1
  | cbbo1s
  | cbbo1m
  | tcbbo
  | bbo1s
  | bbo1m
  deriving DecidableEq, Repr

namespace Schema

def all : List Schema :=
  [.mbo, .mbp1, .mbp10, .tbbo, .trades, .ohlcv1s, .ohlcv1m, .ohlcv1h, .ohlcv1d, .definition,
   .statistics, .status, .imbalance, .ohlcvEod, .cmbp1, .cbbo1s, .cbbo1m, .tcbbo, .bbo1s,
   .bbo1m]

def name : Schema → String
  | .mbo => "mbo"
  | .mbp1 => "mbp-1"
  | .mbp10 => "mbp-10"
  | .tbbo => "tbbo"
  | .trades => "trades"
  | .ohlcv1s => "ohlcv-1s"
  | .ohlcv1m => "ohlcv-1m"
  | .ohlcv1h => "ohlcv-1h"
  | .ohlcv1d => "ohlcv-1d"
  | .definition => "definition"
  | .statistics => "statistics"
  | .status => "status"
  | .imbalance => "imbalance"
  | .ohlcvEod => "ohlcv-eod"
  | .cmbp1 => "cmbp-1"
  | .cbbo1s => "cbbo-1s"
  | .cbbo1m => "cbbo-1m"
  | .tcbbo => "tcbbo"
  | .bbo1s => "bbo-1s"
  | .bbo1m => "bbo-1m"

def code : Schema → UInt16
  | .mbo => 0
  | .mbp1 => 1
  | .mbp10 => 2
  | .tbbo => 3
  | .trades => 4
  | .ohlcv1s => 5
  | .ohlcv1m => 6
  | .ohlcv1h => 7
  | .ohlcv1d => 8
  | .definition => 9
  | .statistics => 10
  | .status => 11
  | .imbalance => 12
  | .ohlcvEod => 13
  | .cmbp1 => 14
  | .cbbo1s => 15
  | .cbbo1m => 16
  | .tcbbo => 17
  | .bbo1s => 18
  | .bbo1m => 19

def ofCode? (n : UInt16) : Option Schema := Code.find? all code n

theorem ofCode?_code (a : Schema) : ofCode? a.code = some a := by cases a <;> decide

theorem code_of_ofCode? {n : UInt16} {a : Schema} (h : ofCode? n = some a) : a.code = n :=
  Code.key_of_find? h

def ofName? (text : String) : Option Schema := Code.named? all name text

theorem ofName?_name (a : Schema) : ofName? a.name = some a := by cases a <;> decide

def tag : Schema → UInt8
  | .mbo => Tag.mbo
  | .mbp1 => Tag.mbp1
  | .mbp10 => Tag.mbp10
  | .tbbo => Tag.mbp1
  | .trades => Tag.mbp0
  | .ohlcv1s => Tag.ohlcv1s
  | .ohlcv1m => Tag.ohlcv1m
  | .ohlcv1h => Tag.ohlcv1h
  | .ohlcv1d => Tag.ohlcv1d
  | .definition => Tag.instrumentDef
  | .statistics => Tag.statistics
  | .status => Tag.status
  | .imbalance => Tag.imbalance
  | .ohlcvEod => Tag.ohlcvEod
  | .cmbp1 => Tag.cmbp1
  | .cbbo1s => Tag.cbbo1s
  | .cbbo1m => Tag.cbbo1m
  | .tcbbo => Tag.tcbbo
  | .bbo1s => Tag.bbo1s
  | .bbo1m => Tag.bbo1m

end Schema

end TickStream
