/-
Record type tags: the byte of a record header that says how the record is laid out.
-/
namespace TickStream
namespace Tag

def mbp0 : UInt8 := 0x00
def mbp1 : UInt8 := 0x01
def mbp10 : UInt8 := 0x0a
/-- Bars of an unstated cadence, no longer produced. -/
def ohlcvDeprecated : UInt8 := 0x11
def status : UInt8 := 0x12
def instrumentDef : UInt8 := 0x13
def imbalance : UInt8 := 0x14
def error : UInt8 := 0x15
def symbolMapping : UInt8 := 0x16
/-- Gateway messages that are no errors, heartbeats among them. -/
def system : UInt8 := 0x17
def statistics : UInt8 := 0x18
def ohlcv1s : UInt8 := 0x20
def ohlcv1m : UInt8 := 0x21
def ohlcv1h : UInt8 := 0x22
def ohlcv1d : UInt8 := 0x23
def ohlcvEod : UInt8 := 0x24
def mbo : UInt8 := 0xa0
def cmbp1 : UInt8 := 0xb1
def cbbo1s : UInt8 := 0xc0
def cbbo1m : UInt8 := 0xc1
def tcbbo : UInt8 := 0xc2
def bbo1s : UInt8 := 0xc3
def bbo1m : UInt8 := 0xc4

def name (tag : UInt8) : String :=
  if tag = mbp0 then "mbp-0"
  else if tag = mbp1 then "mbp-1"
  else if tag = mbp10 then "mbp-10"
  else if tag = ohlcvDeprecated then "ohlcv-deprecated"
  else if tag = ohlcv1s then "ohlcv-1s"
  else if tag = ohlcv1m then "ohlcv-1m"
  else if tag = ohlcv1h then "ohlcv-1h"
  else if tag = ohlcv1d then "ohlcv-1d"
  else if tag = ohlcvEod then "ohlcv-eod"
  else if tag = status then "status"
  else if tag = instrumentDef then "instrument-def"
  else if tag = imbalance then "imbalance"
  else if tag = error then "error"
  else if tag = symbolMapping then "symbol-mapping"
  else if tag = system then "system"
  else if tag = statistics then "statistics"
  else if tag = mbo then "mbo"
  else if tag = cmbp1 then "cmbp-1"
  else if tag = cbbo1s then "cbbo-1s"
  else if tag = cbbo1m then "cbbo-1m"
  else if tag = tcbbo then "tcbbo"
  else if tag = bbo1s then "bbo-1s"
  else if tag = bbo1m then "bbo-1m"
  else "unknown"

end Tag
end TickStream
