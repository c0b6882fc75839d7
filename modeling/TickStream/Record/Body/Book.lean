import TickStream.Record.Field
/-
Record bodies of book events: single orders, trades and price levels.
-/
namespace TickStream

/-- An event of a single order. -/
structure Mbo where
  /-- The venue's number of the order. -/
  orderId : UInt64
  price : Price
  size : UInt32
  flags : UInt8
  channelId : UInt8
  action : UInt8
  side : UInt8
  /-- When the capture server received the event. -/
  tsRecv : UInt64
  /-- How long before `tsRecv` the venue sent the event. -/
  tsInDelta : Int32
  /-- The venue's number of the message. -/
  sequence : UInt32
  deriving DecidableEq, Repr

namespace Mbo

abbrev layout : Layout :=
  [.field "order_id" .count, .field "price" .price, .field "size" .u32, .field "flags" .u8,
   .field "channel_id" .u8, .field "action" .char, .field "side" .char, .field "ts_recv" .count,
   .field "ts_in_delta" .i32, .field "sequence" .u32]

def toRow (m : Mbo) : Row layout :=
  (m.orderId, m.price, m.size, m.flags, m.channelId, m.action, m.side, m.tsRecv, m.tsInDelta,
   m.sequence, ())

def ofRow : Row layout → Mbo
  | (orderId, price, size, flags, channelId, action, side, tsRecv, tsInDelta, sequence, ()) =>
    ⟨orderId, price, size, flags, channelId, action, side, tsRecv, tsInDelta, sequence⟩

end Mbo

/-- A trade, or a book event without levels. -/
structure Trade where
  price : Price
  size : UInt32
  action : UInt8
  side : UInt8
  flags : UInt8
  /-- The level that changed. -/
  depth : UInt8
  /-- When the capture server received the event. -/
  tsRecv : UInt64
  /-- How long before `tsRecv` the venue sent the event. -/
  tsInDelta : Int32
  /-- The venue's number of the message. -/
  sequence : UInt32
  deriving DecidableEq, Repr

namespace Trade

abbrev layout : Layout :=
  [.field "price" .price, .field "size" .u32, .field "action" .char, .field "side" .char,
   .field "flags" .u8, .field "depth" .u8, .field "ts_recv" .count, .field "ts_in_delta" .i32,
   .field "sequence" .u32]

def toRow (m : Trade) : Row layout :=
  (m.price, m.size, m.action, m.side, m.flags, m.depth, m.tsRecv, m.tsInDelta, m.sequence, ())

def ofRow : Row layout → Trade
  | (price, size, action, side, flags, depth, tsRecv, tsInDelta, sequence, ()) =>
    ⟨price, size, action, side, flags, depth, tsRecv, tsInDelta, sequence⟩

end Trade

/-- A book event with the best level after it. -/
structure Mbp1 where
  price : Price
  size : UInt32
  action : UInt8
  side : UInt8
  flags : UInt8
  /-- The level that changed. -/
  depth : UInt8
  /-- When the capture server received the event. -/
  tsRecv : UInt64
  /-- How long before `tsRecv` the venue sent the event. -/
  tsInDelta : Int32
  /-- The venue's number of the message. -/
  sequence : UInt32
  levels : Vector BidAsk 1
  deriving DecidableEq, Repr

namespace Mbp1

abbrev layout : Layout :=
  [.field "price" .price, .field "size" .u32, .field "action" .char, .field "side" .char,
   .field "flags" .u8, .field "depth" .u8, .field "ts_recv" .count, .field "ts_in_delta" .i32,
   .field "sequence" .u32, .field "levels" (.levels .plain 1)]

def toRow (m : Mbp1) : Row layout :=
  (m.price, m.size, m.action, m.side, m.flags, m.depth, m.tsRecv, m.tsInDelta, m.sequence,
   m.levels, ())

def ofRow : Row layout → Mbp1
  | (price, size, action, side, flags, depth, tsRecv, tsInDelta, sequence, levels, ()) =>
    ⟨price, size, action, side, flags, depth, tsRecv, tsInDelta, sequence, levels⟩

end Mbp1

/-- A book event with the ten best levels after it. -/
structure Mbp10 where
  price : Price
  size : UInt32
  action : UInt8
  side : UInt8
  flags : UInt8
  /-- The level that changed. -/
  depth : UInt8
  /-- When the capture server received the event. -/
  tsRecv : UInt64
  /-- How long before `tsRecv` the venue sent the event. -/
  tsInDelta : Int32
  /-- The venue's number of the message. -/
  sequence : UInt32
  levels : Vector BidAsk 10
  deriving DecidableEq, Repr

namespace Mbp10

abbrev layout : Layout :=
  [.field "price" .price, .field "size" .u32, .field "action" .char, .field "side" .char,
   .field "flags" .u8, .field "depth" .u8, .field "ts_recv" .count, .field "ts_in_delta" .i32,
   .field "sequence" .u32, .field "levels" (.levels .plain 10)]

def toRow (m : Mbp10) : Row layout :=
  (m.price, m.size, m.action, m.side, m.flags, m.depth, m.tsRecv, m.tsInDelta, m.sequence,
   m.levels, ())

def ofRow : Row layout → Mbp10
  | (price, size, action, side, flags, depth, tsRecv, tsInDelta, sequence, levels, ()) =>
    ⟨price, size, action, side, flags, depth, tsRecv, tsInDelta, sequence, levels⟩

end Mbp10

/-- The best level at the end of an interval. -/
structure Bbo where
  /-- Price of the last trade. -/
  price : Price
  size : UInt32
  side : UInt8
  flags : UInt8
  /-- The end of the interval. -/
  tsRecv : UInt64
  /-- The venue's number of the message. -/
  sequence : UInt32
  levels : Vector BidAsk 1
  deriving DecidableEq, Repr

namespace Bbo

abbrev layout : Layout :=
  [.field "price" .price, .field "size" .u32, .gap 1, .field "side" .char, .field "flags" .u8,
   .gap 1, .field "ts_recv" .count, .gap 4, .field "sequence" .u32,
   .field "levels" (.levels .plain 1)]

def toRow (m : Bbo) : Row layout :=
  (m.price, m.size, m.side, m.flags, m.tsRecv, m.sequence, m.levels, ())

def ofRow : Row layout → Bbo
  | (price, size, side, flags, tsRecv, sequence, levels, ()) =>
    ⟨price, size, side, flags, tsRecv, sequence, levels⟩

end Bbo

/-- A book event with the best consolidated level after it. -/
structure Cmbp1 where
  price : Price
  size : UInt32
  action : UInt8
  side : UInt8
  flags : UInt8
  /-- When the capture server received the event. -/
  tsRecv : UInt64
  /-- How long before `tsRecv` the venue sent the event. -/
  tsInDelta : Int32
  levels : Vector ConsolidatedBidAsk 1
  deriving DecidableEq, Repr

namespace Cmbp1

abbrev layout : Layout :=
  [.field "price" .price, .field "size" .u32, .field "action" .char, .field "side" .char,
   .field "flags" .u8, .gap 1, .field "ts_recv" .count, .field "ts_in_delta" .i32, .gap 4,
   .field "levels" (.levels .consolidated 1)]

def toRow (m : Cmbp1) : Row layout :=
  (m.price, m.size, m.action, m.side, m.flags, m.tsRecv, m.tsInDelta, m.levels, ())

def ofRow : Row layout → Cmbp1
  | (price, size, action, side, flags, tsRecv, tsInDelta, levels, ()) =>
    ⟨price, size, action, side, flags, tsRecv, tsInDelta, levels⟩

end Cmbp1

/-- The best consolidated level at the end of an interval. -/
structure Cbbo where
  /-- Price of the last trade. -/
  price : Price
  size : UInt32
  side : UInt8
  flags : UInt8
  /-- The end of the interval. -/
  tsRecv : UInt64
  levels : Vector ConsolidatedBidAsk 1
  deriving DecidableEq, Repr

namespace Cbbo

abbrev layout : Layout :=
  [.field "price" .price, .field "size" .u32, .gap 1, .field "side" .char, .field "flags" .u8,
   .gap 1, .field "ts_recv" .count, .gap 8, .field "levels" (.levels .consolidated 1)]

def toRow (m : Cbbo) : Row layout :=
  (m.price, m.size, m.side, m.flags, m.tsRecv, m.levels, ())

def ofRow : Row layout → Cbbo
  | (price, size, side, flags, tsRecv, levels, ()) =>
    ⟨price, size, side, flags, tsRecv, levels⟩

end Cbbo

end TickStream
