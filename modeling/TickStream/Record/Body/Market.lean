import TickStream.Record.Field
/-
Record bodies about the market: bars, trading status, auction imbalances and statistics.
-/
namespace TickStream

/-- A bar: first, highest, lowest and last price, and the volume traded. -/
structure Ohlcv where
  opening : Price
  high : Price
  low : Price
  closing : Price
  volume : UInt64
  deriving DecidableEq, Repr

namespace Ohlcv

abbrev layout : Layout :=
  [.field "open" .price, .field "high" .price, .field "low" .price, .field "close" .price,
   .field "volume" .count]

def toRow (m : Ohlcv) : Row layout :=
  (m.opening, m.high, m.low, m.closing, m.volume, ())

def ofRow : Row layout → Ohlcv
  | (opening, high, low, closing, volume, ()) =>
    ⟨opening, high, low, closing, volume⟩

end Ohlcv

structure Status where
  tsRecv : UInt64
  action : UInt16
  reason : UInt16
  tradingEvent : UInt16
  /-- Yes, no, or not available. -/
  isTrading : UInt8
  isQuoting : UInt8
  isShortSellRestricted : UInt8
  deriving DecidableEq, Repr

namespace Status

abbrev layout : Layout :=
  [.field "ts_recv" .count, .field "action" .u16, .field "reason" .u16,
   .field "trading_event" .u16, .field "is_trading" .char, .field "is_quoting" .char,
   .field "is_short_sell_restricted" .char, .gap 7]

def toRow (m : Status) : Row layout :=
  (m.tsRecv, m.action, m.reason, m.tradingEvent, m.isTrading, m.isQuoting,
   m.isShortSellRestricted, ())

def ofRow : Row layout → Status
  | (tsRecv, action, reason, tradingEvent, isTrading, isQuoting, isShortSellRestricted, ()) =>
    ⟨tsRecv, action, reason, tradingEvent, isTrading, isQuoting, isShortSellRestricted⟩

end Status

/-- What is left over in an auction. -/
structure Imbalance where
  tsRecv : UInt64
  refPrice : Price
  auctionTime : UInt64
  contBookClrPrice : Price
  auctInterestClrPrice : Price
  ssrFillingPrice : Price
  indMatchPrice : Price
  upperCollar : Price
  lowerCollar : Price
  pairedQty : UInt32
  totalImbalanceQty : UInt32
  marketImbalanceQty : UInt32
  unpairedQty : UInt32
  auctionType : UInt8
  side : UInt8
  auctionStatus : UInt8
  freezeStatus : UInt8
  numExtensions : UInt8
  unpairedSide : UInt8
  significantImbalance : UInt8
  deriving DecidableEq, Repr

namespace Imbalance

abbrev layout : Layout :=
  [.field "ts_recv" .count, .field "ref_price" .price, .field "auction_time" .count,
   .field "cont_book_clr_price" .price, .field "auct_interest_clr_price" .price,
   .field "ssr_filling_price" .price, .field "ind_match_price" .price,
   .field "upper_collar" .price, .field "lower_collar" .price, .field "paired_qty" .u32,
   .field "total_imbalance_qty" .u32, .field "market_imbalance_qty" .u32,
   .field "unpaired_qty" .u32, .field "auction_type" .char, .field "side" .char,
   .field "auction_status" .u8, .field "freeze_status" .u8, .field "num_extensions" .u8,
   .field "unpaired_side" .char, .field "significant_imbalance" .char, .gap 1]

def toRow (m : Imbalance) : Row layout :=
  (m.tsRecv, m.refPrice, m.auctionTime, m.contBookClrPrice, m.auctInterestClrPrice,
   m.ssrFillingPrice, m.indMatchPrice, m.upperCollar, m.lowerCollar, m.pairedQty,
   m.totalImbalanceQty, m.marketImbalanceQty, m.unpairedQty, m.auctionType, m.side,
   m.auctionStatus, m.freezeStatus, m.numExtensions, m.unpairedSide, m.significantImbalance, ())

def ofRow : Row layout → Imbalance
  | (tsRecv, refPrice, auctionTime, contBookClrPrice, auctInterestClrPrice, ssrFillingPrice,
     indMatchPrice, upperCollar, lowerCollar, pairedQty, totalImbalanceQty, marketImbalanceQty,
     unpairedQty, auctionType, side, auctionStatus, freezeStatus, numExtensions, unpairedSide,
     significantImbalance, ()) =>
    ⟨tsRecv, refPrice, auctionTime, contBookClrPrice, auctInterestClrPrice, ssrFillingPrice,
     indMatchPrice, upperCollar, lowerCollar, pairedQty, totalImbalanceQty, marketImbalanceQty,
     unpairedQty, auctionType, side, auctionStatus, freezeStatus, numExtensions, unpairedSide,
     significantImbalance⟩

end Imbalance

/-- A number that the venue publishes about an instrument. -/
structure Statistic where
  tsRecv : UInt64
  /-- The time the number refers to, if there is one. -/
  tsRef : UInt64
  price : Price
  quantity : Int32
  sequence : UInt32
  tsInDelta : Int32
  kind : UInt16
  channelId : UInt16
  update : UInt8
  flags : UInt8
  deriving DecidableEq, Repr

namespace Statistic

abbrev layout : Layout :=
  [.field "ts_recv" .count, .field "ts_ref" .count, .field "price" .price, .field "quantity" .i32,
   .field "sequence" .u32, .field "ts_in_delta" .i32, .field "stat_type" .u16,
   .field "channel_id" .u16, .field "update_action" .u8, .field "stat_flags" .u8, .gap 6]

def toRow (m : Statistic) : Row layout :=
  (m.tsRecv, m.tsRef, m.price, m.quantity, m.sequence, m.tsInDelta, m.kind, m.channelId, m.update,
   m.flags, ())

def ofRow : Row layout → Statistic
  | (tsRecv, tsRef, price, quantity, sequence, tsInDelta, kind, channelId, update, flags, ()) =>
    ⟨tsRecv, tsRef, price, quantity, sequence, tsInDelta, kind, channelId, update, flags⟩

end Statistic

end TickStream
