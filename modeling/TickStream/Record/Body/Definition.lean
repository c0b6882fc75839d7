import TickStream.Record.Field
/-
The record body of instrument definitions.  Both versions of the format have the same
fields; the first has the strike price behind the instrument class and more gaps.
-/
namespace TickStream

structure InstrumentDefinition where
  tsRecv : UInt64
  minPriceIncrement : Price
  displayFactor : Price
  expiration : UInt64
  activation : UInt64
  highLimitPrice : Price
  lowLimitPrice : Price
  maxPriceVariation : Price
  tradingReferencePrice : Price
  unitOfMeasureQty : Price
  minPriceIncrementAmount : Price
  priceRatio : Price
  strikePrice : Price
  instAttribValue : Int32
  underlyingId : UInt32
  rawInstrumentId : UInt32
  marketDepthImplied : Int32
  marketDepth : Int32
  marketSegmentId : UInt32
  maxTradeVol : UInt32
  minLotSize : Int32
  minLotSizeBlock : Int32
  minLotSizeRoundLot : Int32
  minTradeVol : UInt32
  contractMultiplier : Int32
  decayQuantity : Int32
  originalContractSize : Int32
  tradingReferenceDate : UInt16
  applId : Int16
  maturityYear : UInt16
  decayStartDate : UInt16
  channelId : UInt16
  currency : String
  settlCurrency : String
  secsubtype : String
  rawSymbol : String
  group : String
  exchange : String
  asset : String
  cfi : String
  securityType : String
  unitOfMeasure : String
  underlying : String
  strikePriceCurrency : String
  instrumentClass : UInt8
  matchAlgorithm : UInt8
  mdSecurityTradingStatus : UInt8
  mainFraction : UInt8
  priceDisplayFormat : UInt8
  settlPriceType : UInt8
  subFraction : UInt8
  underlyingProduct : UInt8
  securityUpdateAction : UInt8
  maturityMonth : UInt8
  maturityDay : UInt8
  maturityWeek : UInt8
  userDefinedInstrument : UInt8
  contractMultiplierUnit : Int8
  flowScheduleType : Int8
  tickRule : UInt8
  deriving DecidableEq, Repr

namespace InstrumentDefinition

abbrev layoutV1 : Layout :=
  [.field "ts_recv" .count, .field "min_price_increment" .price, .field "display_factor" .price,
   .field "expiration" .count, .field "activation" .count, .field "high_limit_price" .price,
   .field "low_limit_price" .price, .field "max_price_variation" .price,
   .field "trading_reference_price" .price, .field "unit_of_measure_qty" .price,
   .field "min_price_increment_amount" .price, .field "price_ratio" .price,
   .field "inst_attrib_value" .i32, .field "underlying_id" .u32, .field "raw_instrument_id" .u32,
   .field "market_depth_implied" .i32, .field "market_depth" .i32,
   .field "market_segment_id" .u32, .field "max_trade_vol" .u32, .field "min_lot_size" .i32,
   .field "min_lot_size_block" .i32, .field "min_lot_size_round_lot" .i32,
   .field "min_trade_vol" .u32, .gap 4, .field "contract_multiplier" .i32,
   .field "decay_quantity" .i32, .field "original_contract_size" .i32, .gap 4,
   .field "trading_reference_date" .u16, .field "appl_id" .i16, .field "maturity_year" .u16,
   .field "decay_start_date" .u16, .field "channel_id" .u16, .field "currency" (.text 4),
   .field "settl_currency" (.text 4), .field "secsubtype" (.text 6),
   .field "raw_symbol" (.text 22), .field "group" (.text 21), .field "exchange" (.text 5),
   .field "asset" (.text 7), .field "cfi" (.text 7), .field "security_type" (.text 7),
   .field "unit_of_measure" (.text 31), .field "underlying" (.text 21),
   .field "strike_price_currency" (.text 4), .field "instrument_class" .char, .gap 2,
   .field "strike_price" .price, .gap 6, .field "match_algorithm" .char,
   .field "md_security_trading_status" .u8, .field "main_fraction" .u8,
   .field "price_display_format" .u8, .field "settl_price_type" .u8, .field "sub_fraction" .u8,
   .field "underlying_product" .u8, .field "security_update_action" .char,
   .field "maturity_month" .u8, .field "maturity_day" .u8, .field "maturity_week" .u8,
   .field "user_defined_instrument" .char, .field "contract_multiplier_unit" .i8,
   .field "flow_schedule_type" .i8, .field "tick_rule" .u8, .gap 3]

abbrev layoutV2 : Layout :=
  [.field "ts_recv" .count, .field "min_price_increment" .price, .field "display_factor" .price,
   .field "expiration" .count, .field "activation" .count, .field "high_limit_price" .price,
   .field "low_limit_price" .price, .field "max_price_variation" .price,
   .field "trading_reference_price" .price, .field "unit_of_measure_qty" .price,
   .field "min_price_increment_amount" .price, .field "price_ratio" .price,
   .field "strike_price" .price, .field "inst_attrib_value" .i32, .field "underlying_id" .u32,
   .field "raw_instrument_id" .u32, .field "market_depth_implied" .i32,
   .field "market_depth" .i32, .field "market_segment_id" .u32, .field "max_trade_vol" .u32,
   .field "min_lot_size" .i32, .field "min_lot_size_block" .i32,
   .field "min_lot_size_round_lot" .i32, .field "min_trade_vol" .u32,
   .field "contract_multiplier" .i32, .field "decay_quantity" .i32,
   .field "original_contract_size" .i32, .field "trading_reference_date" .u16,
   .field "appl_id" .i16, .field "maturity_year" .u16, .field "decay_start_date" .u16,
   .field "channel_id" .u16, .field "currency" (.text 4), .field "settl_currency" (.text 4),
   .field "secsubtype" (.text 6), .field "raw_symbol" (.text 71), .field "group" (.text 21),
   .field "exchange" (.text 5), .field "asset" (.text 7), .field "cfi" (.text 7),
   .field "security_type" (.text 7), .field "unit_of_measure" (.text 31),
   .field "underlying" (.text 21), .field "strike_price_currency" (.text 4),
   .field "instrument_class" .char, .field "match_algorithm" .char,
   .field "md_security_trading_status" .u8, .field "main_fraction" .u8,
   .field "price_display_format" .u8, .field "settl_price_type" .u8, .field "sub_fraction" .u8,
   .field "underlying_product" .u8, .field "security_update_action" .char,
   .field "maturity_month" .u8, .field "maturity_day" .u8, .field "maturity_week" .u8,
   .field "user_defined_instrument" .char, .field "contract_multiplier_unit" .i8,
   .field "flow_schedule_type" .i8, .field "tick_rule" .u8, .gap 10]

def toRowV1 (d : InstrumentDefinition) : Row layoutV1 :=
  (d.tsRecv, d.minPriceIncrement, d.displayFactor, d.expiration, d.activation, d.highLimitPrice,
   d.lowLimitPrice, d.maxPriceVariation, d.tradingReferencePrice, d.unitOfMeasureQty,
   d.minPriceIncrementAmount, d.priceRatio, d.instAttribValue, d.underlyingId, d.rawInstrumentId,
   d.marketDepthImplied, d.marketDepth, d.marketSegmentId, d.maxTradeVol, d.minLotSize,
   d.minLotSizeBlock, d.minLotSizeRoundLot, d.minTradeVol, d.contractMultiplier, d.decayQuantity,
   d.originalContractSize, d.tradingReferenceDate, d.applId, d.maturityYear, d.decayStartDate,
   d.channelId, d.currency, d.settlCurrency, d.secsubtype, d.rawSymbol, d.group, d.exchange,
   d.asset, d.cfi, d.securityType, d.unitOfMeasure, d.underlying, d.strikePriceCurrency,
   d.instrumentClass, d.strikePrice, d.matchAlgorithm, d.mdSecurityTradingStatus, d.mainFraction,
   d.priceDisplayFormat, d.settlPriceType, d.subFraction, d.underlyingProduct,
   d.securityUpdateAction, d.maturityMonth, d.maturityDay, d.maturityWeek,
   d.userDefinedInstrument, d.contractMultiplierUnit, d.flowScheduleType, d.tickRule, ())

def ofRowV1 : Row layoutV1 → InstrumentDefinition
  | (tsRecv, minPriceIncrement, displayFactor, expiration, activation, highLimitPrice,
     lowLimitPrice, maxPriceVariation, tradingReferencePrice, unitOfMeasureQty,
     minPriceIncrementAmount, priceRatio, instAttribValue, underlyingId, rawInstrumentId,
     marketDepthImplied, marketDepth, marketSegmentId, maxTradeVol, minLotSize, minLotSizeBlock,
     minLotSizeRoundLot, minTradeVol, contractMultiplier, decayQuantity, originalContractSize,
     tradingReferenceDate, applId, maturityYear, decayStartDate, channelId, currency,
     settlCurrency, secsubtype, rawSymbol, group, exchange, asset, cfi, securityType,
     unitOfMeasure, underlying, strikePriceCurrency, instrumentClass, strikePrice, matchAlgorithm,
     mdSecurityTradingStatus, mainFraction, priceDisplayFormat, settlPriceType, subFraction,
     underlyingProduct, securityUpdateAction, maturityMonth, maturityDay, maturityWeek,
     userDefinedInstrument, contractMultiplierUnit, flowScheduleType, tickRule, ()) =>
    ⟨tsRecv, minPriceIncrement, displayFactor, expiration, activation, highLimitPrice,
     lowLimitPrice, maxPriceVariation, tradingReferencePrice, unitOfMeasureQty,
     minPriceIncrementAmount, priceRatio, strikePrice, instAttribValue, underlyingId,
     rawInstrumentId, marketDepthImplied, marketDepth, marketSegmentId, maxTradeVol, minLotSize,
     minLotSizeBlock, minLotSizeRoundLot, minTradeVol, contractMultiplier, decayQuantity,
     originalContractSize, tradingReferenceDate, applId, maturityYear, decayStartDate, channelId,
     currency, settlCurrency, secsubtype, rawSymbol, group, exchange, asset, cfi, securityType,
     unitOfMeasure, underlying, strikePriceCurrency, instrumentClass, matchAlgorithm,
     mdSecurityTradingStatus, mainFraction, priceDisplayFormat, settlPriceType, subFraction,
     underlyingProduct, securityUpdateAction, maturityMonth, maturityDay, maturityWeek,
     userDefinedInstrument, contractMultiplierUnit, flowScheduleType, tickRule⟩

def toRowV2 (d : InstrumentDefinition) : Row layoutV2 :=
  (d.tsRecv, d.minPriceIncrement, d.displayFactor, d.expiration, d.activation, d.highLimitPrice,
   d.lowLimitPrice, d.maxPriceVariation, d.tradingReferencePrice, d.unitOfMeasureQty,
   d.minPriceIncrementAmount, d.priceRatio, d.strikePrice, d.instAttribValue, d.underlyingId,
   d.rawInstrumentId, d.marketDepthImplied, d.marketDepth, d.marketSegmentId, d.maxTradeVol,
   d.minLotSize, d.minLotSizeBlock, d.minLotSizeRoundLot, d.minTradeVol, d.contractMultiplier,
   d.decayQuantity, d.originalContractSize, d.tradingReferenceDate, d.applId, d.maturityYear,
   d.decayStartDate, d.channelId, d.currency, d.settlCurrency, d.secsubtype, d.rawSymbol, d.group,
   d.exchange, d.asset, d.cfi, d.securityType, d.unitOfMeasure, d.underlying,
   d.strikePriceCurrency, d.instrumentClass, d.matchAlgorithm, d.mdSecurityTradingStatus,
   d.mainFraction, d.priceDisplayFormat, d.settlPriceType, d.subFraction, d.underlyingProduct,
   d.securityUpdateAction, d.maturityMonth, d.maturityDay, d.maturityWeek,
   d.userDefinedInstrument, d.contractMultiplierUnit, d.flowScheduleType, d.tickRule, ())

def ofRowV2 : Row layoutV2 → InstrumentDefinition
  | (tsRecv, minPriceIncrement, displayFactor, expiration, activation, highLimitPrice,
     lowLimitPrice, maxPriceVariation, tradingReferencePrice, unitOfMeasureQty,
     minPriceIncrementAmount, priceRatio, strikePrice, instAttribValue, underlyingId,
     rawInstrumentId, marketDepthImplied, marketDepth, marketSegmentId, maxTradeVol, minLotSize,
     minLotSizeBlock, minLotSizeRoundLot, minTradeVol, contractMultiplier, decayQuantity,
     originalContractSize, tradingReferenceDate, applId, maturityYear, decayStartDate, channelId,
     currency, settlCurrency, secsubtype, rawSymbol, group, exchange, asset, cfi, securityType,
     unitOfMeasure, underlying, strikePriceCurrency, instrumentClass, matchAlgorithm,
     mdSecurityTradingStatus, mainFraction, priceDisplayFormat, settlPriceType, subFraction,
     underlyingProduct, securityUpdateAction, maturityMonth, maturityDay, maturityWeek,
     userDefinedInstrument, contractMultiplierUnit, flowScheduleType, tickRule, ()) =>
    ⟨tsRecv, minPriceIncrement, displayFactor, expiration, activation, highLimitPrice,
     lowLimitPrice, maxPriceVariation, tradingReferencePrice, unitOfMeasureQty,
     minPriceIncrementAmount, priceRatio, strikePrice, instAttribValue, underlyingId,
     rawInstrumentId, marketDepthImplied, marketDepth, marketSegmentId, maxTradeVol, minLotSize,
     minLotSizeBlock, minLotSizeRoundLot, minTradeVol, contractMultiplier, decayQuantity,
     originalContractSize, tradingReferenceDate, applId, maturityYear, decayStartDate, channelId,
     currency, settlCurrency, secsubtype, rawSymbol, group, exchange, asset, cfi, securityType,
     unitOfMeasure, underlying, strikePriceCurrency, instrumentClass, matchAlgorithm,
     mdSecurityTradingStatus, mainFraction, priceDisplayFormat, settlPriceType, subFraction,
     underlyingProduct, securityUpdateAction, maturityMonth, maturityDay, maturityWeek,
     userDefinedInstrument, contractMultiplierUnit, flowScheduleType, tickRule⟩

end InstrumentDefinition

end TickStream
