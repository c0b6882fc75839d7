import TickStream.Record.Field
/-
Record bodies of messages from the gateway.  The first version of the format has
narrower texts and lacks some fields, which then hold values that say so.
-/
namespace TickStream

/-- The code of a message that has none. -/
def unsetCode : UInt8 := 255

/-- The naming scheme of a symbol mapping that states none. -/
def unsetSymbology : UInt8 := 255

/-- A failure that the gateway reports. -/
structure ErrorMessage where
  text : String
  code : UInt8
  /-- Whether no further part of the failure follows. -/
  isLast : Bool
  deriving DecidableEq, Repr

namespace ErrorMessage

abbrev layoutV1 : Layout :=
  [.field "err" (.text 64)]

abbrev layoutV2 : Layout :=
  [.field "err" (.text 302), .optional "code" .u8 unsetCode, .optional "is_last" .flag true]

def toRowV1 (m : ErrorMessage) : Row layoutV1 :=
  (m.text, ())

def ofRowV1 : Row layoutV1 → ErrorMessage
  | (text, ()) =>
    ⟨text, unsetCode, true⟩

def toRowV2 (m : ErrorMessage) : Row layoutV2 :=
  (m.text, m.code, m.isLast, ())

def ofRowV2 : Row layoutV2 → ErrorMessage
  | (text, code, isLast, ()) =>
    ⟨text, code, isLast⟩

end ErrorMessage

/-- A message of the gateway that is no failure. -/
structure SystemMessage where
  text : String
  code : UInt8
  deriving DecidableEq, Repr

namespace SystemMessage

abbrev layoutV1 : Layout :=
  [.field "msg" (.text 64)]

abbrev layoutV2 : Layout :=
  [.field "msg" (.text 303), .optional "code" .u8 unsetCode]

def toRowV1 (m : SystemMessage) : Row layoutV1 :=
  (m.text, ())

def ofRowV1 : Row layoutV1 → SystemMessage
  | (text, ()) =>
    ⟨text, unsetCode⟩

def toRowV2 (m : SystemMessage) : Row layoutV2 :=
  (m.text, m.code, ())

def ofRowV2 : Row layoutV2 → SystemMessage
  | (text, code, ()) =>
    ⟨text, code⟩

def isHeartbeat (m : SystemMessage) : Bool :=
  if m.code = unsetCode then m.text.startsWith "Heartbeat" else m.code = 0

end SystemMessage

/-- The symbol of the instrument in the header, from now on. -/
structure SymbolMappingMessage where
  /-- The naming scheme of the symbol asked for. -/
  stypeIn : UInt8
  stypeInSymbol : String
  /-- The naming scheme of the symbol it stands for. -/
  stypeOut : UInt8
  stypeOutSymbol : String
  startTs : UInt64
  endTs : UInt64
  deriving DecidableEq, Repr

namespace SymbolMappingMessage

abbrev layoutV1 : Layout :=
  [.field "stype_in_symbol" (.text 22), .field "stype_out_symbol" (.text 22), .gap 4,
   .field "start_ts" .count, .field "end_ts" .count]

abbrev layoutV2 : Layout :=
  [.optional "stype_in" .u8 unsetSymbology, .field "stype_in_symbol" (.text 71),
   .optional "stype_out" .u8 unsetSymbology, .field "stype_out_symbol" (.text 71),
   .field "start_ts" .count, .field "end_ts" .count]

def toRowV1 (m : SymbolMappingMessage) : Row layoutV1 :=
  (m.stypeInSymbol, m.stypeOutSymbol, m.startTs, m.endTs, ())

def ofRowV1 : Row layoutV1 → SymbolMappingMessage
  | (stypeInSymbol, stypeOutSymbol, startTs, endTs, ()) =>
    ⟨unsetSymbology, stypeInSymbol, unsetSymbology, stypeOutSymbol, startTs, endTs⟩

def toRowV2 (m : SymbolMappingMessage) : Row layoutV2 :=
  (m.stypeIn, m.stypeInSymbol, m.stypeOut, m.stypeOutSymbol, m.startTs, m.endTs, ())

def ofRowV2 : Row layoutV2 → SymbolMappingMessage
  | (stypeIn, stypeInSymbol, stypeOut, stypeOutSymbol, startTs, endTs, ()) =>
    ⟨stypeIn, stypeInSymbol, stypeOut, stypeOutSymbol, startTs, endTs⟩

end SymbolMappingMessage

end TickStream
