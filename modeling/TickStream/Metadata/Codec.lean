import TickStream.Bytes.Intake
import TickStream.Bytes.Writer
import TickStream.Metadata.Basic
/-
Metadata frames: the bytes before the first record of a stream.

A frame is a prefix, which states the version and the length of the rest, a header of
fixed size, and lists of symbols in fields of fixed width.  The versions differ in the
layout of the header and in the width of symbols.
-/
namespace TickStream
namespace Metadata

def prefixSize : Nat := 8

def datasetWidth : Nat := 16

def magic : Bytes := [0x44, 0x42, 0x4e]

def mixedSchema : UInt16 := 0xffff

def mixedSymbology : UInt8 := 0xff

/-! ## Writing -/

def schemaCode : Option Schema → UInt16
  | some s => s.code
  | none => mixedSchema

def symbologyCode : Option Symbology → UInt8
  | some s => s.code
  | none => mixedSymbology

def countEntry {α : Type} (items : List α) : Entry := .word .u32 (UInt32.ofNat items.length)

def symbolEntries (width : Nat) (field : String) (symbols : List String) : List Entry :=
  countEntry symbols :: symbols.map (.text field width)

def intervalEntries (width : Nat) (i : MappingInterval) : List Entry :=
  [.word .u32 i.first, .word .u32 i.last, .text "mapping symbol" width i.symbol]

def mappingEntries (width : Nat) (m : SymbolMapping) : List Entry :=
  .text "mapping raw_symbol" width m.symbol :: countEntry m.intervals ::
    m.intervals.flatMap (intervalEntries width)

/-- The symbologies and the flag for send times, which stand together in both versions. -/
def symbologyEntries (m : Metadata) : List Entry :=
  [.word .u8 (symbologyCode m.stypeIn), .word .u8 m.stypeOut.code,
   .word .u8 (Scalar.byteOfFlag m.tsOut)]

def headerEntries (m : Metadata) : List Entry :=
  [.text "dataset" datasetWidth m.dataset, .word .u16 (schemaCode m.schema),
   .word .u64 m.start, .word .u64 m.stop, .word .u64 m.limit] ++
  match m.version with
  | .v1 => .word .u64 (0 : UInt64) :: (m.symbologyEntries ++ [.zeros 47])
  | .v2 =>
    m.symbologyEntries ++ [.word .u16 (UInt16.ofNat (Version.symbolWidth .v2)), .zeros 53]

/-- All that follows the prefix.  The definition of a schema is never written: its length
is 0. -/
def entries (m : Metadata) : List Entry :=
  let width := m.version.symbolWidth
  m.headerEntries ++ .word .u32 (0 : UInt32) ::
    (symbolEntries width "symbols" m.symbols ++ symbolEntries width "partial" m.partly ++
      symbolEntries width "not_found" m.notFound ++ countEntry m.mappings ::
      m.mappings.flatMap (mappingEntries width))

def encode (m : Metadata) : Except Error Bytes := do
  let body ← Entry.encodeAll m.entries
  return magic ++ Word.u8.encode m.version.code ++
    Word.u32.encode (UInt32.ofNat body.length) ++ body

/-! ## Reading -/

def readSchema : Reader (Option Schema) := do
  let offset ← Reader.offset
  let n ← Reader.word .u16 "schema"
  if n = mixedSchema then return none
  match Schema.ofCode? n with
  | some s => return some s
  | none => throw (.unknownValue "schema" n.toNat offset)

def readSymbology (field : String) : Reader (Option Symbology) := do
  let offset ← Reader.offset
  let n ← Reader.word .u8 field
  if n = mixedSymbology then return none
  match Symbology.ofCode? n with
  | some s => return some s
  | none => throw (.unknownValue field n.toNat offset)

/-- The symbologies and the flag for send times.  Symbols can be asked for in a mix of
symbologies; they are not resolved to a mix. -/
def readSymbologies : Reader (Option Symbology × Symbology × Bool) := do
  let stypeIn ← readSymbology "stype_in"
  let offset ← Reader.offset
  match ← readSymbology "stype_out" with
  | none => throw (.unknownValue "stype_out" mixedSymbology.toNat offset)
  | some stypeOut =>
    let tsOut ← Reader.word .u8 "ts_out"
    return (stypeIn, stypeOut, Scalar.flagOfByte tsOut)

/-- The part of the header that the versions lay out in their own ways. -/
def readVersioned : Version → Reader (Option Symbology × Symbology × Bool)
  | .v1 => do
    Reader.skip 8 "record_count"
    let fields ← readSymbologies
    Reader.skip 47 "reserved"
    return fields
  | .v2 => do
    let fields ← readSymbologies
    let width ← Reader.word .u16 "symbol_cstr_len"
    if width.toNat ≠ Version.symbolWidth .v2 then
      throw (.symbolWidth Version.v2.code (Version.symbolWidth .v2) width.toNat)
    Reader.skip 53 "reserved"
    return fields

def readCount (context : String) : Reader Nat := do
  return (← Reader.word .u32 context).toNat

def readSymbols (width : Nat) (field : String) : Reader (List String) := do
  Reader.times (← readCount field) (Reader.text width field)

def readInterval (width : Nat) : Reader MappingInterval := do
  let first ← Reader.word .u32 "interval start_date"
  let last ← Reader.word .u32 "interval end_date"
  let symbol ← Reader.text width "mapping symbol"
  return ⟨first, last, symbol⟩

def readMapping (width : Nat) : Reader SymbolMapping := do
  let symbol ← Reader.text width "mapping raw_symbol"
  let intervals ← Reader.times (← readCount "mapping intervals") (readInterval width)
  return ⟨symbol, intervals⟩

/-- Reads what follows the prefix.  The definition of a schema is passed over, and what
follows the mappings is not looked at. -/
def readBody (version : Version) : Reader Metadata := do
  let width := version.symbolWidth
  let dataset ← Reader.text datasetWidth "dataset"
  let schema ← readSchema
  let start ← Reader.word .u64 "start"
  let stop ← Reader.word .u64 "end"
  let limit ← Reader.word .u64 "limit"
  let (stypeIn, stypeOut, tsOut) ← readVersioned version
  Reader.skip (← readCount "schema_definition length") "schema_definition"
  let symbols ← readSymbols width "symbols"
  let partly ← readSymbols width "partial"
  let notFound ← readSymbols width "not_found"
  let mappings ← Reader.times (← readCount "mappings") (readMapping width)
  return {
    version, dataset, schema, start, stop, limit, stypeIn, stypeOut, tsOut, symbols, partly,
    notFound, mappings }

def decodePrefix (bs : Bytes) : Except Error (Version × Nat) :=
  if bs.take magic.length ≠ magic then .error (.badMagic (bs.take magic.length))
  else do
    let version ← Version.ofCode (Word.u8.decode (bs.drop 3 |>.take 1))
    return (version, (Word.u32.decode (bs.drop 4)).toNat)

def decodeBody (version : Version) (body : Bytes) : Except Error Metadata :=
  Reader.run (readBody version) body prefixSize

/-- Decodes a frame.  Bytes after the frame are not looked at. -/
def decode (bs : Bytes) : Except Error Metadata := do
  let front ← Reader.run (Reader.take prefixSize "metadata prefix") bs 0
  let (version, length) ← decodePrefix front
  let body ← Reader.run (Reader.take length "metadata body") (bs.drop prefixSize) prefixSize
  decodeBody version body

/-- Takes a frame off a source, and nothing more.  Gives the bytes of the frame, too. -/
def read : Intake (Metadata × Nat) := do
  let front ← Intake.exactly prefixSize "metadata prefix" 0
  let (version, length) ← ofExcept (decodePrefix front)
  let body ← Intake.exactly length "metadata body" prefixSize
  let m ← ofExcept (decodeBody version body)
  return (m, prefixSize + length)

end Metadata
end TickStream
