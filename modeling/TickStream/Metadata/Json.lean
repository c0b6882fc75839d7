import TickStream.Json.Printer
import TickStream.Metadata.Basic
/-
Metadata in JSON: one object, with its members in the order of the frame.
-/
namespace TickStream
namespace Metadata

def nameOrNull {α : Type} (name : α → String) : Option α → Json
  | some a => .string (name a)
  | none => .null

def textsToJson (texts : List String) : Json := .array (texts.map Json.string)

def intervalToJson (i : MappingInterval) : Json :=
  .object [("start_date", .ofNat i.first.toNat), ("end_date", .ofNat i.last.toNat),
    ("symbol", .string i.symbol)]

def mappingToJson (m : SymbolMapping) : Json :=
  .object [("raw_symbol", .string m.symbol), ("intervals", .array (m.intervals.map intervalToJson))]

def toJson (m : Metadata) : Json :=
  .object
    [("version", .ofNat m.version.code.toNat), ("dataset", .string m.dataset),
     ("schema", nameOrNull Schema.name m.schema), ("start", .ofNat m.start.toNat),
     ("end", .ofNat m.stop.toNat), ("limit", .ofNat m.limit.toNat),
     ("stype_in", nameOrNull Symbology.name m.stypeIn),
     ("stype_out", .string m.stypeOut.name), ("ts_out", .bool m.tsOut),
     ("symbols", textsToJson m.symbols), ("partial", textsToJson m.partly),
     ("not_found", textsToJson m.notFound), ("mappings", .array (m.mappings.map mappingToJson))]

end Metadata
end TickStream
