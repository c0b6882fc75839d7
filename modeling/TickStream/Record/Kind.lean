import TickStream.Record.Body.Book
import TickStream.Record.Body.Definition
import TickStream.Record.Body.Market
import TickStream.Record.Body.Message
import TickStream.Version
import TickStream.Vocabulary.Tag
/-
The kinds of record bodies: which tags mean them, what they hold and how they are laid
out in each version.
-/
namespace TickStream

inductive Kind where
  | mbo
  | trade
  | mbp1
  | mbp10
  | bbo
  | cmbp1
  | cbbo
  | ohlcv
  | status
  | definition
  | imbalance
  | statistic
  | error
  | system
  | symbolMapping
  deriving DecidableEq, Repr

namespace Kind

def tags : Kind → List UInt8
  | mbo => [Tag.mbo]
  | trade => [Tag.mbp0]
  | mbp1 => [Tag.mbp1]
  | mbp10 => [Tag.mbp10]
  | bbo => [Tag.bbo1s, Tag.bbo1m]
  | cmbp1 => [Tag.cmbp1, Tag.tcbbo]
  | cbbo => [Tag.cbbo1s, Tag.cbbo1m]
  | ohlcv =>
    [Tag.ohlcvDeprecated, Tag.ohlcv1s, Tag.ohlcv1m, Tag.ohlcv1h, Tag.ohlcv1d, Tag.ohlcvEod]
  | status => [Tag.status]
  | definition => [Tag.instrumentDef]
  | imbalance => [Tag.imbalance]
  | statistic => [Tag.statistics]
  | error => [Tag.error]
  | system => [Tag.system]
  | symbolMapping => [Tag.symbolMapping]

def all : List Kind :=
  [mbo, trade, mbp1, mbp10, bbo, cmbp1, cbbo, ohlcv, status, definition, imbalance, statistic,
   error, system, symbolMapping]

def ofTag? (tag : UInt8) : Option Kind := all.find? fun k => k.tags.contains tag

set_option maxRecDepth 2000 in
/-- A kind is found by each of its tags. -/
theorem ofTag?_of_mem {tag : UInt8} {k : Kind} (h : tag ∈ k.tags) : ofTag? tag = some k := by
  have key : ∀ k' : Kind, ∀ t ∈ k'.tags, ofTag? t = some k' := by
    intro k'
    cases k' <;> decide
  exact key k tag h

/-- What a record of a kind holds besides its header. -/
abbrev Body : Kind → Type
  | mbo => Mbo
  | trade => Trade
  | mbp1 => Mbp1
  | mbp10 => Mbp10
  | bbo => Bbo
  | cmbp1 => Cmbp1
  | cbbo => Cbbo
  | ohlcv => Ohlcv
  | status => Status
  | definition => InstrumentDefinition
  | imbalance => Imbalance
  | statistic => Statistic
  | error => ErrorMessage
  | system => SystemMessage
  | symbolMapping => SymbolMappingMessage

instance : (k : Kind) → DecidableEq k.Body
  | mbo => inferInstanceAs (DecidableEq Mbo)
  | trade => inferInstanceAs (DecidableEq Trade)
  | mbp1 => inferInstanceAs (DecidableEq Mbp1)
  | mbp10 => inferInstanceAs (DecidableEq Mbp10)
  | bbo => inferInstanceAs (DecidableEq Bbo)
  | cmbp1 => inferInstanceAs (DecidableEq Cmbp1)
  | cbbo => inferInstanceAs (DecidableEq Cbbo)
  | ohlcv => inferInstanceAs (DecidableEq Ohlcv)
  | status => inferInstanceAs (DecidableEq Status)
  | definition => inferInstanceAs (DecidableEq InstrumentDefinition)
  | imbalance => inferInstanceAs (DecidableEq Imbalance)
  | statistic => inferInstanceAs (DecidableEq Statistic)
  | error => inferInstanceAs (DecidableEq ErrorMessage)
  | system => inferInstanceAs (DecidableEq SystemMessage)
  | symbolMapping => inferInstanceAs (DecidableEq SymbolMappingMessage)

abbrev layout : Kind → Version → Layout
  | mbo, _ => Mbo.layout
  | trade, _ => Trade.layout
  | mbp1, _ => Mbp1.layout
  | mbp10, _ => Mbp10.layout
  | bbo, _ => Bbo.layout
  | cmbp1, _ => Cmbp1.layout
  | cbbo, _ => Cbbo.layout
  | ohlcv, _ => Ohlcv.layout
  | status, _ => Status.layout
  | definition, .v1 => InstrumentDefinition.layoutV1
  | definition, .v2 => InstrumentDefinition.layoutV2
  | imbalance, _ => Imbalance.layout
  | statistic, _ => Statistic.layout
  | error, .v1 => ErrorMessage.layoutV1
  | error, .v2 => ErrorMessage.layoutV2
  | system, .v1 => SystemMessage.layoutV1
  | system, .v2 => SystemMessage.layoutV2
  | symbolMapping, .v1 => SymbolMappingMessage.layoutV1
  | symbolMapping, .v2 => SymbolMappingMessage.layoutV2

/-- The fields of a body in the order of a version's layout. -/
def toRow : (k : Kind) → (v : Version) → k.Body → Row (k.layout v)
  | mbo, _, b => Mbo.toRow b
  | trade, _, b => Trade.toRow b
  | mbp1, _, b => Mbp1.toRow b
  | mbp10, _, b => Mbp10.toRow b
  | bbo, _, b => Bbo.toRow b
  | cmbp1, _, b => Cmbp1.toRow b
  | cbbo, _, b => Cbbo.toRow b
  | ohlcv, _, b => Ohlcv.toRow b
  | status, _, b => Status.toRow b
  | definition, .v1, b => InstrumentDefinition.toRowV1 b
  | definition, .v2, b => InstrumentDefinition.toRowV2 b
  | imbalance, _, b => Imbalance.toRow b
  | statistic, _, b => Statistic.toRow b
  | error, .v1, b => ErrorMessage.toRowV1 b
  | error, .v2, b => ErrorMessage.toRowV2 b
  | system, .v1, b => SystemMessage.toRowV1 b
  | system, .v2, b => SystemMessage.toRowV2 b
  | symbolMapping, .v1, b => SymbolMappingMessage.toRowV1 b
  | symbolMapping, .v2, b => SymbolMappingMessage.toRowV2 b

/-- The body of the given fields.  Fields that a version lacks have their unset values. -/
def ofRow : (k : Kind) → (v : Version) → Row (k.layout v) → k.Body
  | mbo, _, row => Mbo.ofRow row
  | trade, _, row => Trade.ofRow row
  | mbp1, _, row => Mbp1.ofRow row
  | mbp10, _, row => Mbp10.ofRow row
  | bbo, _, row => Bbo.ofRow row
  | cmbp1, _, row => Cmbp1.ofRow row
  | cbbo, _, row => Cbbo.ofRow row
  | ohlcv, _, row => Ohlcv.ofRow row
  | status, _, row => Status.ofRow row
  | definition, .v1, row => InstrumentDefinition.ofRowV1 row
  | definition, .v2, row => InstrumentDefinition.ofRowV2 row
  | imbalance, _, row => Imbalance.ofRow row
  | statistic, _, row => Statistic.ofRow row
  | error, .v1, row => ErrorMessage.ofRowV1 row
  | error, .v2, row => ErrorMessage.ofRowV2 row
  | system, .v1, row => SystemMessage.ofRowV1 row
  | system, .v2, row => SystemMessage.ofRowV2 row
  | symbolMapping, .v1, row => SymbolMappingMessage.ofRowV1 row
  | symbolMapping, .v2, row => SymbolMappingMessage.ofRowV2 row

/-- What a version's layout holds is kept by the body. -/
@[simp] theorem toRow_ofRow (k : Kind) (v : Version) (row : Row (k.layout v)) :
    k.toRow v (k.ofRow v row) = row := by
  cases k <;> cases v <;> rfl

/-- The second version's layout holds all of a body. -/
@[simp] theorem ofRow_toRow_v2 (k : Kind) (b : k.Body) : k.ofRow .v2 (k.toRow .v2 b) = b := by
  cases k <;> rfl

/-- The bytes of a record, header included and send time not. -/
def size (k : Kind) (v : Version) : Nat := 16 + Row.width (k.layout v)

theorem size_eq (k : Kind) (v : Version) : k.size v = match k, v with
    | mbo, _ => 56
    | trade, _ => 48
    | mbp1, _ | bbo, _ | cmbp1, _ | cbbo, _ => 80
    | mbp10, _ => 368
    | ohlcv, _ => 56
    | status, _ => 40
    | definition, .v1 => 360
    | definition, .v2 => 400
    | imbalance, _ => 112
    | statistic, _ => 64
    | error, .v1 | system, .v1 | symbolMapping, .v1 => 80
    | error, .v2 | system, .v2 => 320
    | symbolMapping, .v2 => 176 := by
  cases k <;> cases v <;> rfl

end Kind
end TickStream
