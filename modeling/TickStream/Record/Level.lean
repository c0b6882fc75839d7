import TickStream.Record.Scalar
/-
Price levels: the two sides of a book at one depth.
-/
namespace TickStream

/-- One level of the book of a venue: prices, sizes and order counts. -/
structure BidAsk where
  bidPrice : Price
  askPrice : Price
  bidSize : UInt32
  askSize : UInt32
  bidCount : UInt32
  askCount : UInt32
  deriving DecidableEq, Repr

/-- The top of a consolidated book: prices, sizes and the publisher of each side. -/
structure ConsolidatedBidAsk where
  bidPrice : Price
  askPrice : Price
  bidSize : UInt32
  askSize : UInt32
  bidPublisher : UInt16
  askPublisher : UInt16
  deriving DecidableEq, Repr

inductive LevelKind where
  | plain
  | consolidated
  deriving DecidableEq, Repr

namespace LevelKind

abbrev Val : LevelKind → Type
  | plain => BidAsk
  | consolidated => ConsolidatedBidAsk

def name : LevelKind → String
  | plain => "BidAskPair"
  | consolidated => "ConsolidatedBidAskPair"

abbrev slots : LevelKind → List (Slot Scalar)
  | plain =>
    [.field "bid_px" .price, .field "ask_px" .price, .field "bid_sz" (.word .u32),
     .field "ask_sz" (.word .u32), .field "bid_ct" (.word .u32), .field "ask_ct" (.word .u32)]
  | consolidated =>
    [.field "bid_px" .price, .field "ask_px" .price, .field "bid_sz" (.word .u32),
     .field "ask_sz" (.word .u32), .field "bid_pb" (.word .u16), .gap 2,
     .field "ask_pb" (.word .u16), .gap 2]

def toRow : (k : LevelKind) → k.Val → Row k.slots
  | plain, ⟨bidPrice, askPrice, bidSize, askSize, bidCount, askCount⟩ =>
    (bidPrice, askPrice, bidSize, askSize, bidCount, askCount, ())
  | consolidated, ⟨bidPrice, askPrice, bidSize, askSize, bidPublisher, askPublisher⟩ =>
    (bidPrice, askPrice, bidSize, askSize, bidPublisher, askPublisher, ())

def ofRow : (k : LevelKind) → Row k.slots → k.Val
  | plain, (bidPrice, askPrice, bidSize, askSize, bidCount, askCount, ()) =>
    ⟨bidPrice, askPrice, bidSize, askSize, bidCount, askCount⟩
  | consolidated, (bidPrice, askPrice, bidSize, askSize, bidPublisher, askPublisher, ()) =>
    ⟨bidPrice, askPrice, bidSize, askSize, bidPublisher, askPublisher⟩

@[simp] theorem ofRow_toRow (k : LevelKind) (v : k.Val) : k.ofRow (k.toRow v) = v := by
  cases k <;> rfl

@[simp] theorem toRow_ofRow (k : LevelKind) (row : Row k.slots) : k.toRow (k.ofRow row) = row := by
  cases k <;> rfl

/-- A level of either kind takes 32 bytes. -/
theorem width_slots (k : LevelKind) : Row.width k.slots = 32 := by cases k <;> rfl

def encode (k : LevelKind) (v : k.Val) : Except Error Bytes := Row.encode k.slots (k.toRow v)

def read (k : LevelKind) : Reader k.Val := do return k.ofRow (← Row.read k.slots)

def toJson (k : LevelKind) (v : k.Val) : Json := .object (Row.toMembers k.slots (k.toRow v))

def ofJson (k : LevelKind) (j : Json) : Except Json.Fault k.Val :=
  (Row.ofJson k.name k.slots j).map k.ofRow

/-! ## Several levels -/

def encodeAll (k : LevelKind) : List k.Val → Except Error Bytes
  | [] => .ok []
  | v :: vs => do
    let bs ← k.encode v
    return bs ++ (← encodeAll k vs)

def readAll (k : LevelKind) : (n : Nat) → Reader (Vector k.Val n)
  | 0 => return #v[]
  | n + 1 => do
    let front ← readAll k n
    return front.push (← k.read)

/-- What a diagnostic says was asked for where `n` levels were. -/
def expected (n : Nat) : String := s!"an array of length {n}"

/-- Takes the first `n` of the items of an array as levels; `total` were asked for. -/
def takeItems (k : LevelKind) (total : Nat) (items : List Json) :
    (n : Nat) → Except Json.Fault (Vector k.Val n)
  | 0 => .ok #v[]
  | n + 1 => do
    let front ← takeItems k total items n
    match items[n]? with
    | some j => return front.push (← k.ofJson j)
    | none => .error (.mismatch (.wrongLength n (expected total)))

/-- Reads exactly `n` levels from an array. -/
def ofArray (k : LevelKind) (n : Nat) : Json → Except Json.Fault (Vector k.Val n)
  | .array items => do
    let levels ← takeItems k n items n
    if n < items.length then .error (Row.tooLong items.length)
    return levels
  | j => .error (.mismatch (.wrongType j.found (expected n)))

end LevelKind
end TickStream
