import TickStream.Bytes.Cursor
import TickStream.Json.Parser
/-
Layouts as data.  A layout is a list of slots: named fields and reserved gaps.  The
values of its fields form a row, and one recursion on the layout writes a row to bytes,
reads it back, and does the same for JSON.
-/
namespace TickStream

/-- A family of field kinds: what a field of each kind holds, and how its value is
written and read. -/
class FieldKind (κ : Type) where
  Val : κ → Type
  width : κ → Nat
  /-- The bytes of a value, in a field of the given name. -/
  encode : (k : κ) → String → Val k → Except Error Bytes
  read : (k : κ) → String → Reader (Val k)
  toJson : (k : κ) → Val k → Json
  ofJson : (k : κ) → Json → Except Json.Fault (Val k)

open FieldKind

/-- A part of a layout. -/
inductive Slot (κ : Type) [FieldKind κ] where
  /-- Reserved bytes: written as zeros, passed over when read. -/
  | gap (width : Nat)
  | field (name : String) (kind : κ)
  /-- A field that JSON may leave out, with the value it then has. -/
  | optional (name : String) (kind : κ) (unset : Val kind)

variable {κ : Type} [FieldKind κ]

namespace Slot

def width : Slot κ → Nat
  | gap n => n
  | field _ k => FieldKind.width k
  | optional _ k _ => FieldKind.width k

/-- What is wrong with a JSON value for a field of the given kind. -/
def kindFault? (k : κ) (j : Json) : Option Json.Fault :=
  match ofJson k j with
  | .ok _ => none
  | .error e => some e

/-- What is wrong with a JSON value for the field `name`, if the slot is that field. -/
def fault? (name : String) (j : Json) : Slot κ → Option Json.Fault
  | gap _ => none
  | field n k => if n = name then kindFault? k j else none
  | optional n k _ => if n = name then kindFault? k j else none

end Slot

/-- The values of a layout's fields, one after the other. -/
def Row : List (Slot κ) → Type
  | [] => Unit
  | .gap _ :: slots => Row slots
  | .field _ k :: slots => Val k × Row slots
  | .optional _ k _ :: slots => Val k × Row slots

namespace Row

def width : List (Slot κ) → Nat
  | [] => 0
  | slot :: slots => slot.width + width slots

def encode : (slots : List (Slot κ)) → Row slots → Except Error Bytes
  | [], _ => .ok []
  | .gap n :: slots, row => do
    return Bytes.zeros n ++ (← encode slots row)
  | .field name k :: slots, (v, row) => do
    let bs ← FieldKind.encode k name v
    return bs ++ (← encode slots row)
  | .optional name k _ :: slots, (v, row) => do
    let bs ← FieldKind.encode k name v
    return bs ++ (← encode slots row)

def read : (slots : List (Slot κ)) → Reader (Row slots)
  | [] => return ()
  | .gap n :: slots => do
    Reader.skip n "reserved"
    read slots
  | .field name k :: slots => do
    let v ← FieldKind.read k name
    return (v, ← read slots)
  | .optional name k _ :: slots => do
    let v ← FieldKind.read k name
    return (v, ← read slots)

/-! ## JSON -/

/-- The fields of a row as members, in the order of the layout. -/
def toMembers : (slots : List (Slot κ)) → Row slots → List (String × Json)
  | [], _ => []
  | .gap _ :: slots, row => toMembers slots row
  | .field name k :: slots, (v, row) => (name, toJson k v) :: toMembers slots row
  | .optional name k _ :: slots, (v, row) => (name, toJson k v) :: toMembers slots row

/-- Takes the fields from members.  A field that is absent has its unset value or is
missing. -/
def ofMembers : (slots : List (Slot κ)) → List (String × Json) → Except Json.Fault (Row slots)
  | [], _ => .ok ()
  | .gap _ :: slots, members => ofMembers slots members
  | .field name k :: slots, members => do
    let v ← match Json.lookup name members with
      | some j => ofJson k j
      | none => .error (.mismatch (.missingField name))
    return (v, ← ofMembers slots members)
  | .optional name k unset :: slots, members => do
    let v ← match Json.lookup name members with
      | some j => ofJson k j
      | none => .ok unset
    return (v, ← ofMembers slots members)

/-- The first fault among the members, in their order.  Members that are no fields of
the layout are not looked at. -/
def firstFault (slots : List (Slot κ)) (members : List (String × Json)) : Option Json.Fault :=
  members.findSome? fun m => slots.findSome? fun s => s.fault? m.1 m.2

/-- Takes the fields from the members of an object: a bad value is reported before a
missing field. -/
def ofObject (slots : List (Slot κ)) (members : List (String × Json)) :
    Except Json.Fault (Row slots) :=
  match firstFault slots members with
  | some e => .error e
  | none => ofMembers slots members

def count : List (Slot κ) → Nat
  | [] => 0
  | .gap _ :: slots => count slots
  | .field _ _ :: slots => count slots + 1
  | .optional _ _ _ :: slots => count slots + 1

/-- What is said when an array has items left over. -/
def tooLong (length : Nat) : Json.Fault := .mismatch (.wrongLength length "fewer elements in array")

/-- Takes the fields from the items of an array, in the order of the layout.  `index` is
the place of the first item and `expected` says what was asked for. -/
def ofItems (expected : String) :
    (slots : List (Slot κ)) → (index : Nat) → List Json → Except Json.Fault (Row slots)
  | [], index, items => if items.isEmpty then .ok () else .error (tooLong (index + items.length))
  | .gap _ :: slots, index, items => ofItems expected slots index items
  | .field _ _ :: _, index, [] => .error (.mismatch (.wrongLength index expected))
  | .field _ k :: slots, index, j :: items => do
    let v ← ofJson k j
    return (v, ← ofItems expected slots (index + 1) items)
  | .optional _ _ unset :: slots, index, [] => do
    return (unset, ← ofItems expected slots (index + 1) [])
  | .optional _ k _ :: slots, index, j :: items => do
    let v ← ofJson k j
    return (v, ← ofItems expected slots (index + 1) items)

/-- Reads a structure called `name`, given as an object or as an array of its fields. -/
def ofJson (name : String) (slots : List (Slot κ)) : Json → Except Json.Fault (Row slots)
  | .object members => ofObject slots members
  | .array items => ofItems s!"struct {name} with {count slots} elements" slots 0 items
  | j => .error (.mismatch (.wrongType j.found s!"struct {name}"))

end Row
end TickStream
