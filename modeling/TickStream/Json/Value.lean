import TickStream.Decimal.Double
/-
JSON values, and the order that members of an object are kept in when a text is read.
-/
namespace TickStream

namespace Json

/-- A JSON number.  Integers that fit 64 bits are exact; all others are doubles. -/
inductive Number where
  | natural (n : UInt64)
  | negative (n : Int64)
  | real (d : Decimal.Double)
  deriving DecidableEq, Repr

end Json

/-- A JSON value.  The members of an object stand in the order they are written in. -/
inductive Json where
  | null
  | bool (b : Bool)
  | number (n : Json.Number)
  | string (s : String)
  | array (items : List Json)
  | object (members : List (String × Json))
  deriving Repr

namespace Json

def insertMember (key : String) (v : Json) : List (String × Json) → List (String × Json)
  | [] => [(key, v)]
  | (k, w) :: rest =>
    if key < k then (key, v) :: (k, w) :: rest
    else if key = k then (key, v) :: rest
    else (k, w) :: insertMember key v rest

/-- Members sorted by key, each key once; of two members of one key the later counts. -/
def sortMembers (members : List (String × Json)) : List (String × Json) :=
  members.foldl (fun sorted m => insertMember m.1 m.2 sorted) []

def lookup (key : String) (members : List (String × Json)) : Option Json :=
  (members.find? fun m => m.1 == key).map (·.2)

def member? (key : String) : Json → Option Json
  | object members => lookup key members
  | _ => none

def ofNat (n : Nat) : Json := number (.natural (UInt64.ofNat n))

def ofInt (v : Int) : Json :=
  if v < 0 then number (.negative (Int64.ofInt v)) else number (.natural (UInt64.ofNat v.toNat))

theorem lookup_cons (k k' : String) (w : Json) (rest : List (String × Json)) :
    lookup k ((k', w) :: rest) = if k' = k then some w else lookup k rest := by
  by_cases h : k' = k <;> simp [lookup, h]

theorem lookup_insertMember (key : String) (v : Json) (members : List (String × Json))
    (k : String) :
    lookup k (insertMember key v members) = if key = k then some v else lookup k members := by
  induction members with
  | nil => exact lookup_cons k key v []
  | cons m rest ih =>
    obtain ⟨k', w⟩ := m
    simp only [insertMember]
    split
    · rw [lookup_cons]
    · split
      · rename_i h
        subst h
        rw [lookup_cons, lookup_cons]
        split <;> rfl
      · rename_i hne
        rw [lookup_cons, lookup_cons, ih]
        by_cases h : key = k
        · have : k' ≠ k := fun e => hne (h.trans e.symm)
          simp [h, this]
        · simp [h]

end Json
end TickStream
