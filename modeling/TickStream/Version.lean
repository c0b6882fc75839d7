import TickStream.Error
/-
The two versions of the format.
-/
namespace TickStream

/-- A version of the format.  They differ in the width of symbols and in the layout of a
few records. -/
inductive Version where
  | v1
  | v2
  deriving DecidableEq, Repr

namespace Version

def code : Version → UInt8
  | v1 => 1
  | v2 => 2

def ofCode (n : UInt8) : Except Error Version :=
  if n = 1 then .ok v1 else if n = 2 then .ok v2 else .error (.badVersion n)

/-- The bytes of a symbol field. -/
def symbolWidth : Version → Nat
  | v1 => 22
  | v2 => 71

theorem ofCode_code (v : Version) : ofCode v.code = .ok v := by cases v <;> rfl

end Version
end TickStream
