import TickStream.Error
import TickStream.Text.Split
/-
Control lines of the gateway.

A line is made of pairs `key=value` with bars between them.  Parts without an equals sign
say nothing, and of two pairs with one key the later counts.
-/
namespace TickStream
namespace Live

/-- A line without the newline at its end, if it has one. -/
def stripNewline (cs : List Char) : List Char :=
  if cs.getLast? = some '\n' then cs.dropLast else cs

/-- A line without the newline at its end, and without a carriage return before that. -/
def stripLineEnd (line : String) : List Char :=
  let cs := stripNewline line.toList
  if cs.getLast? = some '\r' then cs.dropLast else cs

/-- A part cut at its first equals sign. -/
def pair? (part : List Char) : Option (String × String) :=
  match part.dropWhile (· ≠ '=') with
  | [] => none
  | _ :: value => some (String.ofList (part.takeWhile (· ≠ '=')), String.ofList value)

def pairs (line : String) : List (String × String) :=
  (Text.split '|' (stripLineEnd line)).filterMap pair?

def value? (key : String) (fields : List (String × String)) : Option String :=
  (fields.reverse.find? fun f => f.1 == key).map (·.2)

/-- The value of a key that the message cannot do without. -/
def value (message key : String) (fields : List (String × String)) : Except Error String :=
  match value? key fields with
  | some v => .ok v
  | none => .error (.protocol (.missingKey message key))

def greeting (line : String) : Except Error String :=
  value "greeting" "lsg_version" (pairs line)

def challenge (line : String) : Except Error String :=
  value "challenge" "cram" (pairs line)

/-- The gateway's answer to an authentication. -/
structure Verdict where
  success : Bool
  sessionId : Option String
  reason : Option String
  deriving DecidableEq, Repr

namespace Verdict

def flag (text : String) : Except Error Bool :=
  if text = "1" || text = "true" then .ok true
  else if text = "0" || text = "false" then .ok false
  else .error (.protocol (.badFlag text))

def parse (line : String) : Except Error Verdict := do
  let fields := pairs line
  let success ← flag (← value "authentication response" "success" fields)
  return ⟨success, value? "session_id" fields, value? "error" fields⟩

/-- The identifier of the session, or the reason why there is none. -/
def accept (v : Verdict) : Except Error String :=
  if v.success then .ok (v.sessionId.getD "")
  else .error (.refused (v.reason.getD "gateway gave no reason"))

end Verdict
end Live
end TickStream
