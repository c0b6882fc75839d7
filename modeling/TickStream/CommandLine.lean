import TickStream.Text.Split
/-
Command lines: options that fill in a form, and operands.

An option has a name and may have a letter.  Its value is the next argument, or stands in
the same one: `--name value`, `--name=value`, `-x value`, `-xvalue`, `-x=value`.  An argument
with a hyphen in front is never a value, but a single hyphen can be.  After `--` all
arguments are operands.

A value is looked at when the next option is met or the line ends, not when it is found; so
of two faults in a line, not always the first one counts.
-/
namespace TickStream

/-- Why a command line does not fill in a form, or what it asks for instead. -/
inductive Refusal where
  /-- An argument that is no option, and no operand that could stand there. -/
  | unknownArgument
  /-- An option that lacks its value, or a value that is none of those it can have. -/
  | invalidValue
  | unreadableValue
  /-- An option that is given twice and can be given once. -/
  | repeatedOption
  /-- A value for an option that has none. -/
  | unexpectedValue
  | missingArgument
  | helpWanted
  | versionWanted
  deriving DecidableEq, Repr

namespace CommandLine

inductive Action (σ : Type) where
  | flag (set : σ → σ)
  /-- It has a value and can be given once. -/
  | value (read : String → σ → Except Refusal σ)
  /-- It has a list of values with `separator` between them, and can be given again. -/
  | list (separator : Char) (read : String → σ → Except Refusal σ)
  /-- It asks for something else. -/
  | stop (why : Refusal)

structure Switch (σ : Type) where
  name : String
  letter : Option Char
  action : Action σ

/-- The options of a command, and how an operand is read if there can be some. -/
structure Grammar (σ : Type) where
  switches : List (Switch σ)
  operand : Option (String → σ → Except Refusal σ)

/-- What has been met and not been looked at. -/
inductive Pending (σ : Type) where
  | nothing
  /-- An option whose value is to come. -/
  | awaiting (s : Switch σ)
  | supplied (s : Switch σ) (value : String)
  /-- Operands, the last one first. -/
  | operands (values : List String)

structure Progress (σ : Type) where
  form : σ
  /-- The names of the options that can be given once and have been. -/
  given : List String
  pending : Pending σ

def Switch.applyTo {σ : Type} (s : Switch σ) (value : String) (p : Progress σ) :
    Except Refusal (Progress σ) :=
  let once (form : Except Refusal σ) : Except Refusal (Progress σ) :=
    if p.given.contains s.name then .error .repeatedOption
    else form.map fun form => { p with form := form, given := s.name :: p.given }
  match s.action with
  | .flag set => once (.ok (set p.form))
  | .value read => once (read value p.form)
  | .list separator read => do
    let parts := (Text.split separator value.toList).map String.ofList
    let form ← parts.foldlM (fun form part => read part form) p.form
    return { p with form := form }
  | .stop why => .error why

namespace Grammar

variable {σ : Type}

def settle (g : Grammar σ) (p : Progress σ) : Except Refusal (Progress σ) :=
  match p.pending with
  | .nothing => .ok p
  | .awaiting _ => .error .invalidValue
  | .supplied s value => s.applyTo value { p with pending := .nothing }
  | .operands values =>
    match g.operand with
    | none => .error .unknownArgument
    | some read => do
      let form ← values.reverse.foldlM (fun form value => read value form) p.form
      return { p with form := form, pending := .nothing }

/-- Meets an option.  `value` is what stands in the same argument, if anything does. -/
def meet (g : Grammar σ) (s : Switch σ) (value : Option String) (p : Progress σ) :
    Except Refusal (Progress σ) :=
  match s.action, value with
  | .flag _, none | .stop _, none => do s.applyTo "" (← g.settle p)
  | .flag _, some _ | .stop _, some _ => .error .unexpectedValue
  | _, some v => do s.applyTo v (← g.settle p)
  | _, none => do return { ← g.settle p with pending := .awaiting s }

def named (g : Grammar σ) (body : List Char) (p : Progress σ) : Except Refusal (Progress σ) :=
  let name := String.ofList (body.takeWhile (· ≠ '='))
  let value := match body.dropWhile (· ≠ '=') with
    | [] => none
    | _ :: v => some (String.ofList v)
  match g.switches.find? fun s => s.name == name with
  | some s => g.meet s value p
  | none => .error .unknownArgument

/-- Meets options by their letters.  The first that has a value takes the rest for it. -/
def lettered (g : Grammar σ) : List Char → Progress σ → Except Refusal (Progress σ)
  | [], p => .ok p
  | c :: rest, p =>
    match g.switches.find? fun s => s.letter == some c with
    | none => .error .unknownArgument
    | some s =>
      match s.action, rest with
      | .flag _, _ | .stop _, _ => do g.lettered rest (← g.meet s none p)
      | _, [] => g.meet s none p
      | _, '=' :: value => g.meet s (some (String.ofList value)) p
      | _, value => g.meet s (some (String.ofList value)) p

def meetOperand (g : Grammar σ) (arg : String) (p : Progress σ) : Except Refusal (Progress σ) :=
  match g.operand, p.pending with
  | none, _ => .error .unknownArgument
  | some _, .operands values => .ok { p with pending := .operands (arg :: values) }
  | some _, _ => do return { ← g.settle p with pending := .operands [arg] }

def meetArgument (g : Grammar σ) (arg : String) (p : Progress σ) :
    Except Refusal (Progress σ) :=
  match arg.toList with
  | '-' :: '-' :: body => g.named body p
  | '-' :: c :: letters => g.lettered (c :: letters) p
  | _ =>
    match p.pending with
    | .awaiting s => .ok { p with pending := .supplied s arg }
    | _ => g.meetOperand arg p

def meetAll (g : Grammar σ) : List String → Progress σ → Except Refusal (Progress σ)
  | [], p => g.settle p
  | arg :: rest, p =>
    if arg = "--" then do g.settle (← rest.foldlM (fun p arg => g.meetOperand arg p) p)
    else do g.meetAll rest (← g.meetArgument arg p)

def fill (g : Grammar σ) (blank : σ) (args : List String) : Except Refusal σ :=
  (g.meetAll args ⟨blank, [], .nothing⟩).map Progress.form

end Grammar

end CommandLine
end TickStream
