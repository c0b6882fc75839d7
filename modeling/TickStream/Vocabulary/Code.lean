/-
Closed vocabularies: finitely many values, each with a name or a number of its own.
-/
namespace TickStream
namespace Code

def find? {α κ : Type} [DecidableEq κ] (all : List α) (key : α → κ) (k : κ) : Option α :=
  all.find? fun a => key a = k

def lowered (text : String) : String := String.ofList (text.toList.map Char.toLower)

/-- The value among `all` whose name is `text`, letter case of ASCII aside.  Names are
in lower case themselves. -/
def named? {α : Type} (all : List α) (name : α → String) (text : String) : Option α :=
  find? all name (lowered text)

/-- The value among `all` whose name is `text`.  Letter case counts unless it is to be
ignored. -/
def choose? {α : Type} (all : List α) (name : α → String) (ignoreCase : Bool) (text : String) :
    Option α :=
  if ignoreCase then named? all name text else find? all name text

/-- A key found is the key of the value it was found for. -/
theorem key_of_find? {α κ : Type} [DecidableEq κ] {all : List α} {key : α → κ} {k : κ} {a : α}
    (h : find? all key k = some a) : key a = k := by
  simpa using List.find?_some h

end Code
end TickStream
