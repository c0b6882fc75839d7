import TickStream.Text.Split
/-
Paths of files, and what their endings say about the contents.
-/
namespace TickStream
namespace Path

def segments (path : String) : List (List Char) := Text.split '/' path.toList

/-- The segments that lead somewhere.  Empty segments and single points do not. -/
def steps (path : String) : List (List Char) :=
  (segments path).filter fun s => s ≠ [] && s ≠ ['.']

/-- The last step of a path.  Two points name the directory above, which is no file. -/
def fileName? (path : String) : Option (List Char) :=
  match (steps path).getLast? with
  | some ['.', '.'] => none
  | name => name

/-- What follows the last point of a file's name.  A point that begins the name does not
count. -/
def extension? (path : String) : Option (List Char) :=
  match fileName? path with
  | none => none
  | some name =>
    let after := name.reverse.takeWhile (· ≠ '.')
    let before := name.reverse.dropWhile (· ≠ '.')
    if before.length ≤ 1 then none else some after.reverse

/-- The path that stands for the standard streams. -/
def standardStream : String := "-"

def isZstd (path : String) : Bool :=
  match extension? path with
  | some ext => ext = ['z', 's', 't'] || ext = ['z', 's', 't', 'd']
  | none => false

end Path
end TickStream
