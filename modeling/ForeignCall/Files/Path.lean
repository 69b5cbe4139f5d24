import ForeignCall.Text

/-!
# Paths

A path is a text with slashes between the names. Nothing about it is simplified when paths are
joined.

* `Path.join` takes a second path from a first, `Path.directory` is the directory of a file.
-/

namespace ForeignCall.Path

def isAbsolute (path : Text) : Bool := path.head? == some '/'

/-- The path says that it leads to a directory. -/
def endsOpen (path : Text) : Bool := path.getLast? == some '/'

/-- The path `second`, taken from the directory `base` unless it is absolute. -/
def join (base second : Text) : Text :=
  if isAbsolute second then second
  else if base = [] ∨ endsOpen base then base ++ second
  else base ++ '/' :: second

/-- A name that leads nowhere. -/
def isIdle (name : Text) : Bool := name == [] || name == ['.']

/-- The path of the directory that a file's path names, without idle names at its end; it is empty
for a path that is a single name. -/
def directory (path : Text) : Text :=
  match Text.splitAll '/' path with
  | [] => []
  | [_] => []
  | first :: rest =>
    match (rest.dropLast.reverse.dropWhile isIdle).reverse with
    | [] => if first = [] then ['/'] else first
    | kept => Text.join ['/'] (first :: kept)

def names (path : Text) : List Text := (Text.splitAll '/' path).filter (· ≠ [])

end ForeignCall.Path
