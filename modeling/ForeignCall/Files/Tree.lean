import ForeignCall.Files.Path
import ForeignCall.Text.Utf8

/-!
# File trees

The files and directories that a program sees, with its working directory. A path is followed name
by name, and the first name that cannot be followed decides what is wrong.

* `FileTree.read` gives the text of a file, `FileTree.write` the tree with a file written.
-/

namespace ForeignCall

/-- Why a file cannot be read or written. -/
inductive FileFault where
  | notFound
  | notDirectory
  | isDirectory
  | nameTooLong
  /-- The contents are not the bytes of a text. -/
  | notText
  /-- A zero character stands in the path. -/
  | zeroInPath
deriving DecidableEq, Repr

def FileFault.message : FileFault → Text
  | notFound => "No such file or directory (os error 2)"
  | notDirectory => "Not a directory (os error 20)"
  | isDirectory => "Is a directory (os error 21)"
  | nameTooLong => "File name too long (os error 36)"
  | notText => "stream did not contain valid UTF-8"
  | zeroInPath => "file name contained an unexpected NUL byte"

/-- What a name leads to. -/
inductive Node where
  | file (contents : Bytes)
  | directory
deriving DecidableEq, Repr

/-- The names that lead from the root to a place. -/
abbrev Place := List Text

/-- Files and directories by their places; the root is always a directory. -/
structure FileTree where
  workingDirectory : Place
  nodes : List (Place × Node)
deriving Repr

namespace FileTree

/-- What is at a place. -/
def node? (t : FileTree) (place : Place) : Option Node :=
  if place = [] then some .directory else t.nodes.lookup place

def put (t : FileTree) (place : Place) (node : Node) : FileTree :=
  { t with nodes := (place, node) :: t.nodes.filter (·.1 ≠ place) }

/-- Makes the directories that lead to a place, and the directory itself. -/
def makeDirectory (t : FileTree) (place : Place) : FileTree :=
  (List.range (place.length + 1)).foldl (fun t n =>
    if (t.node? (place.take n)).isNone then t.put (place.take n) .directory else t) t

/-! ## 1. Following a path -/

/-- The longest name, in bytes. -/
def longestName : Nat := 255

/-- The longest path, in bytes. -/
def longestPath : Nat := 4095

/-- Follows one name; whether something is there is for the next step to say. -/
def step (t : FileTree) (place : Place) (name : Text) : Except FileFault Place :=
  match t.node? place with
  | none => .error .notFound
  | some (.file _) => .error .notDirectory
  | some .directory =>
    if name = ['.'] then .ok place
    else if name = ['.', '.'] then .ok place.dropLast
    else if longestName < (Utf8.encode name).length then .error .nameTooLong
    else .ok (place ++ [name])

/-- Where a path begins, if it can be followed at all. -/
def start (t : FileTree) (path : Text) : Except FileFault Place :=
  if '\x00' ∈ path then .error .zeroInPath
  else if path = [] then .error .notFound
  else if longestPath < (Utf8.encode path).length then .error .nameTooLong
  else .ok (if Path.isAbsolute path then [] else t.workingDirectory)

/-! ## 2. Reading and writing -/

def read (t : FileTree) (path : Text) : Except FileFault Text := do
  let place ← (Path.names path).foldlM t.step (← t.start path)
  match t.node? place with
  | none => .error .notFound
  | some .directory => .error .isDirectory
  | some (.file contents) =>
    if Path.endsOpen path then .error .notDirectory
    else
      match Utf8.valid? contents with
      | some text => .ok text
      | none => .error .notText

/-- The tree after a text was written to a file, which may be new. -/
def write (t : FileTree) (path text : Text) : Except FileFault FileTree := do
  let names := Path.names path
  let parent ← names.dropLast.foldlM t.step (← t.start path)
  match names.getLast? with
  | none => .error .isDirectory
  | some name =>
    match t.node? parent with
    | none => .error .notFound
    | some (.file _) => .error .notDirectory
    | some .directory =>
      if Path.endsOpen path ∨ name = ['.'] ∨ name = ['.', '.'] then .error .isDirectory
      else
        let place ← t.step parent name
        match t.node? place with
        | some .directory => .error .isDirectory
        | _ => .ok (t.put place (.file (Utf8.encode text)))

end FileTree
end ForeignCall
