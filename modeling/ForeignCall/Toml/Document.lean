import ForeignCall.Toml.Scalar
import ForeignCall.Toml.Strings
import ForeignCall.Toml.Table

/-!
# TOML documents

A document is a list of statements, one a line, which fill its outermost table.

* `Toml.value?` takes a value off the front of a text, `Toml.statements?` reads the lines, and
  `Toml.parse?` reads a document.
-/

namespace ForeignCall.Toml

/-! ## 1. Keys -/

/-- The character may stand in a name without quotes. -/
def isBare (c : Char) : Bool := c.isAlphanum || c == '_' || c == '-'

def name? (s : Text) : Option (Text × Text) :=
  if s.head?.any isBare then some (s.takeWhile isBare, s.dropWhile isBare) else lineString? s

/-- The names with dots between them in front, and what follows the blanks after them. The first
argument bounds their number. -/
def path? : Nat → Text → Option (List Text × Text)
  | 0, _ => none
  | n + 1, s => do
    let (name, s) ← name? (skipSpace s)
    match skipSpace s with
    | '.' :: s => (path? n s).map fun r => (name :: r.1, r.2)
    | s => some ([name], s)

/-- The key in front, and what follows the blanks after it. -/
def key? (s : Text) : Option (List Text × Text) := path? (s.length + 1) s

/-! ## 2. Values -/

def skipComment (s : Text) : Text :=
  match s with
  | '#' :: rest => rest.dropWhile isPlain
  | s => s

/-- The text without blanks, comments and line ends in front. The first argument bounds their
number. -/
def skipGaps : Nat → Text → Text
  | 0, s => s
  | n + 1, s =>
    match skipLines s with
    | '#' :: rest => skipGaps n (rest.dropWhile isPlain)
    | s => s

/-- A value without parts in front, and what follows. -/
def simple? (s : Text) : Option (Toml × Text) :=
  match string? s with
  | some (t, rest) => some (.text t, rest)
  | none =>
    match Text.stripPrefix? "true" s, Text.stripPrefix? "false" s with
    | some rest, _ => some (.boolean true, rest)
    | _, some rest => some (.boolean false, rest)
    | _, _ => (scalarEnd? s).map fun rest => (.scalar (front s rest), rest)

mutual
/-- The value in front, and what follows. The first argument bounds the number of steps. -/
def valueUpTo : Nat → Text → Option (Toml × Text)
  | 0, _ => none
  | n + 1, '[' :: rest => (itemsUpTo n rest).map fun r => (.array r.1, r.2)
  | n + 1, '\x7b' :: rest =>
    match skipSpace rest with
    | '\x7d' :: rest => some (.table .closed [], rest)
    | rest => (fieldsUpTo n [] rest).map fun r => (.table .closed r.1, r.2)
  | _ + 1, s => simple? s

/-- The items of an array up to its end, and what follows. -/
def itemsUpTo : Nat → Text → Option (List Toml × Text)
  | 0, _ => none
  | n + 1, s =>
    match skipGaps s.length s with
    | ']' :: rest => some ([], rest)
    | s =>
      match valueUpTo n s with
      | none => none
      | some (item, rest) =>
        match skipGaps rest.length rest with
        | ',' :: rest => (itemsUpTo n rest).map fun r => (item :: r.1, r.2)
        | ']' :: rest => some ([item], rest)
        | _ => none

/-- The fields of a table between brackets up to its end, added to `fields`, and what follows. -/
def fieldsUpTo : Nat → Fields → Text → Option (Fields × Text)
  | 0, _, _ => none
  | n + 1, fields, s =>
    match key? s with
    | some (path, '=' :: rest) =>
      match valueUpTo n (skipSpace rest) with
      | none => none
      | some (value, rest) =>
        match addField value path fields, skipSpace rest with
        | some fields, ',' :: rest => fieldsUpTo n fields rest
        | some fields, '\x7d' :: rest => some (fields, rest)
        | _, _ => none
    | _ => none
end

def value? (s : Text) : Option (Toml × Text) := valueUpTo (s.length + 1) s

/-! ## 3. Lines -/

def lineEnd? (s : Text) : Option Text :=
  match skipComment (skipSpace s) with
  | [] => some []
  | s => newline? s

/-- The statement in front up to the end of its line, and what follows. -/
def statement? (s : Text) : Option (Statement × Text) := do
  match s with
  | '[' :: '[' :: rest =>
    let (path, rest) ← key? rest
    return (.elementHeader path, ← lineEnd? (← Text.stripPrefix? "]]" rest))
  | '[' :: rest =>
    let (path, rest) ← key? rest
    return (.header path, ← lineEnd? (← Text.stripPrefix? "]" rest))
  | s =>
    let (path, rest) ← key? s
    let (value, rest) ← value? (skipSpace (← Text.stripPrefix? "=" rest))
    return (.field path value, ← lineEnd? rest)

/-- The statements of a text. The first argument bounds the number of lines. -/
def statementsUpTo : Nat → Text → Option (List Statement)
  | 0, _ => none
  | n + 1, s =>
    match skipSpace s with
    | [] => some []
    | s =>
      match lineEnd? s with
      | some rest => statementsUpTo n rest
      | none =>
        (statement? s).bind fun r => (statementsUpTo n r.2).map (r.1 :: ·)

/-- The statements of a text. -/
def statements? (s : Text) : Option (List Statement) := statementsUpTo (s.length + 1) s

/-- The outermost table of a document. A byte-order mark in front is dropped. -/
def parse? (s : Text) : Option Fields :=
  (statements? (if s.head? = some '\ufeff' then s.drop 1 else s)).bind (build [] [])

end ForeignCall.Toml
