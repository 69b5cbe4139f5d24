import ForeignCall.Text

/-!
# TOML tables

The values of a TOML document, and how its statements fill the tables. A name is given once: a table
may grow only in the way it came to be.

* `addField` is a key with its value, `openTable` and `openElement` are the two kinds of headers;
  each is `none` where the name is taken.
* `build` carries out the statements of a document.
-/

namespace ForeignCall

inductive TableKind where
  /-- It has a header of its own. -/
  | header
  /-- There is a header of a table inside it. -/
  | implied
  /-- It is named in a key with dots. -/
  | dotted
  /-- It is written between curly brackets, and complete. -/
  | closed
deriving DecidableEq, Repr

inductive Toml where
  | text (t : Text)
  | boolean (b : Bool)
  /-- A number or a date, as it is written. -/
  | scalar (t : Text)
  | array (items : List Toml)
  | table (kind : TableKind) (fields : List (Text × Toml))
  /-- The tables under double headers of one name, the newest first. -/
  | tables (elements : List (List (Text × Toml)))

inductive Toml.Statement where
  | header (path : List Text)
  | elementHeader (path : List Text)
  | field (path : List Text) (value : Toml)

namespace Toml

/-- The names in a table with their values, in the order they were given. -/
abbrev Fields := List (Text × Toml)

def field? (fields : Fields) (name : Text) : Option Toml := fields.lookup name

/-- Sets the value of a name, at its place if it has one. -/
def setField (name : Text) (value : Toml) : Fields → Fields
  | [] => [(name, value)]
  | field :: rest =>
    if field.1 = name then (name, value) :: rest else field :: setField name value rest

/-- Adds a value under a key. Dots lead through tables that were made by such keys. -/
def addField (value : Toml) : List Text → Fields → Option Fields
  | [], _ => none
  | [name], fields =>
    if (field? fields name).isSome then none else some (setField name value fields)
  | name :: rest, fields =>
    match field? fields name with
    | none => (addField value rest []).map fun inner => setField name (.table .dotted inner) fields
    | some (.table .dotted inner) =>
      (addField value rest inner).map fun inner => setField name (.table .dotted inner) fields
    | some _ => none

/-- Changes the table at the end of a path of headers; a table on the way is made if it is missing,
and a name of several tables stands for the newest. -/
def atPath (change : Fields → Option Fields) : List Text → Fields → Option Fields
  | [], fields => change fields
  | name :: rest, fields =>
    let changed : Option Toml := match field? fields name with
      | none => (atPath change rest []).map (.table .implied)
      | some (.table .closed _) => none
      | some (.table kind inner) => (atPath change rest inner).map (.table kind)
      | some (.tables (newest :: older)) =>
        (atPath change rest newest).map fun newest => .tables (newest :: older)
      | some _ => none
    changed.map fun value => setField name value fields

/-- Gives a table its header. -/
def openTable (name : Text) (fields : Fields) : Option Fields :=
  match field? fields name with
  | none => some (setField name (.table .header []) fields)
  | some (.table .implied inner) => some (setField name (.table .header inner) fields)
  | some _ => none

/-- Begins the next of several tables. -/
def openElement (name : Text) (fields : Fields) : Option Fields :=
  match field? fields name with
  | none => some (setField name (.tables [[]]) fields)
  | some (.tables elements) => some (setField name (.tables ([] :: elements)) fields)
  | some _ => none

/-- Applies a header's change in the table around the last name of its path. -/
def underHeader (change : Text → Fields → Option Fields) (path : List Text) (fields : Fields) :
    Option Fields := do
  let name ← path.getLast?
  atPath (change name) path.dropLast fields

/-- Carries out statements, `current` being the path of the last header. -/
def build (current : List Text) (fields : Fields) : List Statement → Option Fields
  | [] => some fields
  | .header path :: rest => (underHeader openTable path fields).bind (build path · rest)
  | .elementHeader path :: rest => (underHeader openElement path fields).bind (build path · rest)
  | .field path value :: rest =>
    (atPath (addField value path) current fields).bind (build current · rest)

end Toml
end ForeignCall
