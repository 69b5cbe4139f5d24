import ForeignCall.Error
import ForeignCall.Text.Identifier

/-!
# Names in generated code

A method keeps its symbol as its name, written raw if it is a keyword. The constant with its number
is the symbol in capitals, and the module with its entry point is the interface's name in small
letters, both with an underscore between words.

* `words` splits a name into words; `snakeCase` and `screamingCase` join them again.
* `constNames` finds the names of the constants and refuses names that are taken.
-/

namespace ForeignCall

/-! ## 1. Words -/

/-- A capital begins a word after a small letter or a digit, and after a capital if a small letter
follows it. -/
def beginsWord (previous c : Char) (next : Option Char) : Bool :=
  c.isUpper &&
    (previous.isLower || previous.isDigit || (previous.isUpper && next.any Char.isLower))

/-- The words of what follows, `current` being the word that was begun. -/
def wordsFrom (current : Text) : Text → List Text
  | [] => if current = [] then [] else [current]
  | c :: rest =>
    if c = '_' then
      if current = [] then wordsFrom [] rest else current :: wordsFrom [] rest
    else
      match current.getLast? with
      | none => wordsFrom [c] rest
      | some previous =>
        if beginsWord previous c rest.head? then current :: wordsFrom [c] rest
        else wordsFrom (current ++ [c]) rest

/-- The words of a name: it is cut at underscores, which are dropped, and where a word begins. -/
def words (name : Text) : List Text := wordsFrom [] name

/-- The words in small letters with an underscore between them. -/
def snakeCase (name : Text) : Text := Text.join "_" ((words name).map Text.lower)

/-- The words in capitals with an underscore between them; underscores at the beginning are kept. -/
def screamingCase (name : Text) : Text :=
  name.takeWhile (· == '_') ++ Text.join "_" ((words name).map Text.upper)

/-! ## 2. Identifiers -/

/-- An identifier in generated code, written raw or not. -/
structure Ident where
  name : Text
  raw : Bool
deriving DecidableEq, Repr

def Ident.text (i : Ident) : Text := if i.raw then "r#" ++ i.name else i.name

/-- The keywords, which have to be written raw. -/
def keywords : List Text :=
  Text.splitAll ' ' ("abstract as async await become box break const continue do dyn ".toList ++
    "else enum extern false final fn for gen if impl in let loop macro match mod move mut " ++
    "override priv pub ref return static struct trait true try type typeof unsafe unsized use " ++
    "virtual where while yield")

/-- The words that are no names, not even raw. -/
def unwritable : List Text := ["_", "crate", "self", "Self", "super"]

def reservedFunctions : List Text := ["bind"]

def reservedConsts : List Text := ["CALL_SHAPES", "METHODS"]

def reservedEntry : List Text := ["binding", "__init", "__BINDING"]

/-- Why no code is generated. -/
inductive GenerateError where
  /-- The interface cannot be planned. -/
  | bind (e : BindError)
  /-- The interface's name cannot name a type. -/
  | invalidName (name : Text)
  /-- The name has a meaning of its own in generated code. -/
  | reserved (name : Text)
  /-- Two things would have the same name. -/
  | nameCollision (first second generated : Text)
  /-- The resolver is no expression. -/
  | invalidResolver (expr : Text)
  /-- The entry-point module's name would be no identifier: generation breaks off. -/
  | abort (name : Text)
deriving DecidableEq, Repr

def GenerateError.message : GenerateError → Text
  | bind e => e.message
  | invalidName name => "invalid interface name ".toList ++ backquoted name
  | reserved name => backquoted name ++ " is reserved in generated code"
  | nameCollision first second generated =>
    backquoted first ++ " and " ++ backquoted second ++ " both generate the name " ++
      backquoted generated
  | invalidResolver expr => "invalid resolver expression ".toList ++ backquoted expr
  | abort name => backquoted name ++ " is not an identifier"

/-- The identifier of a name that has no meaning of its own. -/
def identOf (name : Text) : Ident := ⟨name, name ∈ keywords⟩

def methodIdent (name : Text) : Except GenerateError Ident :=
  if name ∈ unwritable ∨ name ∈ reservedFunctions ∨ name ∈ reservedConsts then
    .error (.reserved name)
  else .ok (identOf name)

def typeIdent (name : Text) : Except GenerateError Ident :=
  if !isSymbolName name || name ∈ unwritable || name ∈ keywords then .error (.invalidName name)
  else .ok ⟨name, false⟩

def moduleIdent (interface : Text) : Except GenerateError Ident :=
  let name := snakeCase interface
  if isSymbolName name then .ok (identOf name) else .error (.abort name)

/-! ## 3. Constants -/

/-- The constant that numbers a method: its name in capitals, with a suffix if a method has that
name. -/
def constName (methods : List Text) (name : Text) : Text :=
  let generated := screamingCase name
  if generated ∈ methods then generated ++ "_ID" else generated

/-- The constants of methods in order; `taken` holds each name that is taken, and by what. -/
def constNamesFrom (methods : List Text) (taken : List (Text × Text)) :
    List Text → Except GenerateError (List Text)
  | [] => .ok []
  | name :: rest =>
    let generated := constName methods name
    match taken.find? (·.1 = generated) with
    | some (_, first) => .error (.nameCollision first name generated)
    | none => (constNamesFrom methods ((generated, name) :: taken) rest).map (generated :: ·)

/-- The constants of methods in order, all different from each other, from the methods and from the
constants that every binding has. -/
def constNames (methods : List Text) : Except GenerateError (List Text) :=
  constNamesFrom methods ((reservedConsts ++ methods).map fun name => (name, name)) methods

/-- The names that stand for a method: its function and the constant with its number. -/
structure MethodNames where
  ident : Ident
  const : Text
deriving DecidableEq, Repr

def methodNames (methods : List Text) : Except GenerateError (List MethodNames) := do
  let idents ← methods.mapM methodIdent
  let consts ← constNames methods
  return (idents.zip consts).map fun names => ⟨names.1, names.2⟩

end ForeignCall
