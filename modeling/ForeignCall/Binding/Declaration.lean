import ForeignCall.Binding.Generate
import ForeignCall.Files.Path
import ForeignCall.Signature.File

/-!
# Interface declarations

Source code declares an interface by entries `key = value` with commas between them: its `name`, its
signatures as `source` or as the `path` of a file, and with `entry` the resolver of an entry-point
module. A later name or resolver replaces an earlier one, but signatures are given once.

* `Declaration.parse` reads the tokens of a declaration, `Declaration.expand` gives the code that
  stands in its place.
-/

namespace ForeignCall

/-- Where the signatures of a declaration are. -/
inductive SignatureSource where
  | inline (text : Text)
  | file (path : Text)
deriving DecidableEq, Repr

structure Declaration where
  name : Text
  source : SignatureSource
  resolver : Option (List Token)
deriving DecidableEq, Repr

/-- Why tokens are no declaration. -/
inductive DeclarationFault where
  /-- They are no entries with values of the right kinds. -/
  | malformed
  | secondSource
  | unknownKey (key : Text)
  | noName
  | noSource
deriving DecidableEq, Repr

/-- The wording of the fault, if it is fixed. -/
def DeclarationFault.message? : DeclarationFault → Option Text
  | malformed => none
  | secondSource => some "only one of `source` and `path` may be given"
  | unknownKey key =>
    some ("unknown key ".toList ++ backquoted key ++ ", expected name, source, path or entry")
  | noName => some "missing `name = ...`"
  | noSource => some "missing `source = \"...\"` or `path = \"...\"`"

/-! ## 1. Reading -/

/-- What the entries so far have given. -/
structure DeclarationEntries where
  name : Option Text
  source : Option SignatureSource
  resolver : Option (List Token)
deriving DecidableEq, Repr

namespace DeclarationEntries

def empty : DeclarationEntries := ⟨none, none, none⟩

def nameValue : List Token → Except DeclarationFault (Text × List Token)
  | .word w :: rest => if w ∈ strictKeywords then .error .malformed else .ok (w, rest)
  | _ => .error .malformed

def textValue : List Token → Except DeclarationFault (Text × List Token)
  | .literal t :: rest =>
    match Literal.text? t with
    | some (value, _) => .ok (value, rest)
    | none => .error .malformed
  | _ => .error .malformed

def value (e : DeclarationEntries) (key : Text) (ts : List Token) :
    Except DeclarationFault (DeclarationEntries × List Token) := do
  if key = "name".toList then
    let (name, rest) ← nameValue ts
    return ({ e with name }, rest)
  else if key = "source".toList ∨ key = "path".toList then
    if e.source.isSome then throw .secondSource
    let (text, rest) ← textValue ts
    let source : SignatureSource := if key = "source".toList then .inline text else .file text
    return ({ e with source }, rest)
  else if key = "entry".toList then
    let (resolver, rest) ← orError .malformed (Expression.front? ts)
    return ({ e with resolver }, rest)
  else throw (.unknownKey key)

def entry (e : DeclarationEntries) (ts : List Token) :
    Except DeclarationFault (DeclarationEntries × List Token) := do
  let (key, rest) ← nameValue ts
  match rest with
  | .mark '=' _ :: rest => e.value key rest
  | _ => throw .malformed

/-- Reads entries up to the end. The first argument bounds their number. -/
def readUpTo : Nat → DeclarationEntries → List Token →
    Except DeclarationFault DeclarationEntries
  | _, e, [] => .ok e
  | 0, _, _ => .error .malformed
  | n + 1, e, ts =>
    match e.entry ts with
    | .error fault => .error fault
    | .ok (e, []) => .ok e
    | .ok (e, .mark ',' _ :: rest) => readUpTo n e rest
    | .ok _ => .error .malformed

def declaration (e : DeclarationEntries) : Except DeclarationFault Declaration := do
  let name ← orError .noName e.name
  let source ← orError .noSource e.source
  return { name, source, resolver := e.resolver }

end DeclarationEntries

namespace Declaration

def ofTokens (ts : List Token) : Except DeclarationFault Declaration := do
  (← DeclarationEntries.readUpTo ts.length .empty ts).declaration

def parse (text : Text) : Except DeclarationFault Declaration := do
  ofTokens (← orError .malformed (Token.lex text))

end Declaration

/-! ## 2. Expanding -/

/-- Why a declaration has no code. -/
inductive ExpandError where
  | signatures (e : ParseError)
  | generate (e : GenerateError)
  /-- The generated text is not made of tokens. -/
  | notTokens
deriving DecidableEq, Repr

def ExpandError.message : ExpandError → Text
  | signatures e => e.message
  | generate e => e.message
  | notTokens => "generated code does not lex"

namespace Declaration

/-- The path of the signature file, if there is one, taken from a directory. -/
def file? (d : Declaration) (base : Text) : Option Text :=
  match d.source with
  | .inline _ => none
  | .file path => some (Path.join base path)

/-- The interface, where `read` gives the text of a file or the reason why there is none. -/
def describe (d : Declaration) (base : Text) (read : Text → Except Text Text) :
    Except ParseError Description :=
  match d.source with
  | .inline text => Description.parse d.name text
  | .file path => Description.ofFile d.name (Path.join base path) (read (Path.join base path))

/-- The generated text for the interface, with the entry-point module if a resolver was given. -/
def sourceText (d : Declaration) (interface : Description) : Except GenerateError Text :=
  match d.resolver with
  | some resolver => generateBoth interface (Token.render resolver)
  | none => generate interface

/-- A constant that makes code depend on a file. -/
def dependence (path : Text) : List Token :=
  code "const _ : & str = include_str !" ++ bracketed .round [.quoted path] ++ code ";"

/-- The code that stands in place of the declaration. -/
def expand (d : Declaration) (base : Text) (read : Text → Except Text Text) :
    Except ExpandError (List Token) := do
  let interface ← (d.describe base read).mapError .signatures
  let text ← (d.sourceText interface).mapError .generate
  let tokens ← orError .notTokens (Token.lex text)
  return ((d.file? base).map dependence).getD [] ++ tokens

end Declaration
end ForeignCall
