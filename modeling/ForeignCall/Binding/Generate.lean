import ForeignCall.Binding.Entry
import ForeignCall.Source.Expression
import ForeignCall.Source.Lexer

/-!
# Generating source files

The source file of an interface: a header, the interface's name, and one line for each item. The
same description gives the same text, whatever the order of its signatures.

* `generate` gives the typed binding, `generateEntry` the entry-point module and `generateBoth` the
  two in one file.
-/

namespace ForeignCall

def fileHeader : Text := "// @generated by natbind-codegen. Do not edit."

def renderFile (interface : Text) (items : List (List Token)) : Text :=
  fileHeader ++ "\n// interface: " ++ interface ++ "\n" ++
    items.flatMap fun item => '\n' :: (Token.render item ++ ['\n'])

/-- The plan of an interface, its failure being a failure to generate. -/
def planFor (d : Description) : Except GenerateError Plan :=
  (Plan.analyze d).mapError .bind

def typedBinding (p : Plan) : Except GenerateError TypedBinding := do
  let type ← typeIdent p.interface
  let names ← methodNames (p.methods.map MethodPlan.symbol)
  return .ofPlan p type names

/-- The tokens of a resolver, which has to be one expression. -/
def resolverTokens (resolver : Text) : Except GenerateError (List Token) :=
  orError (.invalidResolver resolver) ((Token.lex resolver).bind Expression.parse?)

/-- The code of the entry-point module of a plan. Its name must differ from the type's, and no
method may be called like an item of the module. -/
def entryModule (p : Plan) (resolver : Text) : Except GenerateError EntryModule := do
  let type ← typeIdent p.interface
  if snakeCase p.interface = p.interface then
    throw (.nameCollision p.interface "entry-point module" p.interface)
  match p.methods.find? (·.symbol ∈ reservedEntry) with
  | some m => throw (.reserved m.symbol)
  | none =>
    let tokens ← resolverTokens resolver
    let names ← methodNames (p.methods.map MethodPlan.symbol)
    let module ← moduleIdent p.interface
    return .ofPlan p module type names tokens

/-- The source file with the typed binding of an interface. -/
def generate (d : Description) : Except GenerateError Text := do
  let p ← planFor d
  let b ← typedBinding p
  return renderFile p.interface b.items

/-- The source file with the entry-point module of an interface. -/
def generateEntry (d : Description) (resolver : Text) : Except GenerateError Text := do
  let p ← planFor d
  let m ← entryModule p resolver
  return renderFile p.interface [m.item]

/-- The source file with both. -/
def generateBoth (d : Description) (resolver : Text) : Except GenerateError Text := do
  let p ← planFor d
  let b ← typedBinding p
  let m ← entryModule p resolver
  return renderFile p.interface (b.items ++ [m.item])

end ForeignCall
