import ForeignCall.Source.Grammar.Block
import ForeignCall.Source.Grammar.Type

/-!
# Reading operands

An operand is an atom with attributes and operators in front and calls, fields and the like behind.

* `Grammar.atom` reads an atom, `Grammar.readUnary` an operand.
-/

namespace ForeignCall
namespace Grammar

open TokenReader

variable (g : Grammar)

/-! ## 1. Closures -/

/-- A parameter of a closure. A pattern that is printed as it is written has no attributes, unless a
type follows. -/
def closureParameter : TokenReader Unit := do
  let ((), attributes) ← captured g.attributes
  let (form, tokens) ← captured g.pattern
  if ← sees (atOperator ":") then
    emit (attributes ++ tokens)
    op ":"
    g.anyType
  else emit ((if form = .asWritten then [] else attributes) ++ tokens)

def closure (structs : Bool) : TokenReader Unit := do
  whenAt (atWord "for") g.binder
  wordIf "const"
  wordIf "static"
  wordIf "async"
  wordIf "move"
  op "|"
  commaList (atOperator "|") g.closureParameter
  op "|"
  if ← sees (atOperator "->") then
    op "->"
    g.anyType
    g.block
  else
    let _ ← g.expr structs

def atClosure (ts : List Token) : Bool :=
  atOperator "|" ts || atWords ["move", "static"] ts ||
    (atWord "for" ts && second atParameters ts) ||
    (atWord "const" ts && !second (atOpening .curly) ts) ||
    (atWord "async" ts && second (fun ts => atOperator "|" ts || atWord "move" ts) ts)

/-! ## 2. Structures and macros -/

def structField : TokenReader Unit := do
  g.attributes
  if ← sees atFieldNumber then
    fieldNumber
    op ":"
    g.value
  else
    name
    if ← sees (atOperator ":") then
      op ":"
      g.value

def structFields : TokenReader Unit := within .curly <| repeatWhile do
  if ← sees atEnd then return false
  if ← sees (atOperator "..") then
    op ".."
    if !(← sees atEnd) then g.value
    return false
  g.structField
  if ← sees atEnd then return false
  op ","
  return true

/-- A path, and what makes it a macro call or a structure. -/
def pathAtom (structs : Bool) : TokenReader Form := do
  let path ← g.qualifiedPath true
  if path.plain && (← sees atBang) then
    let b ← macroCall
    return if b = .curly then .macroBlock else .plain
  if structs && (← sees (atOpening .curly)) then g.structFields
  return .plain

/-! ## 3. Other atoms -/

def arrayAtom : TokenReader Unit := within .square do
  if ← sees atEnd then return
  g.value
  if ← sees (atOperator ";") then
    op ";"
    g.value
  else if !(← sees atEnd) then
    op ","
    commaList atEnd g.value

def handedOver (structs : Bool) : TokenReader Unit :=
  whenAt (fun ts => atExpression ts && (structs || !atOpening .curly ts)) g.value

/-- The end of a loop or of a labelled block. -/
def breakAtom (structs : Bool) : TokenReader Unit := do
  word "break"
  if ← sees atLifetime then
    lifetime
    guard !(← sees (atOperator ":"))
  g.handedOver structs

/-- A condition that matches a pattern. -/
def letAtom (structs : Bool) : TokenReader Unit := do
  word "let"
  g.anyPatterns
  op "="
  let start ← printedCount
  let first ← g.unary structs
  let _ ← g.operators structs Level.compare start first

/-- What only the compiler knows, printed as it is written. -/
def builtinAtom : TokenReader Unit := do
  word "builtin"
  op "#"
  name
  expect (atOpening .round)
  let _ ← anyBrackets

def atom (structs : Bool) : TokenReader Form := do
  let ts ← ahead
  let curly := atOpening .curly
  let moving (ts : List Token) : Bool := atWord "move" ts && second curly ts
  if atLiteral ts then
    literal
    return .plain
  else if atWord "async" ts && second (fun ts => curly ts || moving ts) ts then
    anyWord
    wordIf "move"
    g.block
    return .plain
  else if atClosure ts then
    g.closure structs
    return .plain
  else if atWord "builtin" ts && second (atOperator "#") ts then
    builtinAtom
    return .asWritten
  else if atPath ts || atOperator "<" ts ||
      (atWord "try" ts && second (atOperators ["!", "::"]) ts) then
    g.pathAtom structs
  else if atOpening .round ts then
    g.arguments
    return .plain
  else if atWord "break" ts then
    g.breakAtom structs
    return .plain
  else if atWord "continue" ts then
    anyWord
    whenAt atLifetime lifetime
    return .plain
  else if atWords ["return", "yield"] ts then
    anyWord
    g.handedOver true
    return .plain
  else if atWord "become" ts then
    anyWord
    g.value
    return .asWritten
  else if atOpening .square ts then
    g.arrayAtom
    return .plain
  else if atWord "let" ts then
    g.letAtom structs
    return .plain
  else if atOperator ".." ts then g.rangeRest structs
  else if atWord "_" ts then
    anyWord
    return .plain
  else
    expect atBlockExpression
    g.blockExpression
    return .block

/-! ## 4. Operands -/

/-- An atom with what follows it, after its attributes, which a range must not have. -/
def trailed (structs : Bool) : TokenReader Form := do
  let ((), attributes) ← captured g.attributes
  emit attributes
  let form ← g.trailers (← g.atom structs)
  guard (attributes = [] || form ≠ .range)
  return form

/-- An operator in front of an operand. -/
def prefixed (structs : Bool) : TokenReader Form := do
  if ← sees (atOperator "&") then
    op "&"
    if ← sees fun ts => atWord "raw" ts && second (atWords ["mut", "const"]) ts then
      anyWord
      anyWord
    else wordIf "mut"
  else if ← sees (atOperator "*") then op "*"
  else if ← sees (atOperator "!") then op "!"
  else op "-"
  let _ ← g.unary structs
  return .plain

def readUnary (structs : Bool) : TokenReader Form := do
  let some ts ← restAfter g.attributes | failure
  if atOperators ["&", "*", "!", "-"] ts then
    g.attributes
    g.prefixed structs
  else asWrittenIf (· = .asWritten) (g.trailed structs)

end Grammar
end ForeignCall
