import ForeignCall.Source.Grammar.Operator
import ForeignCall.Source.Grammar.Trailer

/-!
# Reading statements

Expressions that end with a block, the statements of a block and the arms of a match. A statement or
an arm that begins with such an expression ends with its block, unless a field access or a question
mark follows.

* `Grammar.readStatements` reads the statements of a block, `Grammar.readArms` the arms of a match.
-/

namespace ForeignCall
namespace Grammar

open TokenReader

variable (g : Grammar)

/-! ## 1. Expressions with blocks -/

/-- A condition in front of a block: an expression in which curly brackets belong to no path. -/
def condition : TokenReader Unit := do
  let _ ← g.expr false

/-- Conditions with a block each, and perhaps one for all other cases. -/
def choice : TokenReader Unit := do
  word "if"
  repeatWhile do
    g.condition
    g.block
    if !(← sees (atWord "else")) then return false
    anyWord
    if ← sees (atWord "if") then
      anyWord
      return true
    g.block
    return false

def loopBlock : TokenReader Unit := do
  if ← sees (atWord "loop") then anyWord
  else if ← sees (atWord "while") then
    anyWord
    g.condition
  else
    word "for"
    g.anyPatterns
    word "in"
    g.condition
  g.fullBlock

def loopWords : List Text := ["loop", "while", "for"]

def blockExpression : TokenReader Unit := do
  let ts ← ahead
  if atWord "if" ts then g.choice
  else if atWords loopWords ts then g.loopBlock
  else if atWord "match" ts then
    anyWord
    g.condition
    within .curly do
      g.innerAttributes
      g.arms
  else if atWord "try" ts then
    anyWord
    g.block
  else if atWords ["unsafe", "const"] ts then
    anyWord
    g.fullBlock
  else if atLifetime ts then
    lifetime
    op ":"
    if ← sees (atOpening .curly) then g.fullBlock else g.loopBlock
  else g.fullBlock

def atBlockExpression (ts : List Token) : Bool :=
  atWords ["if", "while", "loop", "match"] ts || atLifetime ts || atOpening .curly ts ||
    (atWord "for" ts && !second atParameters ts) ||
    (atWords ["unsafe", "const", "try"] ts && second (atOpening .curly) ts)

/-- The first operand and the whole of an expression that ends with its block if it begins with
one. -/
def earlyParts : TokenReader (Form × Form) := do
  let start ← printedCount
  if ← sees atBlockExpression then
    g.blockExpression
    if ← sees fun ts => atDot ts || atOperator "?" ts then
      let first ← g.trailers .block
      return (first, ← g.operators true 0 start first)
    return (.block, .block)
  let first ← g.unary true
  return (first, ← g.operators true 0 start first)

/-- An expression, after its attributes, that ends with its block if it begins with one. `whole`
says that the attributes are about the whole of a range. Such a range is put in brackets, and what
is printed as it is written has no attributes. -/
def early (attributes : List Token) (whole : Bool) : TokenReader Form := do
  let ((first, form), tokens) ← captured g.earlyParts
  if attributes ≠ [] && (first = .range || (whole && form = .range)) then
    emit (attributes ++ bracketed .round tokens)
  else emit ((if first = .asWritten then [] else attributes) ++ tokens)
  return form

/-! ## 2. Statements -/

/-- A statement that begins with `let`. -/
def letStatement : TokenReader Unit := do
  word "let"
  let _ ← g.pattern
  if ← sees (atOperator ":") then
    op ":"
    g.anyType
  if ← sees (atOperator "=") then
    op "="
    g.value
    let braced := (← get).printed.head? = some (.closing .curly)
    if !braced && (← sees (atWord "else")) then
      anyWord
      g.block
  op ";"

/-- An item follows, given what follows a path in front, if there is one. -/
def atItem (afterPath : Option (List Token)) (ts : List Token) : Bool :=
  let inner (ts : List Token) : Bool := atWords ["unsafe", "extern", "fn"] ts
  let closure (ts : List Token) : Bool :=
    atOpening .curly ts || atWords ["static", "move"] ts || atOperator "|" ts ||
      (atWord "async" ts && !second inner ts)
  let called (ts : List Token) : Bool :=
    atOperator "!" ts && second (fun ts => atName ts || atWord "try" ts) ts
  atWords ["pub", "extern", "use", "fn", "mod", "type", "struct", "enum", "trait", "impl", "macro"]
      ts ||
    (atWord "crate" ts && !second (atOperator "::") ts) ||
    (atWord "static" ts && second (fun ts => atWord "mut" ts || atName ts) ts) ||
    (atWord "const" ts && !second closure ts) ||
    (atWord "unsafe" ts && !second (atOpening .curly) ts) ||
    (atWord "async" ts && second inner ts) || (atWord "union" ts && second atName ts) ||
    (atWord "auto" ts && second (atWord "trait") ts) ||
    (atWord "default" ts && second (atWords ["unsafe", "impl"]) ts) || afterPath.any called

/-- A macro call in curly brackets follows as a statement, given what follows its path. -/
def atMacroStatement (afterPath : List Token) : Bool :=
  atOperator "!" afterPath && second (atOpening .curly) afterPath &&
    !third (fun ts => atDot ts || atOperator "?" ts) afterPath

/-- One statement; it is told whether another one may follow at once. -/
def statement : TokenReader Bool := do
  let start ← get
  let ((), attributes) ← captured g.attributes
  let afterPath ← restAfter plainPath
  if afterPath.any atMacroStatement then
    emit attributes
    plainPath
    let _ ← macroCall
    opIf ";"
    return true
  else if ← sees (atWord "let") then
    emit attributes
    g.letStatement
    return true
  else if ← sees (atItem afterPath) then
    set start
    g.item
    return true
  else
    let form ← g.early attributes true
    if ← sees (atOperator ";") then
      op ";"
      return true
    return form = .block || form = .macroBlock

def readStatements : TokenReader Unit := repeatWhile do
  if ← sees atEnd then return false
  if ← sees (atOperator ";") then
    op ";"
    return true
  let done ← g.statement
  if ← sees atEnd then return false
  guard done
  return true

/-! ## 3. Arms -/

def readArms : TokenReader Unit := many do
  g.attributes
  g.anyPatterns
  if ← sees (atWord "if") then
    anyWord
    g.value
  op "=>"
  let ((), attributes) ← captured g.attributes
  let form ← g.early attributes false
  if ← sees (atOperator ",") then op ","
  else if form ≠ .block then expect atEnd

end Grammar
end ForeignCall
