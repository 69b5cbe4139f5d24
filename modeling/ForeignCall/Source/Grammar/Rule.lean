import ForeignCall.Source.Reader

/-!
# The rules of the grammar

Expressions, types, patterns, statements and items contain each other. Each of them is a rule, and a
grammar reads by a rule; the modules after this one say how to read by a rule, given a grammar for
the parts.
-/

namespace ForeignCall

/-- What an expression is, as far as it matters to what may follow it. -/
inductive Form where
  | plain
  | range
  | comparison
  /-- Its last tokens are a cast to a type that ends without type arguments; a less-than sign after
  it would begin some. -/
  | openCast (length : Nat)
  /-- Ends with a block and needs no semicolon after it. -/
  | block
  /-- A macro call in curly brackets. -/
  | macroBlock
  /-- Printed as it is written. -/
  | asWritten
deriving DecidableEq, Repr

/-- What kind of type it is, as far as it matters to what may follow it. -/
inductive TypeKind where
  /-- A path of one segment. -/
  | name
  /-- Another path that does not begin with a type. -/
  | path
  /-- One bound of a trait object; it may stand in brackets of its own. -/
  | bound (bracketed : Bool)
  | other
deriving DecidableEq, Repr

/-- What is known of a type. -/
structure TypeForm where
  kind : TypeKind := .other
  /-- Ends with a path without type arguments. -/
  bareEnd : Bool := false

/-- What is known of a bound. -/
structure BoundForm where
  /-- Names a trait. -/
  isTrait : Bool := false
  /-- Ends with a path without type arguments. -/
  bareEnd : Bool := false

/-- What is known of a pattern. -/
inductive PatternForm where
  | plain
  /-- A range without a beginning or without an end. -/
  | openRange
  /-- Printed as it is written. -/
  | asWritten
deriving DecidableEq, Repr

/-- The rules that contain each other. `structs` says that a curly bracket after a path belongs to
it. -/
inductive Rule where
  | expr (structs : Bool)
  /-- An operand with what stands before and after it. -/
  | unary (structs : Bool)
  /-- The right operand of an operator of some level. -/
  | operand (structs : Bool) (level : Nat)
  /-- A type; `plus` says that bounds may follow with plus signs between them. -/
  | type (plus : Bool)
  /-- One bound; `capturing` says that captures may be named, `constant` that a trait may be
  constant. -/
  | bound (capturing constant : Bool)
  | pattern
  | statements
  /-- The arms of a match. -/
  | arms
  | item
  /-- What is imported; `root` says that it may begin at the root. -/
  | useTree (root : Bool)

/-- What reading by a rule tells besides the tokens to be printed. -/
abbrev Rule.Result : Rule → Type
  | expr _ | unary _ | operand _ _ => Form
  | type _ => TypeForm
  | bound _ _ => BoundForm
  | pattern => PatternForm
  | statements | arms | item => Unit
  | useTree _ => Bool

/-- Reads by each rule. -/
abbrev Grammar := (r : Rule) → TokenReader r.Result

namespace Grammar

open TokenReader

variable (g : Grammar)

def expr (structs : Bool) : TokenReader Form := g (.expr structs)

/-- An expression of which nothing else matters. -/
def value : TokenReader Unit := do
  let _ ← g.expr true

/-- An operand with what stands before and after it. -/
def unary (structs : Bool) : TokenReader Form := g (.unary structs)

/-- The right operand of an operator of some level. -/
def operand (structs : Bool) (level : Nat) : TokenReader Form := g (.operand structs level)

def type (plus : Bool) : TokenReader TypeForm := g (.type plus)

def anyType : TokenReader Unit := do
  let _ ← g.type true

def bound (capturing constant : Bool) : TokenReader BoundForm := g (.bound capturing constant)

def pattern : TokenReader PatternForm := g .pattern

def statements : TokenReader Unit := g .statements

def arms : TokenReader Unit := g .arms

def item : TokenReader Unit := g .item

/-- What is imported; it is told whether it is printed as it is written. -/
def useTree (root : Bool) : TokenReader Bool := g (.useTree root)

def block : TokenReader Unit := within .curly g.statements

/-! ## Attributes -/

/-- The segments of a path without type arguments. -/
def plainSegments : TokenReader Unit := repeatWhile do
  if ← sees (atWords pathWords) then anyWord else name
  let more ← sees (atOperator "::")
  opIf "::"
  return more

def plainPath : TokenReader Unit := do
  opIf "::"
  plainSegments

/-- What an attribute says. -/
def attributeContents : TokenReader Unit := do
  if ← sees (atWord "unsafe") then anyWord else plainPath
  if ← sees atAnyOpening then
    let _ ← anyBrackets
  else if (← sees atAssign) && !(← sees (atOperator "==")) then
    op "="
    guard !(← sees fun ts => atOperator "#" ts && second (atOpening .square) ts)
    g.value

def attributes : TokenReader Unit := repeatWhile do
  if !(← sees (atOperator "#")) then return false
  op "#"
  within .square g.attributeContents
  return true

/-- The attributes at the beginning of brackets, which are about what is around them. -/
def innerAttributes : TokenReader Unit := repeatWhile do
  if !(← sees fun ts => atOperator "#" ts && second (atOperator "!") ts) then return false
  op "#"
  op "!"
  within .square g.attributeContents
  return true

/-- The statements of a block in curly brackets that may begin with attributes. -/
def fullBlock : TokenReader Unit := within .curly do
  g.innerAttributes
  g.statements

/-! ## Macros -/

/-- The brackets of a macro call, after its path. -/
def macroCall : TokenReader Bracket := do
  op "!"
  anyBrackets

/-- A macro call that ends with a semicolon unless its brackets are curly; `named` says that a name
may stand in front of them. -/
def macroItem (named : Bool) : TokenReader Unit := do
  plainPath
  op "!"
  whenAt (fun ts => named && (atName ts || atWord "try" ts)) anyWord
  let b ← anyBrackets
  if b ≠ .curly then op ";"

end Grammar
end ForeignCall
