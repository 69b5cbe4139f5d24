import ForeignCall.Source.Grammar.Pattern

/-!
# Reading operators

Between operands stand binary operators, of which the tighter ones are read first.

* `Grammar.operators` reads the operators after an operand, `Grammar.readOperand` the right operand
  of an operator and `Grammar.readExpr` an expression.
-/

namespace ForeignCall

/-! ## 1. Levels -/

/-- How tightly operators bind; higher is tighter. -/
def Level.assign : Nat := 1
def Level.range : Nat := 2
def Level.compare : Nat := 6
def Level.cast : Nat := 13

/-- The binary operators with their levels; of two that follow, the earlier one counts. -/
def binaryOperators : List (Text × Nat) := [
  ("+=", 1), ("-=", 1), ("*=", 1), ("/=", 1), ("%=", 1), ("^=", 1), ("&=", 1), ("|=", 1),
  ("<<=", 1), (">>=", 1), ("&&", 4), ("||", 3), ("<<", 10), (">>", 10), ("==", 6), ("<=", 6),
  ("!=", 6), (">=", 6), ("+", 11), ("-", 11), ("*", 12), ("/", 12), ("%", 12), ("^", 8), ("&", 9),
  ("|", 7), ("<", 6), (">", 6)]

def binaryOperator? (ts : List Token) : Option (Text × Nat) :=
  binaryOperators.find? fun o => atOperator o.1 ts

/-- The level of the operator that follows; zero if there is none. -/
def levelAhead (ts : List Token) : Nat :=
  match binaryOperator? ts with
  | some (_, level) => level
  | none =>
    if atAssign ts then Level.assign
    else if atOperator ".." ts then Level.range
    else if atWord "as" ts then Level.cast
    else 0

/-- A range without an end may be followed by this. -/
def endsRange (structs : Bool) (ts : List Token) : Bool :=
  atEnd ts || atDot ts || atWord "as" ts || (!structs && atOpening .curly ts) || atOperators
    [",", ";", "?", "=>", "=", "+", "/", "%", "^", ">", "<=", "!=", "-=", "*=", "&=", "|=", "<<="]
    ts

/-- What must not follow a cast. -/
def breaksCast (ts : List Token) : Bool :=
  atDot ts || atOperator "?" ts || atOpening .square ts || atOpening .round ts

namespace Grammar

open TokenReader

variable (g : Grammar)

/-! ## 2. Operators after an operand -/

def rangeRest (structs : Bool) : TokenReader Form := do
  if ← sees (atOperator "..=") then
    op "..="
    let _ ← g.operand structs Level.range
  else
    guard !(← sees (atOperator "..."))
    op ".."
    if !(← sees (endsRange structs)) then
      let _ ← g.operand structs Level.range
  return .range

/-- A cast of what was printed since `start`. -/
def cast (start : Nat) : TokenReader Form := do
  word "as"
  let t ← g.type false
  guard !(← sees breaksCast)
  let length := (← printedCount) - start
  return if t.bareEnd then .openCast length else .plain

/-- A binary operator and its right operand, after a left operand. A cast in front of a sign that
would begin type arguments is put in brackets. -/
def binary (structs : Bool) (marks : Text) (level : Nat) (left : Form) : TokenReader Form := do
  guard !(left = .comparison && level = Level.compare)
  if let .openCast length := left then
    if marks ∈ (["<", "<<"] : List Text) then parenthesize length
  op marks
  let right ← g.operand structs level
  if level = Level.compare then return .comparison
  return match right with
    | .openCast length => .openCast length
    | _ => .plain

/-- The operators after an operand of some form, down to a level; `start` tells how much was printed
before the operand. Nothing follows a range. -/
def operators (structs : Bool) (base start : Nat) (form : Form) : TokenReader Form :=
  iterate (fun form => do
    let ts ← ahead
    if form = .range then return none
    match binaryOperator? ts with
    | some (marks, level) =>
      if level < base then return none
      return some (← g.binary structs marks level form)
    | none =>
      if atAssign ts && base ≤ Level.assign then
        op "="
        let _ ← g.operand structs Level.assign
        return some .plain
      else if atOperator ".." ts && base ≤ Level.range then return some (← g.rangeRest structs)
      else if atWord "as" ts && base ≤ Level.cast then return some (← g.cast start)
      else return none) form

/-- Reads the right operand of an operator, with the tighter operators after it; an assignment also
takes the next assignment. -/
def readOperand (structs : Bool) (level : Nat) : TokenReader Form := do
  let start ← printedCount
  let first ← g.unary structs
  iterate (fun form => do
    let ts ← ahead
    let next := levelAhead ts
    if level < next ∨ (next = level ∧ level = Level.assign) then
      let form ← g.operators structs next start form
      if (← ahead).length = ts.length then return none
      return some form
    else return none) first

def readExpr (structs : Bool) : TokenReader Form := do
  let start ← printedCount
  let first ← g.unary structs
  g.operators structs 0 start first

end Grammar
end ForeignCall
