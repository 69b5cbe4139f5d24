import ForeignCall.Source.Grammar.Rule

/-!
# Reading paths

Paths and their type arguments. In angle brackets lifetimes come first, however they are written.

* `Grammar.path` reads a path, `Grammar.qualifiedPath` one that may begin with a type.
-/

namespace ForeignCall

inductive PathArguments where
  | absent
  /-- Angle brackets with nothing in them; they are the last tokens. -/
  | empty (length : Nat)
  | present
deriving DecidableEq, Repr

structure PathForm where
  /-- Begins with a type in angle brackets. -/
  qualified : Bool := false
  /-- Is one segment with nothing in front. -/
  single : Bool := false
  /-- Has no arguments anywhere. -/
  plain : Bool := false
  /-- The arguments of the last segment. -/
  last : PathArguments

namespace Grammar

open TokenReader

variable (g : Grammar)

/-! ## 1. Bounds with plus signs between them -/

/-- Bounds up to where the condition holds, and perhaps none; the last one may have a plus sign. -/
def boundList (stop : List Token → Bool) (bound : TokenReader Unit) : TokenReader Unit :=
  repeatWhile do
    if ← sees stop then return false
    bound
    let more ← sees (atOperator "+")
    opIf "+"
    return more

/-- The bounds of a type; traits may be constant. -/
def typeBounds (stop : List Token → Bool) : TokenReader Unit := boundList stop do
  let _ ← g.bound false true

/-! ## 2. Type arguments -/

/-- A value among type arguments. -/
def constArgument : TokenReader Unit := do
  if ← sees atLiteral then literal
  else if ← sees atName then name
  else g.fullBlock

/-- A value among type arguments follows, and no name. -/
def atConstArgument (ts : List Token) : Bool := atLiteral ts || atOpening .curly ts

/-- What is said of an associated type or value, after its name. -/
def association : TokenReader Unit := do
  if ← sees (atOperator "=") then
    op "="
    if ← sees atConstArgument then g.constArgument else g.anyType
  else if ← sees (atOperator ":") then
    op ":"
    g.typeBounds (atOperators [",", ">"])

/-- One type argument; it is told whether it is a lifetime. -/
def genericArgument : TokenReader Bool := do
  if ← sees fun ts => atLifetime ts && !second (atOperator "+") ts then
    lifetime
    return true
  if ← sees atConstArgument then g.constArgument
  else
    let t ← g.type true
    if t.kind = .name then g.association
  return false

/-- Type arguments in angle brackets; it is told whether there are none. -/
def genericArguments : TokenReader Bool := do
  return (← angleList g.genericArgument).isEmpty

/-! ## 3. Paths -/

/-- One segment of a path. In an expression, two colons stand before type arguments. -/
def segment (inExpr : Bool) : TokenReader PathArguments := do
  if ← sees (atWords ["super", "self", "crate", "try"]) then
    anyWord
    return .absent
  if ← sees (atWord "Self") then anyWord else name
  let before ← printedCount
  let ts ← ahead
  let spelled := atOperator "::" ts && third (atOperator "<") ts
  if spelled || (!inExpr && atOperator "<" ts && !atOperators ["<=", "<<="] ts) then
    opIf "::"
    let isEmpty ← g.genericArguments
    let length := (← printedCount) - before
    return if isEmpty then .empty length else .present
  return .absent

def path (inExpr : Bool) : TokenReader PathForm := do
  let rooted ← sees (atOperator "::")
  opIf "::"
  let first ← g.segment inExpr
  iterate (fun p => do
    if !(← sees fun ts => atOperator "::" ts && !third (atOpening .round) ts) then return none
    op "::"
    let last ← g.segment inExpr
    return some { p with single := false, plain := p.plain && last = .absent, last })
    { single := !rooted, plain := first = .absent, last := first }

/-- A path that may begin with a type in angle brackets. -/
def qualifiedPath (inExpr : Bool) : TokenReader PathForm := do
  if !(← sees (atOperator "<")) then return ← g.path inExpr
  op "<"
  g.anyType
  if ← sees (atWord "as") then
    anyWord
    let _ ← g.path false
  op ">"
  op "::"
  let first ← g.segment inExpr
  iterate (fun p => do
    if !(← sees (atOperator "::")) then return none
    op "::"
    return some { p with last := ← g.segment inExpr })
    { qualified := true, last := first }

end Grammar
end ForeignCall
