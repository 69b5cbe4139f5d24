import ForeignCall.Source.Grammar.Path

/-!
# Reading bounds and parameters

The bounds of types, the parameters of items and of bounds, and what is demanded of parameters.

* `Grammar.readBound` reads a bound, `Grammar.bounds` several, `Grammar.parameters` the parameters
  of an item and `Grammar.whereClause` the demands on them.
-/

namespace ForeignCall

structure BoundsForm where
  /-- One of them names a trait. -/
  anyTrait : Bool
  /-- There is one, without a plus sign. -/
  sole : Bool
  /-- The last one ends with a path without type arguments. -/
  bareEnd : Bool

namespace Grammar

open TokenReader

variable (g : Grammar)

/-! ## 1. Parameters -/

/-- A colon and the bounds after it; the colon is left out if there are none. -/
def boundsAfterColon (bounds : TokenReader Unit) : TokenReader Unit := do
  if ← sees (atOperator ":") then
    skip 1
    let ((), tokens) ← captured bounds
    if tokens ≠ [] then emit (Token.operator ":" ++ tokens)

def parameter : TokenReader Bool := do
  g.attributes
  if ← sees atLifetime then
    lifetime
    boundsAfterColon (boundList (atOperators [",", ">"]) lifetime)
    return true
  if ← sees (atWord "const") then
    anyWord
    name
    op ":"
    g.anyType
    if ← sees (atOperator "=") then
      op "="
      g.constArgument
  else
    name
    boundsAfterColon (g.typeBounds (atOperators [",", ">", "="]))
    if ← sees (atOperator "=") then
      op "="
      g.anyType
  return false

/-- The parameters of a bound or of a function pointer, after a `for`. -/
def binder : TokenReader Unit := do
  word "for"
  op "<"
  commaList (atOperator ">") do
    let _ ← g.parameter
  op ">"

/-- The parameters of an item, which may be blank; empty brackets are left out. It is told whether
there are brackets. -/
def parameters : TokenReader Bool := do
  if !(← sees (atOperator "<")) then return false
  skip 1
  let items ← angleItems do
    g.attributes
    if ← sees (atWord "_") then
      anyWord
      return false
    g.parameter
  expect (atOperator ">")
  skip 1
  if !items.isEmpty then emit (Token.operator "<" ++ lifetimesFirst items ++ Token.operator ">")
  return true

/-! ## 2. Bounds -/

/-- The arguments of a function trait and what it gives; it is told whether that ends with a path
without type arguments. -/
def functionArguments : TokenReader Bool := do
  within .round (commaList atEnd g.anyType)
  if ← sees (atOperator "->") then
    op "->"
    return (← g.type false).bareEnd
  return false

/-- What a type without a name captures. -/
def captures : TokenReader Unit := do
  word "use"
  let _ ← angleList do
    if ← sees atLifetime then
      lifetime
      return true
    if ← sees (atWord "Self") then anyWord else name
    return false

/-- A trait in a bound; `constant` says that it may be constant. It is told whether it is, and
whether it ends with a path without type arguments. -/
def traitBound (constant : Bool) : TokenReader (Bool × Bool) := do
  let ((), quantified) ← captured (whenAt (atWord "for") g.binder)
  let isConstant ← sees fun ts => atOpening .square ts || atWord "const" ts
  guard (constant || !isConstant)
  if ← sees (atOpening .square) then within .square (word "const") else wordIf "const"
  let relaxed ← sees (atOperator "?")
  opIf "?"
  emit quantified
  if relaxed && quantified = [] then whenAt (atWord "for") g.binder
  let path ← g.path false
  let called ← sees fun ts => path.last ≠ .present &&
    (atOpening .round ts || (atOperator "::" ts && third (atOpening .round) ts))
  if called then
    if let .empty n := path.last then unprint n
    whenAt (atOperator "::") (skip 2)
    return (isConstant, ← g.functionArguments)
  return (isConstant, path.last = .absent)

/-- Reads a bound. A constant trait is printed as it is written. -/
def readBound (capturing constant : Bool) : TokenReader BoundForm := do
  if ← sees atLifetime then
    lifetime
    return {}
  if ← sees (atWord "use") then
    guard capturing
    captures
    return {}
  let (isConstant, bareEnd) ← asWrittenIf (·.1) do
    if ← sees (atOpening .round) then return ← within .round (g.traitBound constant)
    g.traitBound constant
  return { isTrait := true, bareEnd := bareEnd && !isConstant }

/-- What follows a plus sign and may be a bound. -/
def atBound (constant : Bool) (ts : List Token) : Bool :=
  atAnyWord ts || atOperators ["::", "?"] ts || atLifetime ts || atOpening .round ts ||
    (constant && atOpening .square ts)

/-- One or more bounds; `plus` says that a plus sign may follow, also after the last one. -/
def bounds (plus capturing constant : Bool) : TokenReader BoundsForm := do
  let first ← g.bound capturing constant
  let (form, _) ← iterate (fun (form, ended) => do
    if ended || !plus || !(← sees (atOperator "+")) then return none
    op "+"
    if !(← sees (atBound constant)) then return some ({ form with sole := false }, true)
    let next ← g.bound capturing constant
    return some (⟨form.anyTrait || next.isTrait, false, next.bareEnd⟩, false))
    (⟨first.isTrait, true, first.bareEnd⟩, false)
  return form

/-- More bounds, each after a plus sign. -/
def furtherBounds (first : BoundsForm) : TokenReader BoundsForm :=
  iterate (fun form => do
    if !(← sees (atOperator "+")) then return none
    op "+"
    let next ← g.bound false false
    return some ⟨form.anyTrait || next.isTrait, false, next.bareEnd⟩) first

/-! ## 3. Demands on parameters -/

/-- A demand ends here. -/
def endsDemand (ts : List Token) : Bool :=
  atEnd ts || atOpening .curly ts || atOperators [",", ";", "="] ts || atColon ts

def demand : TokenReader Unit := do
  if ← sees fun ts => atLifetime ts && second (atOperator ":") ts then
    lifetime
    op ":"
    boundList endsDemand lifetime
  else
    whenAt (atWord "for") g.binder
    g.anyType
    op ":"
    g.typeBounds endsDemand

/-- The demands on parameters, after a `where`, which is left out if there are none. It is told
whether there is a `where`. -/
def whereClause : TokenReader Bool := do
  if !(← sees (atWord "where")) then return false
  skip 1
  guard !(← sees atParameters)
  let ((), demands) ← captured (repeatWhile do
    if ← sees endsDemand then return false
    g.demand
    let more ← sees (atOperator ",")
    opIf ","
    return more)
  if demands ≠ [] then emit (.word "where" :: demands)
  return true

end Grammar
end ForeignCall
