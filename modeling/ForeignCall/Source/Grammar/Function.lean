import ForeignCall.Source.Grammar.Atom

/-!
# Reading the heads of items

Who may see an item, the head of a function, and the parts that several kinds of items share: types,
constants and the bodies of functions.

* `Grammar.signature` reads the head of a function, `Grammar.typeRest` and `Grammar.constRest` an
  associated type or constant after its keyword.
-/

namespace ForeignCall
namespace Grammar

open TokenReader

variable (g : Grammar)

/-! ## 1. Visibility -/

/-- Who may see an item; it is told whether anything is said. -/
def visibility : TokenReader Bool := do
  if !(← sees (atWord "pub")) then return false
  anyWord
  match ← ahead with
  | .opening .round :: .word w :: rest =>
    if w = "in" then
      within .round do
        anyWord
        plainPath
    else if w ∈ (["crate", "self", "super"] : List Text) && atEnd rest then copy 3
  | _ => pure ()
  return true

/-! ## 2. Functions -/

def receiver : TokenReader Unit := do
  let referenced ← sees (atOperator "&")
  opIf "&"
  if referenced then whenAt atLifetime lifetime
  wordIf "mut"
  word "self"
  if !referenced && (← sees (atOperator ":")) then
    op ":"
    g.anyType

/-- A parameter of a function; it is told whether it stands for any further arguments. A type
without a name gets a blank one. -/
def functionParameter (first : Bool) : TokenReader Bool := do
  g.attributes
  if ← sees (atOperator "...") then
    op "..."
    return true
  if ← attempt g.receiver then
    guard first
    return false
  if ← sees fun ts => atName ts && second (atOperator "<") ts then
    emit [.word "_", .mark ':' false]
    g.anyType
    return false
  let _ ← g.pattern
  op ":"
  if ← sees (atOperator "...") then
    op "..."
    return true
  g.anyType
  return false

def functionParameters : TokenReader Unit := within .round do
  let _ ← iterate (fun first => do
    if ← sees atEnd then return none
    let variadic ← g.functionParameter first
    if variadic then
      opIf ","
      expect atEnd
    else if !(← sees atEnd) then op ","
    return some false) true

/-- The head of a function; `safe` says that it may be marked so, and it is told whether it is. -/
def signature (safe : Bool) : TokenReader Bool := do
  wordIf "const"
  wordIf "async"
  let isSafe ← sees fun ts => safe && atWord "safe" ts
  if isSafe then anyWord else wordIf "unsafe"
  convention
  word "fn"
  name
  let _ ← g.parameters
  g.functionParameters
  if ← sees (atOperator "->") then
    op "->"
    g.anyType
  let _ ← g.whereClause
  return isSafe

/-! ## 3. Types and constants -/

structure NamedForm where
  /-- Bounds are given, or parameters where there must be none. -/
  restricted : Bool
  /-- What it stands for is given. -/
  defined : Bool

/-- A type with a name, after its keyword; `early` and `late` say whether demands on the parameters
may stand before and after what it stands for. -/
def typeRest (early late : Bool) : TokenReader NamedForm := do
  word "type"
  name
  let _ ← g.parameters
  let bounded ← sees (atOperator ":")
  boundsAfterColon (g.typeBounds fun ts => atWord "where" ts || atOperators ["=", ";"] ts)
  let demanded ← if early then g.whereClause else pure false
  let defined ← sees (atOperator "=")
  if defined then
    op "="
    g.anyType
  if late && !demanded then
    let _ ← g.whereClause
  op ";"
  return ⟨bounded, defined⟩

def constRest : TokenReader NamedForm := do
  nameOrBlank
  let parametrized ← g.parameters
  op ":"
  g.anyType
  let defined ← sees (atOperator "=")
  if defined then
    op "="
    g.value
  let demanded ← g.whereClause
  op ";"
  return ⟨parametrized || demanded, defined⟩

end Grammar
end ForeignCall
