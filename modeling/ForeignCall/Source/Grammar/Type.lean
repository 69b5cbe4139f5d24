import ForeignCall.Source.Grammar.Bound

/-!
# Reading types

Types, down to function pointers and trait objects. Behind a reference, a pointer or an arrow no
bounds may follow with a plus sign; elsewhere they may.

* `Grammar.readType` reads a type.
-/

namespace ForeignCall
namespace Grammar

open TokenReader

variable (g : Grammar)

/-! ## 1. Function pointers -/

/-- How a function is called: `extern`, and perhaps a convention. -/
def convention : TokenReader Unit := do
  if ← sees (atWord "extern") then
    anyWord
    whenAt atText literal

/-- A parameter of a function pointer, which may have a name; only the first one may be called
`self`, and it is printed as it is written if it is mutable. -/
def pointerParameter (first : Bool) : TokenReader Unit := do
  let named (ts : List Token) : Bool :=
    (atName ts || atWord "_" ts || (first && atWord "self" ts)) && second atColon ts
  if ← sees fun ts => first && atWord "mut" ts && second (atWord "self") ts then
    asWritten do
      anyWord
      if ← sees named then
        anyWord
        op ":"
        g.anyType
      else anyWord
  else
    if ← sees named then
      anyWord
      op ":"
    g.anyType

/-- Three dots follow, which stand for any further arguments; they may have a name. -/
def atVariadic (ts : List Token) : Bool :=
  atOperator "..." ts ||
    ((atName ts || atWord "_" ts) && second (atOperator ":") ts && third (atOperator "...") ts)

/-- The dots that stand for any further arguments, after which nothing follows. -/
def variadic : TokenReader Unit := do
  if !(← sees (atOperator "...")) then
    anyWord
    op ":"
  op "..."
  opIf ","
  expect atEnd

def pointerParameters : TokenReader Unit := within .round do
  let _ ← iterate (fun first => do
    if ← sees atEnd then return none
    g.attributes
    if ← sees atVariadic then variadic
    else
      g.pointerParameter first
      if !(← sees atEnd) then op ","
    return some false) true

def functionType : TokenReader TypeForm := do
  wordIf "unsafe"
  convention
  word "fn"
  g.pointerParameters
  if ← sees (atOperator "->") then
    op "->"
    return { bareEnd := (← g.type false).bareEnd }
  return {}

/-! ## 2. Trait objects -/

/-- Bounds of which one names a trait. -/
def traits (plus capturing constant : Bool) : TokenReader BoundsForm := do
  let form ← g.bounds plus capturing constant
  guard form.anyTrait
  return form

/-- A trait object that is announced. With a star it is printed as it is written. -/
def dynType (plus : Bool) : TokenReader TypeForm := do
  let (_, bareEnd) ← asWrittenIf (·.1) do
    word "dyn"
    let starred ← sees (atOperator "*")
    opIf "*"
    let form ← g.traits plus false false
    return (starred, form.bareEnd && !starred)
  return { bareEnd }

/-- A type that begins with a path, perhaps after parameters: a path, a macro call or a trait
object. -/
def pathType (plus : Bool) (binder : List Token) : TokenReader TypeForm := do
  let (path, tokens) ← captured (g.qualifiedPath false)
  let kind : TypeKind :=
    if path.qualified then .other else if path.single then .name else .path
  let bareEnd : Bool := path.last = .absent
  if path.qualified then
    emit tokens
    return { bareEnd }
  if path.plain && (← sees atBang) then
    emit tokens
    let _ ← macroCall
    return {}
  emit (binder ++ tokens)
  let object : Bool := binder ≠ []
  if plus && (← sees (atOperator "+")) then
    let (form, _) ← iterate (fun (form, ended) => do
      if ended || !(← sees (atOperator "+")) then return none
      op "+"
      if !(← sees (atBound false)) then return some (form, true)
      let next ← g.bound false false
      return some ({ form with bareEnd := next.bareEnd }, false))
      ((⟨true, false, bareEnd⟩ : BoundsForm), false)
    return { bareEnd := form.bareEnd }
  return { kind := if object then .bound false else kind, bareEnd }

/-! ## 3. Brackets -/

/-- What begins with a round bracket: a tuple, a type in brackets, or bounds of which the first one
is in brackets. Brackets around a bound that has some are dropped. -/
def roundType (plus : Bool) : TokenReader TypeForm := do
  opening .round
  if ← sees atEnd then
    closing .round
    return {}
  if ← sees atLifetime then
    let _ ← g.traits true false false
    closing .round
    return {}
  if ← sees (atOperator "?") then
    let (_, bareEnd) ← g.traitBound false
    closing .round
    let form ← g.furtherBounds ⟨true, true, bareEnd⟩
    return { kind := if form.sole then .bound true else .other, bareEnd := form.bareEnd }
  let (first, tokens) ← captured (g.type true)
  if ← sees (atOperator ",") then
    emit tokens
    op ","
    commaList atEnd g.anyType
    closing .round
    return {}
  let joined : Bool := plus && atOperator "+" ((← ahead).drop 1)
  emit (if joined && first.kind = .bound true then tokens.tail.dropLast else tokens)
  closing .round
  if joined && first.kind ≠ .other then
    return { bareEnd := (← g.furtherBounds ⟨true, true, first.bareEnd⟩).bareEnd }
  return {}

def squareType : TokenReader TypeForm := do
  within .square do
    g.anyType
    if ← sees (atOperator ";") then
      op ";"
      g.value
  return {}

/-! ## 4. Types -/

/-- The words a function pointer may begin with. -/
def functionWords : List Text := ["fn", "unsafe", "extern"]

def readType (plus : Bool) : TokenReader TypeForm := do
  let ts ← ahead
  if atWord "for" ts then
    let ((), binder) ← captured g.binder
    if ← sees (atWords functionWords) then
      emit binder
      g.functionType
    else
      expect fun ts => atName ts || atWords pathWords ts
      g.pathType plus binder
  else if atOpening .round ts then g.roundType plus
  else if atWords functionWords ts then g.functionType
  else if atPath ts || atOperator "<" ts then g.pathType plus []
  else if atWord "dyn" ts then g.dynType plus
  else if atOpening .square ts then g.squareType
  else if atOperator "*" ts then
    op "*"
    oneOf ["const", "mut"]
    return { bareEnd := (← g.type false).bareEnd }
  else if atOperator "&" ts then
    op "&"
    whenAt atLifetime lifetime
    wordIf "mut"
    return { bareEnd := (← g.type false).bareEnd }
  else if atOperator "!" ts then
    op "!"
    return {}
  else if atWord "impl" ts then
    anyWord
    return { bareEnd := (← g.traits plus true true).bareEnd }
  else if atWord "_" ts then
    anyWord
    return {}
  else
    expect atLifetime
    return { bareEnd := (← g.traits true false false).bareEnd }

end Grammar
end ForeignCall
