import ForeignCall.Source.Grammar.Function

/-!
# Reading members

The members of traits, of implementations and of foreign blocks. What the grammar accepts but has no
meaning for is printed as it is written.

* `Grammar.traitMember`, `Grammar.implMember` and `Grammar.foreignMember` read one member.
-/

namespace ForeignCall
namespace Grammar

open TokenReader

variable (g : Grammar)

def membersOf (member : TokenReader Unit) : TokenReader Unit := within .curly do
  g.innerAttributes
  many member

def atMacroMember (ts : List Token) : Bool :=
  atName ts || atWords ["self", "super", "crate"] ts || atOperator "::" ts

/-- The word `default` follows, and not as the name of a macro. -/
def atDefault (ts : List Token) : Bool := atWord "default" ts && !second (atOperator "!") ts

/-- A member of a trait. One that is marked, or a constant with parameters, is printed as it is
written. -/
def traitMember : TokenReader Unit := do
  let _ ← asWrittenIf id do
    g.attributes
    let visible ← visibility
    let preset ← sees (atWord "default")
    wordIf "default"
    let marked := visible || preset
    let ts ← ahead
    if atFunction false ts then
      let _ ← g.signature false
      if ← sees (atOperator ";") then op ";" else g.fullBlock
      return marked
    else if atWord "const" ts then
      anyWord
      return marked || (← g.constRest).restricted
    else if atWord "type" ts then
      let _ ← g.typeRest false true
      return marked
    else
      expect fun ts => !marked && atMacroMember ts
      macroItem false
      return false

/-- A member of an implementation. A function without a body, a constant without a value or with
parameters, and a type with bounds or without a definition are printed as they are written. -/
def implMember : TokenReader Unit := do
  let _ ← asWrittenIf id do
    g.attributes
    let visible ← visibility
    let preset ← sees atDefault
    whenAt atDefault anyWord
    let ts ← ahead
    if atFunction false ts then
      let _ ← g.signature false
      if ← sees (atOperator ";") then
        op ";"
        return true
      g.fullBlock
      return false
    else if atWord "const" ts then
      anyWord
      let form ← g.constRest
      return form.restricted || !form.defined
    else if atWord "type" ts then
      let form ← g.typeRest false true
      return form.restricted || !form.defined
    else
      expect fun ts => !visible && !preset && atMacroMember ts
      macroItem false
      return false

def foreignStatic : TokenReader Bool := do
  let marked ← sees (atWords ["unsafe", "safe"])
  whenAt (atWords ["unsafe", "safe"]) anyWord
  word "static"
  wordIf "mut"
  name
  op ":"
  g.anyType
  let defined ← sees (atOperator "=")
  if defined then
    op "="
    g.value
  op ";"
  return marked || defined

/-- A member of a foreign block. A function with a body or marked as safe, a marked static or one
with a value, and a type with bounds or a definition are printed as they are written. -/
def foreignMember : TokenReader Unit := do
  let _ ← asWrittenIf id do
    g.attributes
    let visible ← visibility
    let ts ← ahead
    if atFunction true ts then
      let isSafe ← g.signature true
      if ← sees (atOpening .curly) then
        g.fullBlock
        return true
      op ";"
      return isSafe
    else if atWord "static" ts ||
        (atWords ["unsafe", "safe"] ts && second (atWord "static") ts) then
      g.foreignStatic
    else if atWord "type" ts then
      let form ← g.typeRest true true
      return form.restricted || form.defined
    else
      expect fun ts => !visible && atMacroMember ts
      macroItem false
      return false

end Grammar
end ForeignCall
