import ForeignCall.Source.Grammar.Member

/-!
# Reading items

What a block may declare: functions, types, traits, implementations, modules, imports, constants and
macros. What the grammar accepts but has no meaning for is printed as it is written.

* `Grammar.readItem` reads an item, `Grammar.readUseTree` what an import names.
-/

namespace ForeignCall
namespace Grammar

open TokenReader

variable (g : Grammar)

/-! ## 1. Imports -/

def newName : TokenReader Unit := do
  if ← sees (atWord "as") then
    anyWord
    nameOrBlank

/-- Reads what an import names; `root` says that it may begin at the root inside brackets. It is
told whether something did. -/
def readUseTree (root : Bool) : TokenReader Bool := do
  if ← sees fun ts => atName ts || atWords ["self", "super", "crate", "try"] ts then
    anyWord
    if ← sees (atOperator "::") then
      op "::"
      return ← g.useTree false
    newName
    return false
  else if ← sees (atOperator "*") then
    op "*"
    return false
  else
    within .curly do
      iterate (fun found => do
        if ← sees atEnd then return none
        let rooted ← sees fun ts => root && atOperator "::" ts
        if rooted then op "::"
        let inner ← g.useTree (root && !rooted)
        if !(← sees atEnd) then op ","
        return some (found || rooted || inner)) false

def useItem : TokenReader Bool := do
  word "use"
  let rooted ← sees (atOperator "::")
  opIf "::"
  let asWritten ← g.useTree (!rooted)
  op ";"
  return asWritten

/-- A library that is linked. -/
def externCrate : TokenReader Unit := do
  word "extern"
  word "crate"
  if ← sees (atWord "self") then anyWord else name
  newName
  op ";"

/-! ## 2. Values -/

def staticItem : TokenReader Bool := do
  word "static"
  wordIf "mut"
  name
  let typed ← sees fun ts => !atOperator "=" ts
  if typed then
    op ":"
    g.anyType
  let defined ← sees fun ts => !typed || !atOperator ";" ts
  if defined then
    op "="
    g.value
  op ";"
  return !(typed && defined)

/-! ## 3. Types -/

/-- Fields with names, in curly brackets. A field without a name may have fields of its own. -/
def namedFieldsUpTo : Nat → TokenReader Unit
  | 0 => failure
  | n + 1 => within .curly <| commaList atEnd do
    g.attributes
    let _ ← visibility
    let blank ← sees (atWord "_")
    nameOrBlank
    op ":"
    if ← sees fun ts => blank &&
        (atWord "struct" ts || (atWord "union" ts && second (atOpening .curly) ts)) then
      asWritten do
        anyWord
        namedFieldsUpTo n
    else g.anyType

def namedFields : TokenReader Unit := do g.namedFieldsUpTo (← ahead).length

def unnamedFields : TokenReader Unit := within .round <| commaList atEnd do
  g.attributes
  let _ ← visibility
  g.anyType

def structItem : TokenReader Unit := do
  word "struct"
  name
  let _ ← g.parameters
  let demanded ← g.whereClause
  if ← sees (atOpening .curly) then g.namedFields
  else
    if ← sees fun ts => !demanded && atOpening .round ts then
      g.unnamedFields
      let _ ← g.whereClause
    op ";"

/-- A variant of an enumeration; who may see it is not printed. -/
def variant : TokenReader Unit := do
  g.attributes
  let _ ← captured visibility
  name
  if ← sees (atOpening .curly) then g.namedFields
  else whenAt (atOpening .round) g.unnamedFields
  if ← sees (atOperator "=") then
    op "="
    g.value

def enumItem : TokenReader Unit := do
  word "enum"
  name
  let _ ← g.parameters
  let _ ← g.whereClause
  within .curly (commaList atEnd g.variant)

def unionItem : TokenReader Unit := do
  word "union"
  name
  let _ ← g.parameters
  let _ ← g.whereClause
  g.namedFields

/-! ## 4. Traits and implementations -/

/-- A trait, or another name for bounds if `bounds` allows that. -/
def traitItem (bounds : Bool) : TokenReader Unit := do
  wordIf "unsafe"
  wordIf "auto"
  word "trait"
  name
  let _ ← g.parameters
  if ← sees fun ts => bounds && atOperator "=" ts then
    op "="
    g.typeBounds fun ts => atWord "where" ts || atOperator ";" ts
    let _ ← g.whereClause
    op ";"
  else
    boundsAfterColon (g.typeBounds fun ts => atWord "where" ts || atOpening .curly ts)
    let _ ← g.whereClause
    g.membersOf g.traitMember

/-- What an implementation is for: a trait and a type, or a type alone, which is printed as it is
written after an exclamation mark. It is told whether the trait is one. -/
def implHead : TokenReader Bool := do
  let start ← get
  let head : TokenReader TypeForm := do
    whenAt (fun ts => atOperator "!" ts && !second (atOpening .curly) ts) (op "!")
    g.type true
  let negative ← sees fun ts => atOperator "!" ts && !second (atOpening .curly) ts
  let first ← head
  if ← sees (atWord "for") then
    anyWord
    g.anyType
    return first.kind = .name || first.kind = .path
  if negative then
    set start
    let _ ← asWritten head
  return true

def implItem (visible : Bool) : TokenReader Bool := do
  wordIf "default"
  wordIf "unsafe"
  word "impl"
  if ← sees atParameters then
    let _ ← g.parameters
  let constant ← sees fun ts =>
    atWord "const" ts || (atOperator "?" ts && second (atWord "const") ts)
  if constant then
    opIf "?"
    anyWord
  let isTrait ← g.implHead
  let _ ← g.whereClause
  g.membersOf g.implMember
  return visible || constant || !isTrait

/-! ## 5. Modules, foreign blocks and macros -/

def modItem : TokenReader Unit := do
  wordIf "unsafe"
  word "mod"
  if ← sees (atWord "try") then anyWord else name
  if ← sees (atOperator ";") then op ";" else g.membersOf g.item

def foreignItem : TokenReader Unit := do
  wordIf "unsafe"
  expect (atWord "extern")
  convention
  g.membersOf g.foreignMember

def macroDefinition : TokenReader Unit := do
  word "macro"
  name
  if ← sees (atOpening .round) then
    let _ ← anyBrackets
  expect (atOpening .curly)
  let _ ← anyBrackets

/-! ## 6. Items -/

/-- An item after its attributes; it is told whether it is printed as it is written. -/
def itemKind : TokenReader Bool := do
  let visible ← visibility
  let ts ← ahead
  let plainly (p : TokenReader Unit) : TokenReader Bool := do
    p
    return false
  let isTrait (ts : List Token) : Bool :=
    atWord "trait" ts || (atWord "auto" ts && second (atWord "trait") ts)
  if atFunction false ts then
    let _ ← g.signature false
    if ← sees (atOperator ";") then
      op ";"
      return true
    plainly g.fullBlock
  else if atWord "extern" ts then
    if second (atWord "crate") ts then plainly externCrate
    else
      guard !visible
      plainly g.foreignItem
  else if atWord "use" ts then g.useItem
  else if atWord "static" ts then g.staticItem
  else if atWord "const" ts then
    anyWord
    let form ← g.constRest
    return form.restricted || !form.defined
  else if atWord "unsafe" ts then
    if second isTrait ts then plainly (g.traitItem false)
    else if second (atWord "impl") ts then g.implItem visible
    else if second (atWord "mod") ts then plainly g.modItem
    else
      guard !visible
      plainly g.foreignItem
  else if atWord "mod" ts then plainly g.modItem
  else if atWord "type" ts then
    let form ← g.typeRest true false
    return form.restricted || !form.defined
  else if atWord "struct" ts then plainly g.structItem
  else if atWord "enum" ts then plainly g.enumItem
  else if atWord "union" ts && second atName ts then plainly g.unionItem
  else if isTrait ts then plainly (g.traitItem (atWord "trait" ts))
  else if atWord "impl" ts || atDefault ts then g.implItem visible
  else if atWord "macro" ts then
    macroDefinition
    return true
  else
    expect fun ts => !visible && atMacroMember ts
    plainly (macroItem true)

def readItem : TokenReader Unit := do
  let _ ← asWrittenIf id do
    g.attributes
    g.itemKind

end Grammar
end ForeignCall
