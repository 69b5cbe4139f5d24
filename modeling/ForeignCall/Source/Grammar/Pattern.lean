import ForeignCall.Source.Grammar.Path

/-!
# Reading patterns

Patterns, of which several may stand with bars between them.

* `Grammar.readPattern` reads one pattern, `Grammar.patterns` alternatives.
-/

namespace ForeignCall

/-! ## 1. Fields -/

/-- The number of an unnamed field. -/
def fieldNumber? (t : Text) : Option Nat :=
  let (base, digits) : Nat × Text := match t with
    | '0' :: 'x' :: digits => (16, digits)
    | '0' :: 'o' :: digits => (8, digits)
    | '0' :: 'b' :: digits => (2, digits)
    | digits => (10, digits)
  let digits := digits.filter (· ≠ '_')
  let fits (c : Char) : Bool := (Text.hexDigit? c).any (· < base)
  let n := (digits.filterMap Text.hexDigit?).foldl (fun n d => n * base + d) 0
  if digits ≠ [] ∧ digits.all fits ∧ n < 0x100000000 then some n else none

def atFieldNumber : List Token → Bool
  | .literal t :: _ => (fieldNumber? t).isSome
  | _ => false

namespace TokenReader

/-- Reads the number of an unnamed field and prints it in decimal. -/
def fieldNumber : TokenReader Unit := do
  match ← ahead with
  | .literal t :: _ =>
    match fieldNumber? t with
    | some n =>
      skip 1
      emit [.literal (Text.ofNat n)]
    | none => failure
  | _ => failure

end TokenReader

namespace Grammar

open TokenReader

variable (g : Grammar)

/-! ## 2. Alternatives -/

/-- Patterns with bars between them, and one in front if there is one. -/
def patterns : TokenReader PatternForm := do
  let led ← sees (atOperator "|")
  opIf "|"
  let first ← g.pattern
  iterate (fun _ => do
    if !(← sees atBar) then return none
    op "|"
    let _ ← g.pattern
    return some .plain) (if led then .plain else first)

/-- Patterns of which nothing else matters. -/
def anyPatterns : TokenReader Unit := do
  let _ ← g.patterns

/-- A field of a structure pattern. A boxed one is printed as it is written. -/
def patternField : TokenReader Unit := do
  if ← sees atFieldNumber then
    fieldNumber
    op ":"
    g.anyPatterns
  else if ← sees (atWords ["box", "ref", "mut"]) then
    let _ ← asWrittenIf id do
      let boxed ← sees (atWord "box")
      wordIf "box"
      wordIf "ref"
      wordIf "mut"
      name
      return boxed
  else
    name
    if ← sees (atOperator ":") then
      op ":"
      g.anyPatterns

def patternFields : TokenReader Unit := within .curly <| repeatWhile do
  if ← sees atEnd then return false
  g.attributes
  if ← sees (atOperator "..") then
    op ".."
    return false
  g.patternField
  if ← sees atEnd then return false
  op ","
  return true

/-! ## 3. Ranges -/

/-- A range has no end here. -/
def lacksEnd (ts : List Token) : Bool :=
  atEnd ts || atOperators ["|", "=", ",", ";"] ts || atColon ts || atWord "if" ts

def rangeBound : TokenReader Unit := do
  if ← sees atLiteral then literal
  else if ← sees (atWord "const") then
    anyWord
    g.fullBlock
  else
    expect fun ts => atPath ts || atOperator "<" ts
    let _ ← g.qualifiedPath true

/-- The dots of a range and its end; only after a beginning, three dots stand for a closed one. -/
def rangeEnding (begun : Bool) : TokenReader PatternForm := do
  let ts ← ahead
  let dots : Text :=
    if atOperator "..=" ts then "..=" else if atOperator "..." ts then "..." else ".."
  if dots = "..." then
    guard begun
    skip 3
    emit (Token.operator "..=")
  else op dots
  if ← sees lacksEnd then
    guard (dots = "..")
    return if begun then .openRange else .plain
  g.rangeBound
  return if begun then .plain else .openRange

/-! ## 4. One pattern -/

/-- A pattern follows that begins with a path. -/
def atPathPattern (ts : List Token) : Bool :=
  let goesOn (ts : List Token) : Bool :=
    atOperators ["::", "!", ".."] ts || atOpening .curly ts || atOpening .round ts
  (atName ts && second goesOn ts) || (atWord "self" ts && second (atOperator "::") ts) ||
    atOperators ["::", "<"] ts || atWords ["Self", "super", "crate"] ts

def pathPattern : TokenReader PatternForm := do
  let path ← g.qualifiedPath true
  if path.plain && (← sees atBang) then
    let _ ← macroCall
  else if ← sees (atOpening .curly) then g.patternFields
  else if ← sees (atOpening .round) then within .round (commaList atEnd g.anyPatterns)
  else if ← sees (atOperator "..") then return ← g.rangeEnding true
  return .plain

/-- An item of a slice pattern. A range needs both its ends there. -/
def sliceItem : TokenReader Unit := do
  let form ← g.patterns
  guard (form ≠ .openRange)

def readPattern : TokenReader PatternForm := do
  let ts ← ahead
  if atPathPattern ts then g.pathPattern
  else if atWord "_" ts then
    anyWord
    return .plain
  else if atWord "box" ts then
    asWritten do
      anyWord
      let _ ← g.pattern
    return .asWritten
  else if atLiteral ts || atWord "const" ts then
    g.rangeBound
    if ← sees (atOperator "..") then g.rangeEnding true else return .plain
  else if atWords ["ref", "mut", "self"] ts || atName ts then
    wordIf "ref"
    wordIf "mut"
    if ← sees (atWord "self") then anyWord else name
    if ← sees (atOperator "@") then
      op "@"
      let _ ← g.pattern
    return .plain
  else if atOperator "&" ts then
    op "&"
    wordIf "mut"
    let _ ← g.pattern
    return .plain
  else if atOpening .round ts then
    within .round (commaList atEnd g.anyPatterns)
    return .plain
  else if atOpening .square ts then
    within .square (commaList atEnd g.sliceItem)
    return .plain
  else
    expect (atOperator "..")
    g.rangeEnding false

end Grammar
end ForeignCall
