import ForeignCall.Source.Ahead

/-!
# Reading tokens

A reader takes tokens off the front and notes what is to be printed for them: the same tokens with
every operator spelled as one, unless it is told to keep them as they stand.

* `captured` sets the printed tokens apart, `asWrittenIf` replaces them by what was read.
* `repeatWhile`, `commaList` and `commaItems` read lists; a list has no more items than tokens.
-/

namespace ForeignCall

structure Reading where
  /-- What is still to be read. -/
  rest : List Token
  /-- What is to be printed for what was read, the last token first. -/
  printed : List Token

/-- Reads in front of tokens. -/
abbrev TokenReader (α : Type) := StateT Reading Option α

namespace TokenReader

variable {α : Type}

/-! ## 1. Looking and printing -/

def ahead : TokenReader (List Token) := return (← get).rest

/-- The condition holds for what follows. -/
def sees (condition : List Token → Bool) : TokenReader Bool := return condition (← get).rest

def expect (condition : List Token → Bool) : TokenReader Unit := do guard (← sees condition)

/-- Reads where the condition holds for what follows. -/
def whenAt (condition : List Token → Bool) (p : TokenReader Unit) : TokenReader Unit := do
  if ← sees condition then p

def emit (tokens : List Token) : TokenReader Unit :=
  modify fun s => { s with printed := tokens.reverse ++ s.printed }

def skip (n : Nat) : TokenReader Unit := modify fun s => { s with rest := s.rest.drop n }

/-- Reads tokens as they stand. -/
def copy (n : Nat) : TokenReader Unit := do
  emit ((← ahead).take n)
  skip n

def printedCount : TokenReader Nat := return (← get).printed.length

/-- Takes back the tokens that were printed last. -/
def unprint (n : Nat) : TokenReader Unit :=
  modify fun s => { s with printed := s.printed.drop n }

/-- Puts round brackets around the tokens that were printed last. -/
def parenthesize (n : Nat) : TokenReader Unit := modify fun s =>
  { s with
    printed := .closing .round :: (s.printed.take n ++ .opening .round :: s.printed.drop n) }

/-- Reads, but hands over the tokens instead of printing them. -/
def captured (p : TokenReader α) : TokenReader (α × List Token) := fun s => do
  let (a, t) ← p { s with printed := [] }
  return ((a, t.printed.reverse), { t with printed := s.printed })

/-- Reads, and prints what was read as it stands where the condition holds for what was told. -/
def asWrittenIf (condition : α → Bool) (p : TokenReader α) : TokenReader α := fun s => do
  let (a, t) ← p s
  let source := s.rest.take (s.rest.length - t.rest.length)
  return (a, if condition a then { t with printed := source.reverse ++ s.printed } else t)

/-- Reads, and prints what was read as it stands. -/
def asWritten (p : TokenReader α) : TokenReader α := asWrittenIf (fun _ => true) p

/-- Reads if that is possible, and says whether it was. -/
def attempt (p : TokenReader Unit) : TokenReader Bool := fun s =>
  match p s with
  | some (_, t) => some (true, t)
  | none => some (false, s)

/-- What follows after reading, if that is possible; nothing is read. -/
def restAfter (p : TokenReader Unit) : TokenReader (Option (List Token)) := fun s =>
  some ((p s).map (·.2.rest), s)

/-! ## 2. Single tokens -/

/-- Reads the marks of an operator. -/
def op (marks : Text) : TokenReader Unit := do
  expect (atOperator marks)
  skip marks.length
  emit (Token.operator marks)

def opIf (marks : Text) : TokenReader Unit := whenAt (atOperator marks) (op marks)

def anyWord : TokenReader Unit := do
  expect atAnyWord
  copy 1

def word (w : Text) : TokenReader Unit := do
  expect (atWord w)
  copy 1

def wordIf (w : Text) : TokenReader Unit := whenAt (atWord w) (word w)

def oneOf (ws : List Text) : TokenReader Unit := do
  expect (atWords ws)
  copy 1

def name : TokenReader Unit := do
  expect atName
  copy 1

def nameOrBlank : TokenReader Unit := do
  if ← sees (atWord "_") then anyWord else name

def lifetime : TokenReader Unit := do
  expect atLifetime
  copy 2

def literal : TokenReader Unit := do
  expect atLiteral
  opIf "-"
  copy 1

def opening (b : Bracket) : TokenReader Unit := do
  expect (atOpening b)
  copy 1

def closing (b : Bracket) : TokenReader Unit := do
  match ← ahead with
  | .closing c :: _ => guard (b = c)
  | _ => failure
  copy 1

def within (b : Bracket) (inner : TokenReader α) : TokenReader α := do
  opening b
  let a ← inner
  closing b
  return a

def anyBrackets : TokenReader Bracket := do
  match ← ahead with
  | .opening b :: rest =>
    match untilClosed 0 rest with
    | some (inner, _) =>
      copy (inner.length + 1)
      return b
    | none => failure
  | _ => failure

/-! ## 3. Lists -/

/-- Repeats a step until it gives nothing; the first argument bounds how often. -/
def iterateUpTo (step : α → TokenReader (Option α)) : Nat → α → TokenReader α
  | 0, _ => failure
  | n + 1, a => do
    match ← step a with
    | some b => iterateUpTo step n b
    | none => return a

/-- Repeats a step, which reads something, until it gives nothing. -/
def iterate (step : α → TokenReader (Option α)) (a : α) : TokenReader α := do
  iterateUpTo step ((← ahead).length + 1) a

/-- Repeats a step for as long as it asks for it. -/
def repeatWhile (step : TokenReader Bool) : TokenReader Unit :=
  iterate (fun _ => do return if ← step then some () else none) ()

/-- Repeats a step up to the closing bracket. -/
def many (step : TokenReader Unit) : TokenReader Unit := repeatWhile do
  if ← sees atEnd then return false
  step
  return true

/-- Items with commas between them, up to where the condition holds, with an optional comma at the
end. -/
def commaList (stop : List Token → Bool) (item : TokenReader Unit) : TokenReader Unit :=
  repeatWhile do
    if ← sees stop then return false
    item
    if ← sees stop then return false
    op ","
    return true

/-- An item of a list in angle brackets. -/
structure AngleItem where
  isLifetime : Bool
  tokens : List Token
  /-- A comma follows. -/
  comma : Bool

/-- The items of a list in angle brackets, which a reader for one item tells lifetimes from. -/
def angleItems (item : TokenReader Bool) : TokenReader (List AngleItem) := do
  let found ← iterate (fun (done : List AngleItem × Bool) => do
    if done.2 || (← sees (atOperator ">")) then return none
    let (isLifetime, tokens) ← captured item
    if ← sees (atOperator ">") then return some (⟨isLifetime, tokens, false⟩ :: done.1, true)
    expect (atOperator ",")
    skip 1
    return some (⟨isLifetime, tokens, true⟩ :: done.1, false)) ([], false)
  return found.1.reverse

/-- The tokens of a list in angle brackets: lifetimes come first, with a comma before what follows
them. -/
def lifetimesFirst (items : List AngleItem) : List Token :=
  let (front, back) := items.partition (·.isLifetime)
  let comma (there : Bool) : List Token := if there then [.mark ',' false] else []
  front.flatMap (fun i => i.tokens ++ comma (i.comma || !back.isEmpty)) ++
    back.flatMap fun i => i.tokens ++ comma i.comma

/-- Reads a list in angle brackets and puts its lifetimes first. -/
def angleList (item : TokenReader Bool) : TokenReader (List AngleItem) := do
  op "<"
  let items ← angleItems item
  emit (lifetimesFirst items)
  op ">"
  return items

end TokenReader
end ForeignCall
