import ForeignCall.Source.Token

/-!
# Looking ahead

What tokens begin with. A bracket that opens stands for the whole group up to the bracket that
closes it, and a lifetime counts as one token, when the second or third token is asked for.

* `atName`, `atWord`, `atOperator`, `atOpening`, `atLifetime`, `atLiteral` ask for the first token,
  `second` and `third` for a later one in the same brackets.
-/

namespace ForeignCall

/-! ## 1. The first token -/

/-- Nothing follows in the same brackets. -/
def atEnd : List Token → Bool
  | [] => true
  | .closing _ :: _ => true
  | _ => false

/-- The words that are no names unless they are written raw. -/
def strictKeywords : List Text :=
  Text.splitAll ' ' ("_ abstract as async await become box break const continue crate ".toList ++
    "do dyn else enum extern false final fn for if impl in let loop macro match mod move mut " ++
    "override priv pub ref return Self self static struct super trait true try type typeof " ++
    "unsafe unsized use virtual where while yield")

def atName : List Token → Bool
  | .word w :: _ => w ∉ strictKeywords
  | _ => false

def atAnyWord : List Token → Bool
  | .word _ :: _ => true
  | _ => false

def atWord (w : Text) : List Token → Bool
  | .word v :: _ => v = w
  | _ => false

def atWords (ws : List Text) : List Token → Bool
  | .word v :: _ => v ∈ ws
  | _ => false

/-- The marks of an operator follow, all but the last glued to the next. -/
def atOperator : Text → List Token → Bool
  | [], _ => true
  | [c], .mark d _ :: _ => c = d
  | c :: d :: rest, .mark e true :: ts => c = e && atOperator (d :: rest) ts
  | _, _ => false

def atOperators (operators : List Text) (ts : List Token) : Bool :=
  operators.any fun o => atOperator o ts

def atOpening (b : Bracket) : List Token → Bool
  | .opening c :: _ => b = c
  | _ => false

def atAnyOpening : List Token → Bool
  | .opening _ :: _ => true
  | _ => false

def atLifetime : List Token → Bool
  | .mark '\'' true :: .word _ :: _ => true
  | _ => false

def atLiteral : List Token → Bool
  | .literal _ :: _ => true
  | .word w :: _ => w = "true" || w = "false"
  | .mark '-' _ :: .literal t :: _ => t.head?.any Char.isDigit
  | _ => false

/-- A literal between double quotes follows that is made of characters. -/
def atText : List Token → Bool
  | .literal t :: _ => t.head? = some '"' || t.head? = some 'r'
  | _ => false

/-- A field access or method call follows, and no range. -/
def atDot (ts : List Token) : Bool := atOperator "." ts && !atOperator ".." ts

/-- A colon follows that is not part of a path. -/
def atColon (ts : List Token) : Bool := atOperator ":" ts && !atOperator "::" ts

def atAssign (ts : List Token) : Bool := atOperator "=" ts && !atOperator "=>" ts

def atBang (ts : List Token) : Bool := atOperator "!" ts && !atOperator "!=" ts

/-- A bar between patterns follows. -/
def atBar (ts : List Token) : Bool :=
  atOperator "|" ts && !atOperator "||" ts && !atOperator "|=" ts

/-! ## 2. Later tokens -/

/-- Splits off the tokens up to the bracket that closes the one opened before. -/
def untilClosed (depth : Nat) : List Token → Option (List Token × List Token)
  | [] => none
  | t :: ts =>
    let next : Option Nat := match t with
      | .opening _ => some (depth + 1)
      | .closing _ => if depth = 0 then none else some (depth - 1)
      | _ => some depth
    match next with
    | none => some ([t], ts)
    | some depth => (untilClosed depth ts).map fun r => (t :: r.1, r.2)

def afterFirst : List Token → List Token
  | [] => []
  | .closing _ :: _ => []
  | .opening _ :: ts => ((untilClosed 0 ts).map (·.2)).getD []
  | .mark '\'' true :: .word _ :: ts => ts
  | _ :: ts => ts

def second (condition : List Token → Bool) (ts : List Token) : Bool := condition (afterFirst ts)

def third (condition : List Token → Bool) (ts : List Token) : Bool :=
  condition (afterFirst (afterFirst ts))

/-! ## 3. Beginnings -/

/-- The words a path may begin with that are no names. -/
def pathWords : List Text := ["self", "Self", "super", "crate"]

/-- A path follows that does not begin with a type in angle brackets. -/
def atPath (ts : List Token) : Bool := atName ts || atWords pathWords ts || atOperator "::" ts

/-- An expression may begin here. -/
def atExpression (ts : List Token) : Bool :=
  (atAnyWord ts && !atWord "as" ts) || atAnyOpening ts || atLiteral ts || atLifetime ts ||
    atOperators ["..", "::", "#"] ts || atBang ts ||
    (atOperator "-" ts && !atOperators ["-=", "->"] ts) ||
    (atOperator "*" ts && !atOperator "*=" ts) || (atOperator "|" ts && !atOperator "|=" ts) ||
    (atOperator "&" ts && !atOperator "&=" ts) ||
    (atOperator "<" ts && !atOperators ["<=", "<<="] ts)

/-- Type parameters in angle brackets follow, and not a path that begins with a type. -/
def atParameters (ts : List Token) : Bool :=
  let named (ts : List Token) : Bool :=
    (atLifetime ts || atName ts) &&
      second (fun ts => atOperators [">", ",", "="] ts || atColon ts) ts
  let listed (ts : List Token) : Bool :=
    atOperators [">", "#"] ts || atWord "const" ts || named ts
  atOperator "<" ts && second listed ts

def withoutWord (w : Text) (ts : List Token) : List Token := if atWord w ts then ts.drop 1 else ts

/-- A function follows, after the words it may be marked with; `safe` says that it may be marked as
safe. -/
def atFunction (safe : Bool) (ts : List Token) : Bool :=
  let ts := withoutWord "async" (withoutWord "const" ts)
  let ts := if safe && atWord "safe" ts then ts.drop 1 else withoutWord "unsafe" ts
  let linked := ts.drop 1
  atWord "fn"
    (if atWord "extern" ts then (if atText linked then linked.drop 1 else linked) else ts)

end ForeignCall
