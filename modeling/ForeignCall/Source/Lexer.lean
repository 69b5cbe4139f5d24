import ForeignCall.Source.Token
import ForeignCall.Text.Blank
import ForeignCall.Text.Identifier

/-!
# Reading tokens

Source code is read as a list of tokens with balanced brackets. Blanks and comments are dropped, a
documentation comment stands for the attribute it abbreviates, and a literal is kept as it is
written.

* `Literal.rest?` takes a literal off the front, `Token.lex` reads a whole text.
-/

namespace ForeignCall

/-! ## 1. Words -/

/-- The word in front, and what follows. -/
def wordFront? : Text → Option (Text × Text)
  | [] => none
  | c :: rest =>
    if isIdentStart c || c == '_' then
      some (c :: rest.takeWhile isIdentPart, rest.dropWhile isIdentPart)
    else none

/-- Words that have no raw form. -/
def neverRaw : List Text := ["_", "super", "self", "Self", "crate"]

/-- The name in front, raw or not, and what follows. -/
def nameFront? (s : Text) : Option (Text × Text) :=
  match Text.stripPrefix? "r#" s with
  | none => wordFront? s
  | some rest =>
    match wordFront? rest with
    | none => none
    | some (word, rest) => if word ∈ neverRaw then none else some ("r#" ++ word, rest)

/-- What follows the word in front, if there is one. -/
def skipWord (s : Text) : Text := ((wordFront? s).map (·.2)).getD s

/-! ## 2. Literals -/

namespace Literal

/-- The kinds of literals between double quotes. -/
inductive Kind where
  | text
  | bytes
  | native
deriving DecidableEq, Repr

/-- The character may stand in such a literal. -/
def Kind.allows : Kind → Char → Bool
  | text, _ => true
  | bytes, c => c.toNat < 0x80
  | native, c => c != '\x00'

/-- The number in braces after `\u`, of one to six digits with underscores after the first; `value`
and `digits` are what was read of it. -/
def scalarDigits (value digits : Nat) : Text → Option (Nat × Text)
  | [] => none
  | c :: rest =>
    match Text.hexDigit? c with
    | some d => if digits = 6 then none else scalarDigits (value * 16 + d) (digits + 1) rest
    | none =>
      if digits = 0 then none
      else if c = '_' then scalarDigits value digits rest
      else if c = '\x7d' ∧ Text.isScalar value then some (value, rest)
      else none

/-- The character an escape stands for and what follows it, given what follows the backslash. -/
def escape? (kind : Kind) : Text → Option (Nat × Text)
  | 'n' :: rest => some (10, rest)
  | 'r' :: rest => some (13, rest)
  | 't' :: rest => some (9, rest)
  | '\\' :: rest => some (92, rest)
  | '\'' :: rest => some (39, rest)
  | '"' :: rest => some (34, rest)
  | '0' :: rest => if kind = .native then none else some (0, rest)
  | 'x' :: a :: b :: rest =>
    match Text.hexDigit? a, Text.hexDigit? b with
    | some high, some low =>
      let n := high * 16 + low
      if kind = .text ∧ 0x80 ≤ n then none
      else if kind = .native ∧ n = 0 then none
      else some (n, rest)
    | _, _ => none
  | 'u' :: '\x7b' :: rest =>
    if kind = .bytes then none
    else
      match scalarDigits 0 0 rest with
      | some (n, rest) => if kind = .native ∧ n = 0 then none else some (n, rest)
      | none => none
  | _ => none

/-- What follows the blanks after a line end that was escaped; `pending` says that the last one was
a carriage return, which needs its line feed. -/
def afterLineEnd (pending : Bool) : Text → Option Text
  | [] => none
  | c :: rest =>
    if pending then (if c = '\n' then afterLineEnd false rest else none)
    else if c = '\r' then afterLineEnd true rest
    else if c = ' ' ∨ c = '\t' ∨ c = '\n' then afterLineEnd false rest
    else some (c :: rest)

/-- The contents of a literal up to its closing quote and what follows the quote. The first argument
bounds the number of steps. -/
def body? (kind : Kind) : Nat → Text → Option (List Nat × Text)
  | 0, _ => none
  | _, [] => none
  | _, '"' :: rest => some ([], rest)
  | n + 1, '\r' :: rest =>
    match rest with
    | '\n' :: rest => (body? kind n rest).map fun r => (10 :: r.1, r.2)
    | _ => none
  | n + 1, '\\' :: rest =>
    match rest with
    | '\n' :: rest => (afterLineEnd false rest).bind (body? kind n)
    | '\r' :: rest => (afterLineEnd true rest).bind (body? kind n)
    | rest =>
      (escape? kind rest).bind fun e => (body? kind n e.2).map fun r => (e.1 :: r.1, r.2)
  | n + 1, c :: rest =>
    if kind.allows c then (body? kind n rest).map fun r => (c.toNat :: r.1, r.2) else none

/-- The contents of a raw literal up to its closing quote with `hashes` marks, and what follows. -/
def rawBody? (kind : Kind) (hashes : Text) : Text → Option (List Nat × Text)
  | [] => none
  | '\r' :: rest =>
    match rest with
    | '\n' :: rest => (rawBody? kind hashes rest).map fun r => (13 :: 10 :: r.1, r.2)
    | _ => none
  | c :: rest =>
    match (if c = '"' then Text.stripPrefix? hashes rest else none) with
    | some rest => some ([], rest)
    | none =>
      if kind.allows c then (rawBody? kind hashes rest).map fun r => (c.toNat :: r.1, r.2)
      else none

/-- The contents of a literal with `quotes` in front, and what follows it. -/
def quoted? (kind : Kind) (plain raw : Text) (s : Text) : Option (List Nat × Text) :=
  match Text.stripPrefix? (plain ++ "\"") s with
  | some rest => body? kind (rest.length + 1) rest
  | none =>
    match Text.stripPrefix? raw s with
    | none => none
    | some rest =>
      let hashes := rest.takeWhile (· == '#')
      match rest.drop hashes.length with
      | '"' :: rest => if hashes.length ≤ 255 then rawBody? kind hashes rest else none
      | _ => none

/-- The contents of a text literal in front, and what follows it. -/
def text? (s : Text) : Option (Text × Text) :=
  (quoted? .text "" "r" s).map fun r => (r.1.map Char.ofNat, r.2)

/-- What follows a literal of one character between single quotes. -/
def character? (kind : Kind) (start : Text) (s : Text) : Option Text :=
  match Text.stripPrefix? (start ++ "'") s with
  | none => none
  | some [] => none
  | some ('\\' :: rest) => (escape? kind rest).bind fun e => Text.stripPrefix? "'" e.2
  | some (c :: rest) => if kind.allows c then Text.stripPrefix? "'" rest else none

/-- What follows the exponent of a number; `before` is the answer if it has no digits. -/
def exponent (before : Option Text) (signed found : Bool) : Text → Option Text
  | [] => if found then some [] else before
  | c :: rest =>
    if c.isDigit then exponent before signed true rest
    else if c = '_' then exponent before signed found rest
    else if (c = '+' ∨ c = '-') ∧ found = false then
      if signed then before else exponent before true found rest
    else if found then some (c :: rest) else before

def isDigitPart (c : Char) : Bool := c.isDigit || c == '_'

/-- What follows the digits of a number with a point or an exponent. -/
def floatDigits? (s : Text) : Option Text :=
  if !s.head?.any Char.isDigit then none
  else
    match s.dropWhile isDigitPart with
    | '.' :: rest =>
      if rest.head?.any (fun c => c == '.' || c == '_' || isIdentStart c) then none
      else
        match rest.dropWhile isDigitPart with
        | 'e' :: more => exponent (some ('e' :: more)) false false more
        | 'E' :: more => exponent (some ('E' :: more)) false false more
        | rest => some rest
    | 'e' :: more => exponent none false false more
    | 'E' :: more => exponent none false false more
    | _ => none

/-- What follows the digits of a whole number in a base; `found` says that there were some. -/
def wholeDigits? (base : Nat) (found : Bool) : Text → Option Text
  | [] => if found then some [] else none
  | c :: rest =>
    if c.isDigit then
      if c.toNat - '0'.toNat < base then wholeDigits? base true rest else none
    else if c = '_' then
      if !found && base == 10 then none else wholeDigits? base found rest
    else if base = 16 ∧ (Text.hexDigit? c).isSome then wholeDigits? base true rest
    else if found then some (c :: rest) else none

/-- What follows a suffix of a number, where the number has to end. -/
def numberEnd? (s : Text) : Option Text :=
  let rest := skipWord s
  if rest.head?.any isIdentPart then none else some rest

def whole? (s : Text) : Option Text :=
  let digits := match s with
    | '0' :: 'x' :: rest => wholeDigits? 16 false rest
    | '0' :: 'o' :: rest => wholeDigits? 8 false rest
    | '0' :: 'b' :: rest => wholeDigits? 2 false rest
    | s => wholeDigits? 10 false s
  digits.bind numberEnd?

/-- What follows the literal in front, its suffix included. -/
def rest? (s : Text) : Option Text :=
  let strings := [quoted? .text "" "r" s, quoted? .bytes "b" "br" s, quoted? .native "c" "cr" s]
  let found := (strings.map (·.map (·.2))) ++ [character? .bytes "b" s, character? .text "" s]
  match found.findSome? id with
  | some rest => some (skipWord rest)
  | none => ((floatDigits? s).bind numberEnd?).or (whole? s)

end Literal

/-! ## 3. Marks, comments and brackets -/

/-- What stands in the place of an expression that could not be made. It counts as a literal. -/
def missingExpression : Text := "(/*ERROR*/)"

/-- A mark stands in front; the beginning of a comment is none. -/
def markFront : Text → Bool
  | [] => false
  | '/' :: '/' :: _ => false
  | '/' :: '*' :: _ => false
  | c :: _ => c ∈ Token.marks

/-- The mark in front and what follows it. A single quote is a mark only in front of a name. -/
def markToken? : Text → Option (Token × Text)
  | [] => none
  | c :: rest =>
    if !markFront (c :: rest) then none
    else if c = '\'' then
      match nameFront? rest with
      | none => none
      | some (_, after) =>
        let raw := (Text.stripPrefix? "r#" rest).isSome
        if after.head? = some '\'' ∨ (after.head? = some '#' ∧ !raw) then none
        else some (.mark '\'' true, rest)
    else some (.mark c (markFront rest), rest)

/-- Beginnings of literals; a name does not begin like one. -/
def literalStarts : List Text :=
  ["r\"", "r#\"", "r##", "b\"", "b'", "br\"", "br#", "c\"", "cr\"", "cr#"]

/-- The token in front, a bracket excepted, and what follows it. -/
def leafToken? (s : Text) : Option (Token × Text) :=
  match Literal.rest? s with
  | some rest => some (.literal (s.take (s.length - rest.length)), rest)
  | none =>
    match markToken? s with
    | some found => some found
    | none =>
      if literalStarts.any fun start => (Text.stripPrefix? start s).isSome then none
      else (nameFront? s).map fun found => (.word found.1, found.2)

/-- What follows the comment that was opened `depth` times, and its contents. -/
def commentEnd? (depth : Nat) : Text → Option (Text × Text)
  | [] => none
  | '/' :: '*' :: rest =>
    (commentEnd? (depth + 1) rest).map fun r => ('/' :: '*' :: r.1, r.2)
  | '*' :: '/' :: rest =>
    if depth ≤ 1 then some ([], rest)
    else (commentEnd? (depth - 1) rest).map fun r => ('*' :: '/' :: r.1, r.2)
  | c :: rest => (commentEnd? depth rest).map fun r => (c :: r.1, r.2)

/-- The rest of a line and what follows, the line feed included; a carriage return in front of the
line feed is not part of the line. -/
def lineEnd : Text → Text × Text
  | [] => ([], [])
  | '\n' :: rest => ([], '\n' :: rest)
  | '\r' :: '\n' :: rest => ([], '\r' :: '\n' :: rest)
  | c :: rest =>
    let r := lineEnd rest
    (c :: r.1, r.2)

/-- A blank between tokens; the marks of writing direction count. -/
def isTokenBlank (c : Char) : Bool := isBlank c || c == '\u200e' || c == '\u200f'

/-- A comment in front that documents what follows: its contents, whether it documents what is
around it, and what follows the comment. -/
def docComment? (s : Text) : Option (Text × Bool × Text) :=
  match s with
  | '/' :: '/' :: '!' :: rest =>
    let r := lineEnd rest
    some (r.1, true, r.2)
  | '/' :: '*' :: '!' :: rest => (commentEnd? 1 rest).map fun r => (r.1, true, r.2)
  | '/' :: '/' :: '/' :: rest =>
    if rest.head? = some '/' then none
    else
      let r := lineEnd rest
      some (r.1, false, r.2)
  | '/' :: '*' :: '*' :: rest =>
    if rest.head? = some '*' ∨ rest.head? = some '/' then none
    else (commentEnd? 1 rest).map fun r => (r.1, false, r.2)
  | _ => none

/-- What follows the comment in front, if there is one. -/
def plainComment? (s : Text) : Option Text :=
  match s with
  | '/' :: '/' :: rest => some (lineEnd rest).2
  | '/' :: '*' :: rest => (commentEnd? 1 rest).map (·.2)
  | _ => none

/-- A carriage return without a line feed after it. -/
def hasBareReturn : Text → Bool
  | [] => false
  | '\r' :: rest => rest.head? != some '\n' || hasBareReturn rest
  | _ :: rest => hasBareReturn rest

/-- The attribute for a documenting comment. -/
def docAttribute (contents : Text) (inner : Bool) : List Token :=
  .mark '#' false :: ((if inner then [.mark '!' false] else []) ++
    bracketed .square [.word "doc", .mark '=' false, .quoted contents])

namespace Token

/-- Reads tokens; `pending` holds the brackets that are open, the innermost first, and the first
argument bounds the number of steps. -/
def lexFrom : Nat → List Bracket → Text → Option (List Token)
  | 0, _, _ => none
  | _ + 1, pending, [] => if pending = [] then some [] else none
  | n + 1, pending, c :: rest =>
    let s := c :: rest
    if isTokenBlank c then lexFrom n pending rest
    else
      match docComment? s with
      | some (contents, inner, rest) =>
        if hasBareReturn contents then none
        else (lexFrom n pending rest).map (docAttribute contents inner ++ ·)
      | none =>
        match plainComment? s with
        | some rest => lexFrom n pending rest
        | none =>
          match Text.stripPrefix? missingExpression s with
          | some rest => (lexFrom n pending rest).map (.literal missingExpression :: ·)
          | none =>
            match Bracket.all.find? (·.left = c), Bracket.all.find? (·.right = c) with
            | some b, _ => (lexFrom n (b :: pending) rest).map (.opening b :: ·)
            | none, some b =>
              match pending with
              | [] => none
              | innermost :: outer =>
                if innermost = b then (lexFrom n outer rest).map (.closing b :: ·) else none
            | none, none =>
              match leafToken? s with
              | some (t, rest) => (lexFrom n pending rest).map (t :: ·)
              | none => none

/-- Reads a text as tokens, if it is made of tokens and its brackets are balanced. A byte-order mark
in front is dropped. -/
def lex (s : Text) : Option (List Token) :=
  let s := if s.head? = some '\ufeff' then s.drop 1 else s
  lexFrom (s.length + 1) [] s

end Token
end ForeignCall
