import ForeignCall.Text

/-!
# TOML strings

A string stands between double quotes, with escapes, or between single quotes, without. Between
three quotes it may have several lines; the line end after the opening quotes does not count.

* `Toml.lineString?` takes a string of one line off the front of a text, `Toml.string?` any string.
-/

namespace ForeignCall.Toml

/-! ## 1. Blanks and lines -/

def isSpace (c : Char) : Bool := c == ' ' || c == '\t'

def skipSpace (s : Text) : Text := s.dropWhile isSpace

/-- What follows the line end in front. -/
def newline? : Text → Option Text
  | '\n' :: rest => some rest
  | '\r' :: '\n' :: rest => some rest
  | _ => none

def skipLines : Text → Text
  | '\n' :: rest => skipLines rest
  | '\r' :: '\n' :: rest => skipLines rest
  | c :: rest => if isSpace c then skipLines rest else c :: rest
  | [] => []

/-- The character may stand in a comment, and in a string unless it has a meaning there. -/
def isPlain (c : Char) : Bool := c == '\t' || (' ' ≤ c && c ≤ '~') || '\x80' ≤ c

/-! ## 2. Contents -/

/-- The character with a number of `count` hexadecimal digits in front, and what follows. -/
def scalarEscape? (count : Nat) (s : Text) : Option (Char × Text) := do
  let digits ← (s.take count).mapM Text.hexDigit?
  let n := digits.foldl (fun n d => n * 16 + d) 0
  if digits.length = count ∧ Text.isScalar n then some (Char.ofNat n, s.drop count) else none

/-- The character an escape stands for, and what follows; the backslash is taken already. -/
def escape? : Text → Option (Char × Text)
  | 'b' :: rest => some ('\x08', rest)
  | 't' :: rest => some ('\t', rest)
  | 'n' :: rest => some ('\n', rest)
  | 'f' :: rest => some ('\x0c', rest)
  | 'r' :: rest => some ('\r', rest)
  | '"' :: rest => some ('"', rest)
  | '\\' :: rest => some ('\\', rest)
  | 'u' :: rest => scalarEscape? 4 rest
  | 'U' :: rest => scalarEscape? 8 rest
  | _ => none

/-- How a string is written. -/
structure Style where
  /-- The character that ends it, once or three times. -/
  quote : Char
  escapes : Bool
  /-- It may have several lines. -/
  long : Bool
deriving DecidableEq, Repr

/-- Up to two quotes may stand in front of the three that end a string; the quotes in front of
those, and what follows the end, if there are enough of them. -/
def longEnd? (quote : Char) (s : Text) : Option (Text × Text) :=
  let run := s.takeWhile (· == quote)
  if run.length < 3 then none
  else
    let inside := min (run.length - 3) 2
    some (List.replicate inside quote, s.drop (inside + 3))

/-- The contents of a string up to its end, and what follows. The first argument bounds the number
of steps. -/
def contents? (style : Style) : Nat → Text → Option (Text × Text)
  | 0, _ => none
  | _, [] => none
  | n + 1, c :: rest =>
    let more (c : Char) (rest : Text) : Option (Text × Text) :=
      (contents? style n rest).map fun r => (c :: r.1, r.2)
    if c = style.quote then
      if style.long then (longEnd? c (c :: rest)).or (more c rest) else some ([], rest)
    else if c = '\\' ∧ style.escapes then
      match (if style.long then newline? (skipSpace rest) else none) with
      | some rest => contents? style n (skipLines rest)
      | none => (escape? rest).bind fun e => more e.1 e.2
    else if isPlain c then more c rest
    else if style.long then (newline? (c :: rest)).bind (more '\n')
    else none

/-! ## 3. Strings -/

/-- The string in front after its opening quotes, and what follows. -/
def closed? (style : Style) (s : Text) : Option (Text × Text) :=
  let s := if style.long then (newline? s).getD s else s
  contents? style (s.length + 1) s

/-- The string of one line in front, and what follows. -/
def lineString? : Text → Option (Text × Text)
  | '"' :: rest => closed? ⟨'"', true, false⟩ rest
  | '\'' :: rest => closed? ⟨'\'', false, false⟩ rest
  | _ => none

/-- The string in front, and what follows. -/
def string? : Text → Option (Text × Text)
  | '"' :: '"' :: '"' :: rest => closed? ⟨'"', true, true⟩ rest
  | '\'' :: '\'' :: '\'' :: rest => closed? ⟨'\'', false, true⟩ rest
  | s => lineString? s

end ForeignCall.Toml
