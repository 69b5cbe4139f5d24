import ForeignCall.Text.Quoted

/-!
# Tokens of source code

Generated code is a list of tokens, brackets included. It is printed on one line, with a blank
between two tokens except after a punctuation mark that is glued to the next one and inside round
and square brackets.

* `Token.render` prints; `code` reads the pieces of templates, which are written with blanks between
  tokens.
-/

namespace ForeignCall

inductive Bracket where
  | round
  | square
  | curly
deriving DecidableEq, Repr

namespace Bracket

def left : Bracket → Char
  | round => '('
  | square => '['
  | curly => '\x7b'

def right : Bracket → Char
  | round => ')'
  | square => ']'
  | curly => '\x7d'

def all : List Bracket := [round, square, curly]

/-- Blanks stand inside the brackets. -/
def spaced : Bracket → Bool
  | curly => true
  | _ => false

end Bracket

inductive Token where
  /-- A word: a name or a keyword. -/
  | word (text : Text)
  /-- A punctuation mark; it may be glued to the mark that follows. -/
  | mark (c : Char) (glued : Bool)
  /-- A literal, as it is written. -/
  | literal (text : Text)
  | opening (b : Bracket)
  | closing (b : Bracket)
deriving DecidableEq, Repr

namespace Token

def text : Token → Text
  | word text => text
  | mark c _ => [c]
  | literal text => text
  | opening b => [b.left]
  | closing b => [b.right]

/-- A blank stands between the two. -/
def apart : Token → Token → Bool
  | mark _ true, _ => false
  | opening b, _ => b.spaced
  | _, closing b => b.spaced
  | _, _ => true

/-- Prints what follows a token. -/
def renderAfter (previous : Token) : List Token → Text
  | [] => []
  | t :: rest =>
    let tail := t.text ++ renderAfter t rest
    if apart previous t then ' ' :: tail else tail

/-- Prints tokens on one line. -/
def render : List Token → Text
  | [] => []
  | t :: rest => t.text ++ renderAfter t rest

def quoted (t : Text) : Token := literal (Quoted.literal t)

def marks : List Char := "~!@#$%^&*-=+|;:,<.>/?'".toList

/-- The marks of an operator; all but the last are glued. -/
def operator : Text → List Token
  | [] => []
  | [c] => [mark c false]
  | c :: d :: rest => mark c true :: operator (d :: rest)

/-- A piece of a template between blanks. -/
def ofPiece : Text → List Token
  | [] => []
  | [c] =>
    match Bracket.all.find? (·.left = c), Bracket.all.find? (·.right = c) with
    | some b, _ => [opening b]
    | _, some b => [closing b]
    | _, _ => if c ∈ marks then [mark c false] else [word [c]]
  | '\'' :: name => [mark '\'' true, word name]
  | '"' :: rest => [literal ('"' :: rest)]
  | c :: rest => if c ∈ marks then operator (c :: rest) else [word (c :: rest)]

end Token

/-- The tokens of a template, which is written with blanks between them. -/
def code (template : Text) : List Token := (Text.splitAll ' ' template).flatMap Token.ofPiece

def bracketed (b : Bracket) (inner : List Token) : List Token :=
  .opening b :: (inner ++ [.closing b])

/-- Lists of tokens with a comma between neighbours. -/
def commaSeparated : List (List Token) → List Token
  | [] => []
  | [item] => item
  | item :: next :: rest => item ++ .mark ',' false :: commaSeparated (next :: rest)

theorem length_le_commaSeparated (parts : List (List Token)) :
    parts.length ≤ (commaSeparated parts).length + 1 := by
  fun_induction commaSeparated parts <;> grind

end ForeignCall
