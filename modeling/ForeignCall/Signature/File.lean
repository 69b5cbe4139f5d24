import ForeignCall.Error
import ForeignCall.Signature
import ForeignCall.Text.Lines

/-!
# Signature files

One signature a line, `name: (type, type) -> type`. Blank lines and lines that begin with `#` are
skipped, and blanks may stand around every part of a line. Types are kept as written: whether they
exist is not the file's concern.

* `parseLine` reads one line, `parseSignatures` a file; the error gives the line, counted from 1,
  and is that of the first bad line.
-/

namespace ForeignCall

inductive SignatureFault where
  | noColon
  | noName
  | noOpening
  | noClosing
  | noArrow
  | noReturn
  /-- A piece between commas is blank; counted from 0. -/
  | emptyParam (position : Nat)
  /-- An earlier line has the same name. -/
  | repeated (name : Text)
  /-- The file could not be read. -/
  | unreadable (path reason : Text)
deriving DecidableEq, Repr

def SignatureFault.message : SignatureFault → Text
  | noColon => "expected ':' after function name"
  | noName => "function name cannot be empty"
  | noOpening => "expected '(' at start of type signature"
  | noClosing => "unmatched '(' in type signature"
  | noArrow => "expected '->' after argument list"
  | noReturn => "missing return type"
  | emptyParam position => "empty type for argument ".toList ++ Text.ofNat position
  | repeated name => "duplicate signature for '".toList ++ name ++ "'"
  | unreadable path reason => "failed to read ".toList ++ path ++ ": " ++ reason

structure ParseError where
  line : Nat
  fault : SignatureFault
deriving DecidableEq, Repr

def ParseError.message (e : ParseError) : Text :=
  if e.line = 0 then e.fault.message
  else "line ".toList ++ Text.ofNat e.line ++ ": " ++ e.fault.message

def parseParams (position : Nat) : List Text → Except SignatureFault (List TypeSpec)
  | [] => .ok []
  | piece :: rest =>
    let type := Text.trim piece
    if type = [] then .error (.emptyParam position)
    else (parseParams (position + 1) rest).map (.named type :: ·)

def parseParamList (list : Text) : Except SignatureFault (List TypeSpec) :=
  let list := Text.trim list
  if list = [] then .ok [] else parseParams 0 (Text.splitAll ',' list)

/-- Reads a line that is neither blank nor a comment. -/
def parseLine (line : Text) : Except SignatureFault Signature := do
  let (name, rest) ← orError .noColon (Text.splitOnce ':' line)
  let name := Text.trim name
  if name = [] then throw .noName
  let rest ← orError .noOpening (Text.stripPrefix? "(" (Text.trim rest))
  let (list, rest) ← orError .noClosing (Text.splitOnce ')' rest)
  let rest ← orError .noArrow (Text.stripPrefix? "->" (Text.trim rest))
  let ret := Text.trim rest
  if ret = [] then throw .noReturn
  let params ← parseParamList list
  return { name, params, ret := .named ret }

/-- The line, without the blanks around it, says nothing. -/
def isSkipped (line : Text) : Bool := line.head?.all (· == '#')

/-- Reads lines, the first being number `number`; `seen` holds the names before it. -/
def parseLines (number : Nat) (seen : List Text) :
    List Text → Except ParseError (List Signature)
  | [] => .ok []
  | line :: rest =>
    let line := Text.trim line
    if isSkipped line then parseLines (number + 1) seen rest
    else
      match parseLine line with
      | .error fault => .error ⟨number, fault⟩
      | .ok s =>
        if s.name ∈ seen then .error ⟨number, .repeated s.name⟩
        else (parseLines (number + 1) (s.name :: seen) rest).map (s :: ·)

def parseSignatures (text : Text) : Except ParseError (List Signature) :=
  parseLines 1 [] (Text.lines text)

/-- Reads the text of a signature file as the description of an interface. -/
def Description.parse (name text : Text) : Except ParseError Description :=
  (parseSignatures text).map fun signatures => { name, signatures }

/-- Reads the signature file at a path, given its text or the reason why there is none. -/
def Description.ofFile (name path : Text) (contents : Except Text Text) :
    Except ParseError Description := do
  Description.parse name (← contents.mapError fun reason => ⟨0, .unreadable path reason⟩)

end ForeignCall
