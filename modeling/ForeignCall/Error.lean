import ForeignCall.Value

/-!
# Binding errors

Why an interface could not be bound or a call could not be made. The first kind is known when a
binding is built, the second only when a method is called.

* `BindError.message` is the wording, `BindError.isBindTime` tells the two kinds apart.
-/

namespace ForeignCall

inductive TypePosition where
  | param (position : Nat)
  | ret
deriving DecidableEq, Repr

/-- What went wrong while binding or calling. -/
inductive BindError where
  /-- The type in a signature is none of the known ones, or is void in a parameter. -/
  | unsupportedType (symbol : Text) (position : TypePosition) (type : Text)
  /-- The library has no such symbol. -/
  | symbolNotBound (symbol library : Text)
  /-- No library could be opened. -/
  | libraryNotFound (library reason : Text)
  /-- The native function could not be run. -/
  | nativeCallFailed (symbol reason : Text)
  /-- The number of arguments is not that of the parameters. -/
  | arityMismatch (symbol : Text) (expected found : Nat)
  /-- An argument is of a kind the parameter does not accept. -/
  | argumentMismatch (symbol : Text) (position : Nat) (expected : SemanticType) (found : Kind)
  /-- A text holds a zero byte, counted in bytes from its beginning. -/
  | interiorNul (offset : Nat)
  /-- Two signatures have one name. -/
  | duplicateMethod (symbol : Text)
  /-- The name of a signature cannot name a symbol. -/
  | invalidSymbolName (symbol : Text)
  /-- The interface has no such method. -/
  | unknownMethod (name : Text)
deriving DecidableEq, Repr

/-- Something between backquotes. -/
def backquoted (t : Text) : Text := '\x60' :: (t ++ ['\x60'])

def TypePosition.text : TypePosition → Text
  | param position => "parameter ".toList ++ Text.ofNat position
  | ret => "return type"

namespace BindError

def message : BindError → Text
  | unsupportedType symbol position type =>
    "unsupported type ".toList ++ backquoted type ++ " in " ++ position.text ++ " of " ++
      backquoted symbol
  | symbolNotBound symbol library =>
    "symbol ".toList ++ backquoted symbol ++ " not found in " ++ library
  | libraryNotFound library reason =>
    "unable to open library ".toList ++ backquoted library ++ ": " ++ reason
  | nativeCallFailed symbol reason =>
    "native call to ".toList ++ backquoted symbol ++ " failed: " ++ reason
  | arityMismatch symbol expected found =>
    backquoted symbol ++ " expects " ++ Text.ofNat expected ++ " argument(s), got " ++
      Text.ofNat found
  | argumentMismatch symbol position expected found =>
    "argument ".toList ++ Text.ofNat position ++ " of " ++ backquoted symbol ++ ": expected " ++
      expected.name ++ ", found " ++ found.name
  | interiorNul offset =>
    "string argument contains a NUL byte at offset ".toList ++ Text.ofNat offset
  | duplicateMethod symbol => "duplicate method ".toList ++ backquoted symbol ++ " in interface"
  | invalidSymbolName symbol => "invalid symbol name ".toList ++ backquoted symbol
  | unknownMethod name => "no method ".toList ++ backquoted name ++ " in interface"

/-- The error belongs to building a binding, not to calling a method. -/
def isBindTime : BindError → Bool
  | unsupportedType .. => true
  | symbolNotBound .. => true
  | libraryNotFound .. => true
  | duplicateMethod .. => true
  | invalidSymbolName .. => true
  | nativeCallFailed .. => false
  | arityMismatch .. => false
  | argumentMismatch .. => false
  | interiorNul .. => false
  | unknownMethod .. => false

end BindError

/-- The value of an option, or the error if there is none. -/
def orError {ε α : Type} (e : ε) : Option α → Except ε α
  | some a => .ok a
  | none => .error e

end ForeignCall
