import ForeignCall.SemanticType

/-!
# Signatures

A signature is a function's name and types, a description an interface's name and signatures.
Neither is checked here: names may repeat and types may be unknown.
-/

namespace ForeignCall

structure Signature where
  name : Text
  params : List TypeSpec
  ret : TypeSpec
deriving DecidableEq, Repr

/-- `name: (a, b) -> r`. -/
def Signature.text (s : Signature) : Text :=
  s.name ++ ": (" ++ Text.join ", " (s.params.map TypeSpec.text) ++ ") -> " ++ s.ret.text

/-- An interface to be bound. -/
structure Description where
  name : Text
  signatures : List Signature
deriving DecidableEq, Repr

def Description.get? (d : Description) (name : Text) : Option Signature :=
  d.signatures.find? (·.name = name)

end ForeignCall
