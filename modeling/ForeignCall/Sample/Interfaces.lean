import ForeignCall.Binding.Generate

/-!
# Sample interfaces

Interfaces over the sample library, with names that are keywords, all capitals, or of several words.
-/

namespace ForeignCall.Sample

def signature (name : Text) (params : List SemanticType) (ret : SemanticType) : Signature :=
  ⟨name, params.map .known, .known ret⟩

/-- One function of each combination of types. -/
def equiv : Description where
  name := "Equiv"
  signatures := [
    signature "nb_widen" [.int32, .int64] .int64,
    signature "nb_add" [.int32, .int32] .int32,
    signature "nb_len" [.string] .int32,
    signature "nb_echo" [.string] .string,
    signature "nb_identity" [.handle] .handle,
    signature "nb_touch" [] .void,
    signature "nb_touches" [] .int32,
    signature "nb_fill" [.handle, .int64] .int32,
    signature "nb_greeting" [.int32] .string,
    signature "nb_pick" [.int32, .string, .string] .string,
    signature "nb_mix" [.int32, .int64, .string, .handle, .int32, .int64, .string, .handle] .int64]

/-- Names in capitals, which meet their own constants. -/
def upper : Description where
  name := "Upper"
  signatures := [
    signature "ABC" [] .int32,
    signature "X" [.int32] .int32,
    signature "abcDef" [] .int32]

/-- A keyword as a name, and symbols that may be weak. -/
def weak : Description where
  name := "Weak"
  signatures := [
    signature "weak_concat" [.string, .string, .int32] .string,
    signature "type" [.int32] .int32]

def interfaces : List Description := [equiv, upper, weak]

def typed? (name : Text) : Option TypedBinding := do
  let d ← interfaces.find? (·.name = name)
  let p ← (planFor d).toOption
  (typedBinding p).toOption

def module? (name resolver : Text) : Option EntryModule := do
  let d ← interfaces.find? (·.name = name)
  let p ← (planFor d).toOption
  (entryModule p resolver).toOption

end ForeignCall.Sample
