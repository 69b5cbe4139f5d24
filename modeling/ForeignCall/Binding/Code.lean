import ForeignCall.Binding.Names
import ForeignCall.Plan

/-!
# Typed bindings

The code generated for an interface, as data: a type with an entry point for each method, constants,
a function that binds the type, a typed stub for each method, and the dispatch by name and by
number. The same data is printed as source code and run.

* `TypedBinding.ofPlan` makes the code of a plan.
-/

namespace ForeignCall

/-! ## 1. Stubs -/

inductive DownStep where
  /-- Numbers go as they are. -/
  | keep
  | string
  | handle
deriving DecidableEq, Repr

inductive UpStep where
  /-- Numbers and nothing come as they are. -/
  | keep
  | string
  | handle
deriving DecidableEq, Repr

def DownStep.ofType : SemanticType → DownStep
  | .string => .string
  | .handle => .handle
  | _ => .keep

def UpStep.ofType : SemanticType → UpStep
  | .string => .string
  | .handle => .handle
  | _ => .keep

inductive Statement where
  /-- Starts the arena. -/
  | openArena
  /-- Takes argument number `index` down. -/
  | down (index : Nat) (step : DownStep)
  /-- Takes the entry point from a field; it has to be callable. -/
  | takeEntry (field : Ident) (symbol : Text)
  /-- Sees the entry point as a function of these types. -/
  | typeEntry (params : List SemanticType) (ret : SemanticType)
  /-- Calls it with the first `count` lowered arguments. -/
  | callEntry (count : Nat)
  /-- Takes the result up. -/
  | up (step : UpStep)
  /-- Drops the arena. -/
  | dropArena
  /-- Returns the value. -/
  | giveValue
deriving DecidableEq, Repr

/-- A typed stub: a function of the managed types of a method. -/
structure Stub where
  ident : Ident
  /-- The method's signature, for the reader. -/
  signature : Text
  params : List SemanticType
  ret : SemanticType
  body : List Statement
deriving DecidableEq, Repr

/-- The statements that take arguments down, the first being number `index`. -/
def downStatements (index : Nat) : List SemanticType → List Statement
  | [] => []
  | type :: rest => .down index (.ofType type) :: downStatements (index + 1) rest

def Stub.ofMethod (m : MethodPlan) (names : MethodNames) : Stub where
  ident := names.ident
  signature := m.signature.text
  params := m.params
  ret := m.ret
  body :=
    .openArena :: (downStatements 0 m.params ++ [
      .takeEntry names.ident m.symbol,
      .typeEntry m.params m.ret,
      .callEntry m.arity,
      .up (.ofType m.ret),
      .dropArena,
      .giveValue])

/-! ## 2. Dispatch -/

/-- The check by which a dispatch takes an argument. -/
inductive Extractor where
  | int32
  | int64
  | string
  | handle
deriving DecidableEq, Repr

/-- The check for a type; a parameter is never void. -/
def Extractor.ofType : SemanticType → Extractor
  | .int32 => .int32
  | .int64 => .int64
  | .string => .string
  | _ => .handle

/-- A constant with the number of a method. -/
structure IdConst where
  name : Text
  symbol : Text
  index : Nat
deriving DecidableEq, Repr

/-- One name in the dispatch by name, and the constant it leads to. -/
structure NameArm where
  symbol : Text
  const : Text
deriving DecidableEq, Repr

/-- One number in the dispatch by number: what is checked, and the stub it leads to. -/
structure CallArm where
  index : Nat
  symbol : Text
  arity : Nat
  extractors : List Extractor
  target : Ident
deriving DecidableEq, Repr

/-! ## 3. The whole -/

structure TypedBinding where
  interface : Text
  type : Ident
  fields : List Ident
  consts : List IdConst
  symbols : List Text
  shapes : List CallShape
  /-- Each field and the symbol it is resolved from, in order. -/
  resolutions : List (Ident × Text)
  stubs : List Stub
  nameArms : List NameArm
  callArms : List CallArm
deriving DecidableEq, Repr

/-- The code of a plan, given its type's name and the names of its methods. -/
def TypedBinding.ofPlan (p : Plan) (type : Ident) (names : List MethodNames) : TypedBinding :=
  let methods := p.methods.zip names
  { interface := p.interface
    type
    fields := names.map MethodNames.ident
    consts := methods.map fun (m, n) => ⟨n.const, m.symbol, m.id.index⟩
    symbols := p.methods.map MethodPlan.symbol
    shapes := p.callShapes
    resolutions := methods.map fun (m, n) => (n.ident, m.symbol)
    stubs := methods.map fun (m, n) => Stub.ofMethod m n
    nameArms := methods.map fun (m, n) => ⟨m.symbol, n.const⟩
    callArms := methods.map fun (m, n) =>
      ⟨m.id.index, m.symbol, m.arity, m.params.map Extractor.ofType, n.ident⟩ }

end ForeignCall
