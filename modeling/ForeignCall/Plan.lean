import ForeignCall.Error
import ForeignCall.Signature
import ForeignCall.Text.Identifier

/-!
# Plans

A plan decides everything about an interface that does not depend on a library: the order of its
methods, their numbers, their types and the shapes of their calls. Methods are taken in the order of
their names, whatever the order of the description, and the first one that is wrong gives the error.

* `Plan.analyzeWith` walks over the methods with a visitor that may stop the walk.
* `Plan.methodId?` finds a method by its name, by binary search.
* `Plan.callShapes` lists the distinct shapes in order.
-/

namespace ForeignCall

/-! ## 1. Methods -/

/-- The number of a method in its interface. It stands for a number of 32 bits, for interfaces with
at most `2 ^ 32` methods. -/
structure MethodId where
  index : Nat
deriving DecidableEq, Repr

/-- `#n`. -/
def MethodId.text (id : MethodId) : Text := '#' :: Text.ofNat id.index

/-- One method, with its types settled. -/
structure MethodPlan where
  id : MethodId
  symbol : Text
  params : List SemanticType
  ret : SemanticType
deriving DecidableEq, Repr

namespace MethodPlan

def arity (m : MethodPlan) : Nat := m.params.length

/-- What a call of it looks like. -/
def shape (m : MethodPlan) : CallShape := ⟨m.ret.layout, m.params.map SemanticType.layout⟩

def signature (m : MethodPlan) : Signature :=
  ⟨m.symbol, m.params.map .known, .known m.ret⟩

end MethodPlan

/-- A settled interface. -/
structure Plan where
  interface : Text
  methods : List MethodPlan
deriving DecidableEq, Repr

/-! ## 2. Analysis -/

/-- The types of the parameters of `symbol`, the first being number `position`. -/
def planParams (symbol : Text) (position : Nat) :
    List TypeSpec → Except BindError (List SemanticType)
  | [] => .ok []
  | spec :: rest =>
    match spec.resolve with
    | some type =>
      if type.isParam then (planParams symbol (position + 1) rest).map (type :: ·)
      else .error (.unsupportedType symbol (.param position) spec.text)
    | none => .error (.unsupportedType symbol (.param position) spec.text)

/-- Settles one signature, given its number and the name before it. -/
def planMethod (previous : Option Text) (index : Nat) (s : Signature) :
    Except BindError MethodPlan := do
  if !isSymbolName s.name then throw (.invalidSymbolName s.name)
  if previous = some s.name then throw (.duplicateMethod s.name)
  let params ← planParams s.name 0 s.params
  let ret ← orError (.unsupportedType s.name .ret s.ret.text) s.ret.resolve
  return { id := ⟨index⟩, symbol := s.name, params, ret }

/-- What is told of every method in turn, with a state of its own; an error stops the walk. -/
abbrev Visitor (τ : Type) := MethodPlan → τ → Except BindError Unit × τ

/-- Settles signatures in the given order and shows each method to the visitor. -/
def planWalk {τ : Type} (visit : Visitor τ) (previous : Option Text) (index : Nat) :
    List Signature → τ → Except BindError (List MethodPlan) × τ
  | [], t => (.ok [], t)
  | s :: rest, t =>
    match planMethod previous index s with
    | .error e => (.error e, t)
    | .ok m =>
      match visit m t with
      | (.error e, t) => (.error e, t)
      | (.ok (), t) =>
        let (methods, t) := planWalk visit (some s.name) (index + 1) rest t
        (methods.map (m :: ·), t)

/-- The signatures in the order of their names; equal names stay in the order of the description. -/
def Description.sorted (d : Description) : List Signature :=
  d.signatures.mergeSort fun a b => Text.le a.name b.name

namespace Plan

/-- Settles an interface and shows each method to the visitor. -/
def analyzeWith {τ : Type} (d : Description) (visit : Visitor τ) (t : τ) :
    Except BindError Plan × τ :=
  let (methods, t) := planWalk visit none 0 d.sorted t
  (methods.map fun methods => { interface := d.name, methods }, t)

def analyze (d : Description) : Except BindError Plan :=
  (analyzeWith d (fun _ t => (.ok (), t)) ()).1

/-! ## 3. Finding methods -/

/-- The index of `target` in `keys[low..high)`, if those are in order. -/
def search {κ : Type} [DecidableEq κ] (le : κ → κ → Bool) (keys : List κ) (target : κ)
    (low high : Nat) : Option Nat :=
  if _h : low < high then
    let middle := (low + high) / 2
    match keys[middle]? with
    | none => none
    | some key =>
      if key = target then some middle
      else if le key target then search le keys target (middle + 1) high
      else search le keys target low middle
  else none
  termination_by high - low

def methodId? (p : Plan) (name : Text) : Option MethodId := do
  let keys := p.methods.map MethodPlan.symbol
  let index ← search Text.le keys name 0 keys.length
  let m ← p.methods[index]?
  return m.id

def method? (p : Plan) (id : MethodId) : Option MethodPlan := p.methods[id.index]?

/-! ## 4. Call shapes -/

/-- Puts a shape into a list in order, if it is not there. -/
def insertShape (s : CallShape) : List CallShape → List CallShape
  | [] => [s]
  | t :: rest =>
    if s = t then t :: rest
    else if s.le t then s :: t :: rest
    else t :: insertShape s rest

/-- The distinct shapes of the methods, in order. -/
def callShapes (p : Plan) : List CallShape :=
  p.methods.foldl (fun shapes m => insertShape m.shape shapes) []

end Plan
end ForeignCall
