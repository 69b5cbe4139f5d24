import ForeignCall.Lookup
import ForeignCall.Native
import ForeignCall.Plan

/-!
# Binding tables

A method with its entry point can be called; a table has all methods of an interface in the order of
its plan. A table exists only if every symbol was found.

* `MethodBinding.invoke` makes a call: check, lower, call, raise, release.
* `BindingTable.build` plans and resolves one method after another, `BindingTable.fromPlan` resolves
  what was planned before. Both tell which symbols they asked for, in order.
-/

namespace ForeignCall

/-! ## 1. Methods -/

structure MethodBinding where
  plan : MethodPlan
  entry : EntryPoint
deriving DecidableEq, Repr

namespace MethodBinding

def logText (b : MethodBinding) : Text :=
  "MethodBinding \x7b id: MethodId(".toList ++ Text.ofNat b.plan.id.index ++ "), symbol: " ++
    Quoted.encode b.plan.symbol ++ ", shape: " ++ Quoted.encode b.plan.shape.text ++ ", entry: " ++
    b.entry.logText ++ " \x7d"

/-- The arguments, once their number and their kinds are right. -/
def check (b : MethodBinding) (args : List Value) : Except BindError (List ManagedArg) := do
  checkArity b.plan.symbol b.plan.arity args
  extractAll b.plan.symbol args 0 b.plan.params

/-- Calls the method. Kinds are checked before anything is lowered, and the arena is released
however the call ends, after a text in it has been read. -/
def invoke {σ : Type} (b : MethodBinding) (code : NativeCode σ) (args : List Value) (w : World σ) :
    Except BindError Value × World σ :=
  match b.check args with
  | .error e => (.error e, w)
  | .ok managed =>
    match lowerAll managed (.start w.pool) with
    | (.error e, frame) => (.error e, { w with pool := frame.release })
    | (.ok values, frame) =>
      match b.entry.callable b.plan.symbol with
      | .error e => (.error e, { w with pool := frame.release })
      | .ok address =>
        let (register, native) := code.run address values frame w.native
        let raw := RawReturn.ofRegister b.plan.ret.layout register
        let value := raise b.plan.symbol b.plan.ret raw (code.read frame.arena native)
        (value, { pool := frame.release, native })

end MethodBinding

/-! ## 2. Tables -/

/-- The methods of an interface, bound, in the order of the plan. -/
structure BindingTable where
  interface : Text
  methods : List MethodBinding
deriving DecidableEq, Repr

namespace BindingTable

/-- What a build has done so far: the symbols asked for and the methods bound, oldest first. -/
structure Progress where
  asked : List Text
  bound : List MethodBinding

def bindMethod (lookup : SymbolLookup) : Visitor Progress := fun m progress =>
  let asked := progress.asked ++ [m.symbol]
  match lookup.resolve m.symbol with
  | .error e => (.error e, { progress with asked })
  | .ok entry => (.ok (), { asked, bound := progress.bound ++ [⟨m, entry⟩] })

/-- Plans an interface and resolves each method before the next is looked at. -/
def build (d : Description) (lookup : SymbolLookup) : Except BindError BindingTable × List Text :=
  let (plan, progress) := Plan.analyzeWith d (bindMethod lookup) ⟨[], []⟩
  (plan.map fun p => { interface := p.interface, methods := progress.bound }, progress.asked)

def resolveAll (lookup : SymbolLookup) :
    List MethodPlan → Except BindError (List MethodBinding) × List Text
  | [] => (.ok [], [])
  | m :: rest =>
    match lookup.resolve m.symbol with
    | .error e => (.error e, [m.symbol])
    | .ok entry =>
      let (methods, asked) := resolveAll lookup rest
      (methods.map (⟨m, entry⟩ :: ·), m.symbol :: asked)

def fromPlan (p : Plan) (lookup : SymbolLookup) : Except BindError BindingTable × List Text :=
  let (methods, asked) := resolveAll lookup p.methods
  (methods.map fun methods => { interface := p.interface, methods }, asked)

def methodId? (t : BindingTable) (name : Text) : Option MethodId := do
  let keys := t.methods.map (·.plan.symbol)
  let index ← Plan.search Text.le keys name 0 keys.length
  let b ← t.methods[index]?
  return b.plan.id

def method? (t : BindingTable) (id : MethodId) : Option MethodBinding := t.methods[id.index]?

def invoke {σ : Type} (t : BindingTable) (code : NativeCode σ) (id : MethodId) (args : List Value)
    (w : World σ) : Except BindError Value × World σ :=
  match t.method? id with
  | none => (.error (.unknownMethod id.text), w)
  | some b => b.invoke code args w

/-- The list without elements equal to their predecessors. -/
def dedup : List CallShape → List CallShape
  | [] => []
  | [s] => [s]
  | s :: t :: rest => if s = t then dedup (t :: rest) else s :: dedup (t :: rest)

/-- The distinct shapes of the methods, in order. -/
def callShapes (t : BindingTable) : List CallShape :=
  dedup ((t.methods.map (·.plan.shape)).mergeSort CallShape.le)

end BindingTable
end ForeignCall
