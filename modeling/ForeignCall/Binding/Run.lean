import ForeignCall.Binding.Code
import ForeignCall.Lookup
import ForeignCall.Native

/-!
# Running typed bindings

What the code of a typed binding does. Code that is not well formed has no meaning: a field,
constant, stub or local that does not exist, or a value of another type than the code expects, gives
`none`.

* `TypedBinding.bind` resolves the fields, `Stub.run` is a typed call, `TypedBinding.methodId` and
  `TypedBinding.call` are the dispatches.
-/

namespace ForeignCall

/-! ## 1. Bound types -/

/-- A value of the generated type: its fields with their entry points. -/
structure Bound where
  fields : List (Ident × EntryPoint)
deriving DecidableEq, Repr

def Bound.entry? (b : Bound) (field : Ident) : Option EntryPoint :=
  (b.fields.find? (·.1 = field)).map (·.2)

/-- Resolves fields in order and tells which symbols were asked for. -/
def resolveFields (lookup : SymbolLookup) :
    List (Ident × Text) → Except BindError (List (Ident × EntryPoint)) × List Text
  | [] => (.ok [], [])
  | (field, symbol) :: rest =>
    match lookup.resolve symbol with
    | .error e => (.error e, [symbol])
    | .ok entry =>
      let (fields, asked) := resolveFields lookup rest
      (fields.map ((field, entry) :: ·), symbol :: asked)

def TypedBinding.bind (b : TypedBinding) (lookup : SymbolLookup) :
    Except BindError Bound × List Text :=
  let (fields, asked) := resolveFields lookup b.resolutions
  (fields.map Bound.mk, asked)

/-! ## 2. Stubs -/

/-- What a stub returns. -/
inductive StubResult where
  | unit
  | int32 (v : Int32)
  | int64 (v : Int64)
  | string (t : Option Text)
  | handle (h : Option Handle)
deriving DecidableEq, Repr

/-- The result of a stub as a value. -/
def StubResult.toValue : StubResult → Value
  | unit => .void
  | int32 v => .int32 v
  | int64 v => .int64 v
  | string t => .ofString? t
  | handle h => .ofHandle? h

structure Locals where
  frame : Option Frame
  lowered : List NativeValue
  address : Option UInt64
  type : Option (List SemanticType × SemanticType)
  raw : Option RawReturn
  value : Option StubResult

def Locals.none : Locals := ⟨.none, [], .none, .none, .none, .none⟩

/-- The pool after an arena that may be open is dropped. -/
def Locals.poolAfter (l : Locals) (pool : Pool) : Pool := (l.frame.map Frame.release).getD pool

def DownStep.run (step : DownStep) (a : ManagedArg) (f : Frame) :
    Option (Except BindError NativeValue × Frame) :=
  match step, a with
  | keep, .int32 v => some (.ok (.int32 v), f)
  | keep, .int64 v => some (.ok (.int64 v), f)
  | string, .string t =>
    let (p, f) := downString t f
    some (p.map .pointer, f)
  | handle, .handle h => some (.ok (.pointer (downHandle h)), f)
  | _, _ => none

def UpStep.run (step : UpStep) (raw : RawReturn) (read : Handle → Bytes) : Option StubResult :=
  match step, raw with
  | keep, .void => some .unit
  | keep, .int32 v => some (.int32 v)
  | keep, .int64 v => some (.int64 v)
  | string, .pointer p => some (.string (upString read p))
  | handle, .pointer p => some (.handle (upHandle p))
  | _, _ => none

abbrev Outcome (σ α : Type) := Except BindError α × World σ

/-- An early return with an error drops the arena. -/
def returnError {σ α : Type} (e : BindError) (l : Locals) (w : World σ) : Option (Outcome σ α) :=
  some (.error e, { w with pool := l.poolAfter w.pool })

def runStatements {σ : Type} (self : Bound) (args : List ManagedArg) (native : NativeCode σ) :
    List Statement → Locals → World σ → Option (Outcome σ StubResult)
  | [], _, _ => none
  | .openArena :: rest, l, w =>
    runStatements self args native rest { l with frame := some (.start w.pool) } w
  | .down index step :: rest, l, w => do
    let a ← args[index]?
    let frame ← l.frame
    let (lowered, frame) ← step.run a frame
    let l := { l with frame := some frame }
    match lowered with
    | .error e => returnError e l w
    | .ok v => runStatements self args native rest { l with lowered := l.lowered ++ [v] } w
  | .takeEntry field symbol :: rest, l, w => do
    let entry ← self.entry? field
    match entry.callable symbol with
    | .error e => returnError e l w
    | .ok address => runStatements self args native rest { l with address := some address } w
  | .typeEntry params ret :: rest, l, w =>
    runStatements self args native rest { l with type := some (params, ret) } w
  | .callEntry count :: rest, l, w => do
    let address ← l.address
    let (params, ret) ← l.type
    let frame ← l.frame
    if params.length = count ∧ l.lowered.length = count then
      let (register, state) := native.run address l.lowered frame w.native
      let raw := RawReturn.ofRegister ret.layout register
      runStatements self args native rest { l with raw := some raw } { w with native := state }
    else none
  | .up step :: rest, l, w => do
    let raw ← l.raw
    let frame ← l.frame
    let value ← step.run raw (native.read frame.arena w.native)
    runStatements self args native rest { l with value := some value } w
  | .dropArena :: rest, l, w =>
    runStatements self args native rest { l with frame := none }
      { w with pool := l.poolAfter w.pool }
  | .giveValue :: _, l, w => do
    let value ← l.value
    return (.ok value, { w with pool := l.poolAfter w.pool })

def Stub.run {σ : Type} (s : Stub) (self : Bound) (native : NativeCode σ) (args : List ManagedArg)
    (w : World σ) : Option (Outcome σ StubResult) :=
  runStatements self args native s.body .none w

/-! ## 3. Dispatch -/

def Extractor.run (e : Extractor) (symbol : Text) (args : List Value) (position : Nat) :
    Except BindError ManagedArg :=
  match e with
  | int32 => (argInt32 symbol args position).map .int32
  | int64 => (argInt64 symbol args position).map .int64
  | string => (argString symbol args position).map .string
  | handle => (argHandle symbol args position).map .handle

/-- Checks the arguments from a position on. -/
def runExtractors (symbol : Text) (args : List Value) (position : Nat) :
    List Extractor → Except BindError (List ManagedArg)
  | [] => .ok []
  | e :: rest => do
    let a ← e.run symbol args position
    let more ← runExtractors symbol args (position + 1) rest
    return a :: more

namespace TypedBinding

def const? (b : TypedBinding) (name : Text) : Option MethodId :=
  (b.consts.find? (·.name = name)).map fun c => ⟨c.index⟩

def stub? (b : TypedBinding) (ident : Ident) : Option Stub := b.stubs.find? (·.ident = ident)

def methodId (b : TypedBinding) (name : Text) : Option (Except BindError MethodId) :=
  match b.nameArms.find? (·.symbol = name) with
  | none => some (.error (.unknownMethod name))
  | some arm => (b.const? arm.const).map .ok

def call {σ : Type} (b : TypedBinding) (self : Bound) (native : NativeCode σ) (id : MethodId)
    (args : List Value) (w : World σ) : Option (Outcome σ Value) :=
  match b.callArms.find? (·.index = id.index) with
  | none => some (.error (.unknownMethod id.text), w)
  | some arm =>
    match checkArity arm.symbol arm.arity args with
    | .error e => some (.error e, w)
    | .ok () =>
      match runExtractors arm.symbol args 0 arm.extractors with
      | .error e => some (.error e, w)
      | .ok managed => do
        let stub ← b.stub? arm.target
        let (result, w) ← stub.run self native managed w
        return (result.map StubResult.toValue, w)

def callByName {σ : Type} (b : TypedBinding) (self : Bound) (native : NativeCode σ) (name : Text)
    (args : List Value) (w : World σ) : Option (Outcome σ Value) := do
  match ← b.methodId name with
  | .error e => return (.error e, w)
  | .ok id => b.call self native id args w

end TypedBinding
end ForeignCall
