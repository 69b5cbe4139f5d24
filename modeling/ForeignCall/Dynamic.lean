import ForeignCall.Registry
import ForeignCall.Table

/-!
# Dynamic interfaces

A dynamic interface builds its table when it is first needed and keeps the outcome, also a failure.
Every operation is given the lookup as it answers at that moment; only the one that builds the table
asks it, and each operation tells which symbols were asked for.

* `DynamicInterface.ensureBound` is the build, `methodId`, `call` and `callByName` start with it.
-/

namespace ForeignCall

/-- A description, where its symbols come from, and the outcome of the build once there is one. -/
structure DynamicInterface where
  description : Description
  library : Text
  memo : Option (Except BindError BindingTable)

/-- The outcome of an operation: its result, the interface after it and the symbols asked for. -/
structure Answer (α : Type) where
  result : Except BindError α
  interface : DynamicInterface
  asked : List Text

namespace DynamicInterface

def bind (d : Description) (lookup : SymbolLookup) : DynamicInterface := ⟨d, lookup.origin, none⟩

def table? (i : DynamicInterface) : Option BindingTable :=
  match i.memo with
  | some (.ok t) => some t
  | _ => none

/-- The table, built now unless that was done before. -/
def ensureBound (i : DynamicInterface) (lookup : SymbolLookup) : Answer BindingTable :=
  match i.memo with
  | some r => ⟨r, i, []⟩
  | none =>
    let (r, asked) := BindingTable.build i.description lookup
    ⟨r, { i with memo := some r }, asked⟩

def methodId (i : DynamicInterface) (lookup : SymbolLookup) (name : Text) : Answer MethodId :=
  let b := i.ensureBound lookup
  { b with result := b.result.bind fun t => orError (.unknownMethod name) (t.methodId? name) }

def call {σ : Type} (i : DynamicInterface) (lookup : SymbolLookup) (code : NativeCode σ)
    (id : MethodId) (args : List Value) (w : World σ) : Answer Value × World σ :=
  let b := i.ensureBound lookup
  match b.result with
  | .error e => ({ b with result := .error e }, w)
  | .ok t =>
    let (value, w) := t.invoke code id args w
    ({ b with result := value }, w)

def callByName {σ : Type} (i : DynamicInterface) (lookup : SymbolLookup) (code : NativeCode σ)
    (name : Text) (args : List Value) (w : World σ) : Answer Value × World σ :=
  let m := i.methodId lookup name
  match m.result with
  | .error e => ({ m with result := .error e }, w)
  | .ok id =>
    let (a, w) := m.interface.call lookup code id args w
    ({ a with asked := m.asked ++ a.asked }, w)

def state (i : DynamicInterface) : Text :=
  match i.memo with
  | none => "unbound"
  | some (.ok _) => "bound"
  | some (.error _) => "failed"

def logText (i : DynamicInterface) : Text :=
  "DynamicInterface \x7b name: ".toList ++ Quoted.encode i.description.name ++ ", library: " ++
    Quoted.encode i.library ++ ", state: " ++ Quoted.encode i.state ++ " \x7d"

end DynamicInterface

/-- A library that was opened; its serial number tells it from any other. -/
structure Library where
  serial : Nat
  lookup : SymbolLookup

/-- Resolves a library at once and binds an interface to it. -/
def bindLibrary (d : Description) (spec : LibrarySpec) (r : Registry Library)
    (loader : Loader Library) : Except BindError (DynamicInterface × Library) × Registry Library :=
  let (library, r) := r.resolve loader spec
  (library.map fun l => (.bind d l.lookup, l), r)

end ForeignCall
