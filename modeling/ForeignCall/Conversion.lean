import ForeignCall.Arena

/-!
# Conversions

The way of a value to native code and back. Every way of calling a native function takes its steps
from here: check the number of arguments, check the kind of each, lower each into the call's arena,
raise what comes back.

* `extract` and `lower` together are the way down, `raise` is the way up.
* `upString` reads a native text: up to the first zero byte, with broken UTF-8 replaced.
-/

namespace ForeignCall

/-- An argument whose kind fits its parameter. -/
inductive ManagedArg where
  | int32 (v : Int32)
  | int64 (v : Int64)
  | string (t : Option Text)
  | handle (h : Option Handle)
deriving DecidableEq, Repr

/-- An argument as native code gets it. -/
inductive NativeValue where
  | int32 (v : Int32)
  | int64 (v : Int64)
  | pointer (p : Pointer)
deriving DecidableEq, Repr

/-- A result as native code leaves it, by its layout. -/
inductive RawReturn where
  | void
  | int32 (v : Int32)
  | int64 (v : Int64)
  | pointer (p : Pointer)
deriving DecidableEq, Repr

def RawReturn.layout : RawReturn → Layout
  | void => .void
  | int32 _ => .int32
  | int64 _ => .int64
  | pointer _ => .pointer

/-! ## 1. Checks -/

def checkArity (symbol : Text) (expected : Nat) (args : List Value) : Except BindError Unit :=
  if args.length = expected then .ok ()
  else .error (.arityMismatch symbol expected args.length)

/-- The argument at a position; one that is missing is a matter of the number of arguments. -/
def argAt (symbol : Text) (args : List Value) (position : Nat) : Except BindError Value :=
  orError (.arityMismatch symbol (position + 1) args.length) args[position]?

def mismatch (symbol : Text) (position : Nat) (expected : SemanticType) (found : Value) :
    BindError :=
  .argumentMismatch symbol position expected found.kind

def argInt32 (symbol : Text) (args : List Value) (position : Nat) : Except BindError Int32 := do
  let v ← argAt symbol args position
  orError (mismatch symbol position .int32 v) v.int32?

def argInt64 (symbol : Text) (args : List Value) (position : Nat) : Except BindError Int64 := do
  let v ← argAt symbol args position
  orError (mismatch symbol position .int64 v) v.int64?

/-- The text at a position, or null. -/
def argString (symbol : Text) (args : List Value) (position : Nat) :
    Except BindError (Option Text) := do
  match ← argAt symbol args position with
  | .null => return none
  | .string t => return some t
  | other => throw (mismatch symbol position .string other)

/-- The handle at a position, or null. -/
def argHandle (symbol : Text) (args : List Value) (position : Nat) :
    Except BindError (Option Handle) := do
  match ← argAt symbol args position with
  | .null => return none
  | .handle h => return some h
  | other => throw (mismatch symbol position .handle other)

/-- The argument at a position, checked against a type; no argument is void. -/
def extract (symbol : Text) (args : List Value) (position : Nat) :
    SemanticType → Except BindError ManagedArg
  | .int32 => (argInt32 symbol args position).map .int32
  | .int64 => (argInt64 symbol args position).map .int64
  | .string => (argString symbol args position).map .string
  | .handle => (argHandle symbol args position).map .handle
  | .void => do throw (mismatch symbol position .void (← argAt symbol args position))

/-- The arguments from a position on, checked against types from the left. -/
def extractAll (symbol : Text) (args : List Value) (position : Nat) :
    List SemanticType → Except BindError (List ManagedArg)
  | [] => .ok []
  | type :: rest => do
    let a ← extract symbol args position type
    let more ← extractAll symbol args (position + 1) rest
    return a :: more

/-! ## 2. Down -/

/-- A text becomes a buffer, null stays null. -/
def downString (t : Option Text) (f : Frame) : Except BindError Pointer × Frame :=
  match t with
  | none => (.ok none, f)
  | some t => f.allocate t

/-- A handle becomes its address, null stays null. -/
def downHandle (h : Option Handle) : Pointer := h

def lower (a : ManagedArg) (f : Frame) : Except BindError NativeValue × Frame :=
  match a with
  | .int32 v => (.ok (.int32 v), f)
  | .int64 v => (.ok (.int64 v), f)
  | .string t =>
    let (p, f) := downString t f
    (p.map .pointer, f)
  | .handle h => (.ok (.pointer (downHandle h)), f)

/-- Lowers arguments from the left, up to the first that fails. -/
def lowerAll : List ManagedArg → Frame → Except BindError (List NativeValue) × Frame
  | [], f => (.ok [], f)
  | a :: rest, f =>
    match lower a f with
    | (.error e, f) => (.error e, f)
    | (.ok v, f) =>
      let (vs, f) := lowerAll rest f
      (vs.map (v :: ·), f)

/-! ## 3. Up -/

/-- The text that bytes hold up to the first zero byte. -/
def nativeText (bytes : Bytes) : Text := Utf8.decode (bytes.takeWhile (· != 0))

/-- Reads the text a pointer leads to; `read` gives the bytes at a handle. -/
def upString (read : Handle → Bytes) (p : Pointer) : Option Text :=
  p.map fun h => nativeText (read h)

def upHandle (p : Pointer) : Option Handle := p

/-- The value of a result, which has to have the layout of its type. -/
def raise (symbol : Text) (type : SemanticType) (raw : RawReturn) (read : Handle → Bytes) :
    Except BindError Value :=
  match type, raw with
  | .void, .void => .ok .void
  | .int32, .int32 v => .ok (.int32 v)
  | .int64, .int64 v => .ok (.int64 v)
  | .string, .pointer p => .ok (.ofString? (upString read p))
  | .handle, .pointer p => .ok (.ofHandle? (upHandle p))
  | type, raw =>
    .error (.nativeCallFailed symbol
      ("expected a ".toList ++ type.layout.name ++ " return, got " ++ raw.layout.name))

end ForeignCall
