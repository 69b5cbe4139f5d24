import ForeignCall.Conversion

/-!
# Native code

Native code is a function from an address, arguments and its own state to a result register and a
new state. It may read the buffers of the call under way and keeps texts of its own at numbered
addresses.

* `RawReturn.ofRegister` reads the register by the layout of the result: of a 32-bit result only the
  low half of the register counts.
-/

namespace ForeignCall

/-- The register in which a result is left: bits, or a pointer to a buffer of the call. -/
inductive Register where
  | bits (word : UInt64)
  | buffer (serial : Nat)
deriving DecidableEq, Repr

namespace Register

def word : Register → UInt64
  | bits word => word
  | buffer serial => (Handle.buffer serial).number

def pointer : Register → Pointer
  | bits word => Handle.ofNumber? word
  | buffer serial => some (.buffer serial)

def ofPointer : Pointer → Register
  | none => bits 0
  | some (.address number _) => bits number
  | some (.buffer serial) => buffer serial

/-- The register that holds a 32-bit number, its upper half filled with the sign. -/
def ofInt32 (v : Int32) : Register := bits v.toInt64.toUInt64

def ofInt64 (v : Int64) : Register := bits v.toUInt64

def ofArg : NativeValue → Register
  | .int32 v => ofInt32 v
  | .int64 v => ofInt64 v
  | .pointer p => ofPointer p

/-- The low half as a 32-bit number. -/
def int32 (r : Register) : Int32 := r.word.toUInt32.toInt32

def int64 (r : Register) : Int64 := r.word.toInt64

end Register

/-- The result in a register, read by its layout. -/
def RawReturn.ofRegister (layout : Layout) (r : Register) : RawReturn :=
  match layout with
  | .void => .void
  | .int32 => .int32 r.int32
  | .int64 => .int64 r.int64
  | .pointer => .pointer r.pointer

/-- Native functions with a state of type `σ`. -/
structure NativeCode (σ : Type) where
  /-- Runs the function at an address. -/
  run : UInt64 → List NativeValue → Frame → σ → Register × σ
  /-- The bytes native code keeps at an address. -/
  bytesAt : σ → UInt64 → Bytes

def NativeCode.read {σ : Type} (code : NativeCode σ) (arena : Arena) (s : σ) : Handle → Bytes
  | .buffer serial => (arena.bytes? serial).getD []
  | .address number _ => code.bytesAt s number

/-- What calls act on: the pool of buffers and the state of native code. -/
structure World (σ : Type) where
  pool : Pool
  native : σ

end ForeignCall
