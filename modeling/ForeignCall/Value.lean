import ForeignCall.SemanticType
import ForeignCall.Text.Quoted

/-!
# Values

What a caller passes and gets back. A handle stands for a native address that is not null; a
nullable pointer is an optional handle.

* `Value.fits` says which values a parameter of a type accepts.
-/

namespace ForeignCall

/-! ## 1. Handles and pointers -/

/-- A native address that is not null: a number, or the start of a string buffer, which goes by the
serial number of the buffer. -/
inductive Handle where
  | address (number : UInt64) (ne : number ≠ 0)
  | buffer (serial : Nat)
deriving DecidableEq, Repr

/-- A native pointer: null or a handle. -/
abbrev Pointer := Option Handle

namespace Handle

/-- The handle for a number; zero is null. -/
def ofNumber? (number : UInt64) : Option Handle :=
  if h : number = 0 then none else some (address number h)

/-- The address as a number. Buffers lie one after another from a fixed place on, as far as anyone
asks for their numbers. -/
def number : Handle → UInt64
  | address number _ => number
  | buffer serial => 0x100000 + 0x1000 * UInt64.ofNat serial

def logText (h : Handle) : Text :=
  "Handle(0x".toList ++ Text.hex h.number.toNat ++ ")"

theorem ofNumber?_address (number : UInt64) (ne : number ≠ 0) :
    ofNumber? number = some (address number ne) := by
  simp [ofNumber?, ne]

end Handle

/-- The number of a pointer; null is zero. -/
def pointerNumber : Pointer → UInt64
  | none => 0
  | some h => h.number

/-! ## 2. Values -/

inductive Value where
  | null
  | int32 (v : Int32)
  | int64 (v : Int64)
  | string (t : Text)
  | handle (h : Handle)
  | void
deriving DecidableEq, Repr

/-- The kind of a value, for messages. -/
inductive Kind where
  | null
  | int32
  | int64
  | string
  | handle
  | void
deriving DecidableEq, Repr

def Kind.name : Kind → Text
  | null => "null"
  | int32 => "i32"
  | int64 => "i64"
  | string => "string"
  | handle => "handle"
  | void => "void"

namespace Value

def kind : Value → Kind
  | null => .null
  | int32 _ => .int32
  | int64 _ => .int64
  | string _ => .string
  | handle _ => .handle
  | void => .void

/-- A parameter of the type accepts the value. -/
def fits : Value → SemanticType → Bool
  | int32 _, .int32 => true
  | int64 _, .int64 => true
  | string _, .string => true
  | null, .string => true
  | handle _, .handle => true
  | null, .handle => true
  | _, _ => false

def isNull : Value → Bool
  | null => true
  | _ => false

def int32? : Value → Option Int32
  | int32 v => some v
  | _ => none

def int64? : Value → Option Int64
  | int64 v => some v
  | _ => none

def string? : Value → Option Text
  | string t => some t
  | _ => none

def handle? : Value → Option Handle
  | handle h => some h
  | _ => none

def ofString? : Option Text → Value
  | none => null
  | some t => string t

def ofHandle? : Option Handle → Value
  | none => null
  | some h => handle h

def logText : Value → Text
  | null => "Null"
  | int32 v => "Int32(".toList ++ Text.ofInt v.toInt ++ ")"
  | int64 v => "Int64(".toList ++ Text.ofInt v.toInt ++ ")"
  | string t => "Str(".toList ++ Quoted.encode t ++ ")"
  | handle h => "Handle(".toList ++ h.logText ++ ")"
  | void => "Void"

end Value
end ForeignCall
