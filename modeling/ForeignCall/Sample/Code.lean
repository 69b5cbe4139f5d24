import ForeignCall.Cells
import ForeignCall.Lookup
import ForeignCall.Native

/-!
# A sample native library

A small native library with a state: a counter, a log, pointer slots and texts of its own. Its
functions take their arguments from registers and wrap around in all arithmetic.

* `Sample.code` is the library as native code, `Sample.lookup` gives the entry points of a choice of
  its functions.
-/

namespace ForeignCall.Sample

/-! ## 1. State -/

/-- The state of the library. -/
structure State where
  touches : Int32
  log : Bytes
  cells : Cells
  /-- Texts copied for good, oldest first. -/
  copies : List Bytes

def State.fresh : State := ⟨0, [], Cells.empty, []⟩

def greetings : List Bytes := [
  Utf8.encode "hello",
  [],
  Utf8.encode "grüße ✓",
  [0x6f, 0x6b, 0xff, 0x6f, 0x6b],
  [0x63, 0x75, 0x74, 0x20, 0xe2, 0x9c],
  [0xed, 0xa0, 0x80, 0xf0, 0x9f, 0x98, 0x80, 0xc0, 0x80]]

def greetingAddress : UInt64 := 0x50000000

def logAddress : UInt64 := 0x60000000

def copyAddress : UInt64 := 0x70000000

/-- The bytes at an address of the library; there are none at any other. -/
def bytesAt (s : State) (address : UInt64) : Bytes :=
  if address = logAddress then s.log
  else if copyAddress ≤ address then (s.copies[(address - copyAddress).toNat]?).getD []
  else (greetings[(address - greetingAddress).toNat]?).getD []

/-! ## 2. Arguments -/

/-- A call under way: its registers, its buffers and the state. -/
structure Call where
  args : List Register
  frame : Frame
  state : State

namespace Call

/-- A register; one that was not set holds zero. -/
def arg (c : Call) (n : Nat) : Register := c.args[n]?.getD (.bits 0)

def bytes? (c : Call) (n : Nat) : Option Bytes :=
  (c.arg n).pointer.map fun
    | .buffer serial => ((c.frame.arena.bytes? serial).getD []).takeWhile (· != 0)
    | .address number _ => (bytesAt c.state number).takeWhile (· != 0)

def length (c : Call) (n : Nat) : Int64 :=
  match c.bytes? n with
  | none => -1
  | some bytes => Int64.ofNat bytes.length

/-- The result, with the state as it was. -/
def give (c : Call) (r : Register) : Register × State := (r, c.state)

end Call

/-! ## 3. Functions -/

abbrev Function := Call → Register × State

def functions : List (Text × Function) := [
  ("nb_add", fun c => c.give (.ofInt32 ((c.arg 0).int32 + (c.arg 1).int32))),
  ("nb_widen", fun c => c.give (.ofInt64 ((c.arg 0).int32.toInt64 * (c.arg 1).int64))),
  ("nb_neg", fun c => c.give (.ofInt64 (-(c.arg 0).int64))),
  ("nb_len", fun c => c.give (.ofInt32 (c.length 0).toInt32)),
  ("nb_echo", fun c => c.give (c.arg 0)),
  ("nb_identity", fun c => c.give (c.arg 0)),
  ("nb_touch", fun c => (.bits 0, { c.state with touches := c.state.touches + 1 })),
  ("nb_touches", fun c => c.give (.ofInt32 c.state.touches)),
  ("nb_fill", fun c =>
    if (c.arg 0).word = 0 then c.give (.ofInt32 (-1))
    else (.ofInt32 0,
      { c.state with cells := c.state.cells.store (c.arg 0).word (c.arg 1).word })),
  ("nb_greeting", fun c =>
    let n := (c.arg 0).int32.toInt
    if 0 ≤ n ∧ n < greetings.length then
      c.give (.bits (greetingAddress + UInt64.ofNat n.toNat))
    else c.give (.bits 0)),
  ("nb_pick", fun c =>
    let n := (c.arg 0).int32
    if n = 0 then c.give (c.arg 1) else if n = 1 then c.give (c.arg 2) else c.give (.bits 0)),
  ("nb_mix", fun c =>
    let terms := [(c.arg 0).int32.toInt64, (c.arg 1).int64, c.length 2, (c.arg 3).int64,
      (c.arg 4).int32.toInt64, (c.arg 5).int64, c.length 6, (c.arg 7).int64]
    c.give (.ofInt64 (terms.foldl (fun sum v => sum * 31 + v) 0))),
  ("nb_digits", fun c =>
    c.give (.ofInt32 ((List.range 10).foldl (fun sum n => sum * 10 + (c.arg n).int32) 0))),
  ("nb_log", fun c =>
    let entry := (c.bytes? 0).getD [0x7e]
    (.bits 0, { c.state with log := c.state.log ++ entry ++ [0x3b] })),
  ("nb_logged", fun c => c.give (.bits logAddress)),
  ("ABC", fun c => c.give (.ofInt32 7)),
  ("X", fun c => c.give (.ofInt32 ((c.arg 0).int32 * 2))),
  ("abcDef", fun c => c.give (.ofInt32 9))]

/-! ## 4. Functions of the host -/

/-- The number a text begins with, after blanks and a sign; zero if there is none. -/
def leadingNumber (bytes : Bytes) : Int :=
  let rest := bytes.dropWhile fun b => b == 0x20 || (0x9 ≤ b && b ≤ 0xD)
  let digits (bytes : Bytes) : Nat :=
    (bytes.takeWhile fun b => 0x30 ≤ b && b ≤ 0x39).foldl
      (fun n b => n * 10 + (b.toNat - 0x30)) 0
  match rest with
  | 0x2d :: more => -digits more
  | 0x2b :: more => digits more
  | _ => digits rest

/-- The number nearest to `n` that fits into 64 bits. -/
def saturate (n : Int) : Int64 :=
  if n < Int64.minValue.toInt then Int64.minValue
  else if Int64.maxValue.toInt < n then Int64.maxValue
  else Int64.ofInt n

/-- The functions that are loaded into every process, by symbol. -/
def hostFunctions : List (Text × Function) := [
  ("strlen", fun c => c.give (.ofInt64 (c.length 0))),
  ("atoi", fun c =>
    c.give (.ofInt32 (saturate (leadingNumber ((c.bytes? 0).getD []))).toInt32)),
  ("labs", fun c =>
    let v := (c.arg 0).int64
    c.give (.ofInt64 (if v < 0 then -v else v))),
  ("abs", fun c =>
    let v := (c.arg 0).int32
    c.give (.ofInt32 (if v < 0 then -v else v))),
  ("getenv", fun c => c.give (.bits 0)),
  ("free", fun c => c.give (.bits 0)),
  ("strdup", fun c =>
    (.bits (copyAddress + UInt64.ofNat c.state.copies.length),
      { c.state with copies := c.state.copies ++ [(c.bytes? 0).getD []] })),
  ("posix_memalign", fun c =>
    let alignment := (c.arg 1).word
    if alignment < 8 || alignment &&& (alignment - 1) != 0 then c.give (.ofInt32 22)
    else (.ofInt32 0,
      { c.state with cells := c.state.cells.store (c.arg 0).word copyAddress })),
  ("puts", fun c => c.give (.ofInt32 1)),
  ("getppid", fun c => c.give (.ofInt32 1)),
  ("bind", fun c => c.give (.ofInt32 (-1)))]

/-! ## 5. The library -/

/-- Where the functions lie. -/
def functionAddress : UInt64 := 0x40000000

def allFunctions : List (Text × Function) := functions ++ hostFunctions

/-- The library as native code; there is nothing to run at other addresses. -/
def code : NativeCode State where
  run address values frame state :=
    match allFunctions[(address - functionAddress).toNat]? with
    | some (_, f) => f ⟨values.map Register.ofArg, frame, state⟩
    | none => (.bits 0, state)
  bytesAt := bytesAt

/-- The entry point of a function among some. -/
def pointOf (among : List (Text × Function)) (symbol : Text) : Option EntryPoint :=
  if among.any (·.1 = symbol) then
    (allFunctions.findIdx? (·.1 = symbol)).map fun n => ⟨functionAddress + UInt64.ofNat n⟩
  else none

/-- A table with those of the named functions that exist. -/
def table (name : Text) (symbols : List Text) : SymbolTable :=
  symbols.foldl (fun t symbol => ((pointOf functions symbol).map (t.insert symbol)).getD t)
    ⟨name, []⟩

/-- What is loaded into every process, under a name of its own. -/
def hostLookup (origin : Text) : SymbolLookup := ⟨origin, pointOf hostFunctions⟩

end ForeignCall.Sample
