import ForeignCall.Error

/-!
# Looking symbols up

An entry point is the address of a native function, which may be null for a weak symbol. A lookup
finds entry points by symbol, and a library specification says where a lookup comes from.
-/

namespace ForeignCall

/-! ## 1. Entry points -/

/-- The address of a native function; zero is null. -/
structure EntryPoint where
  address : UInt64
deriving DecidableEq, Repr

namespace EntryPoint

def isNull (e : EntryPoint) : Bool := e.address == 0

def callable (e : EntryPoint) (symbol : Text) : Except BindError UInt64 :=
  if e.isNull then .error (.nativeCallFailed symbol "entry point resolved to a null address")
  else .ok e.address

def logText (e : EntryPoint) : Text :=
  "EntryPoint(0x".toList ++ Text.hex e.address.toNat ++ ")"

end EntryPoint

/-! ## 2. Lookups -/

/-- A library or the like, as it answers at one moment. -/
structure SymbolLookup where
  /-- Where the symbols come from, for messages. -/
  origin : Text
  find : Text → Option EntryPoint

namespace SymbolLookup

/-- The entry point of a symbol, which has to exist. -/
def resolve (l : SymbolLookup) (symbol : Text) : Except BindError EntryPoint :=
  orError (.symbolNotBound symbol l.origin) (l.find symbol)

def logText (l : SymbolLookup) : Text := "SymbolLookup(".toList ++ l.origin ++ ")"

end SymbolLookup

/-- A list of symbols and entry points, each symbol once. -/
structure SymbolTable where
  name : Text
  symbols : List (Text × EntryPoint)
deriving DecidableEq, Repr

namespace SymbolTable

/-- Sets the entry point of a symbol, in place of an earlier one. -/
def insert (t : SymbolTable) (symbol : Text) (e : EntryPoint) : SymbolTable :=
  { t with symbols := (symbol, e) :: t.symbols.filter (·.1 ≠ symbol) }

def find (t : SymbolTable) (symbol : Text) : Option EntryPoint :=
  (t.symbols.find? (·.1 = symbol)).map (·.2)

def lookup (t : SymbolTable) : SymbolLookup := ⟨t.name, t.find⟩

end SymbolTable

/-! ## 3. Library specifications -/

/-- Where the symbols of an interface are to come from. -/
inductive LibrarySpec where
  /-- What is already loaded into the process. -/
  | currentProcess
  /-- The first of these libraries that can be opened. -/
  | candidates (names : List Text)
deriving DecidableEq, Repr

/-- The key of the process among the libraries. -/
def processKey : Text := "<current process>"

namespace LibrarySpec

/-- Its name in messages. -/
def key : LibrarySpec → Text
  | currentProcess => processKey
  | candidates names => '[' :: (Text.join ", " names ++ "]")

def logText : LibrarySpec → Text
  | currentProcess => "CurrentProcess"
  | candidates names =>
    "Candidates([".toList ++ Text.join ", " (names.map Quoted.encode) ++ "])"

end LibrarySpec
end ForeignCall
