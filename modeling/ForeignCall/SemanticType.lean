import ForeignCall.Text.Blank

/-!
# Types

The closed set of types that cross the boundary to native code, the layouts they have there, and the
shapes of calls.

* `SemanticType.ofName?` reads a type's name, in any case and with blanks around it.
* `TypeSpec` is a type as a description has it: known, or only named so far.
* `CallShape` is what a call looks like to native code; shapes are ordered by their return layout
  and then by their parameter layouts from the left.
-/

namespace ForeignCall

/-! ## 1. Layouts -/

inductive Layout where
  | void
  | int32
  | int64
  | pointer
deriving DecidableEq, Repr

namespace Layout

def name : Layout → Text
  | void => "void"
  | int32 => "int32"
  | int64 => "int64"
  | pointer => "pointer"

def size : Layout → Nat
  | void => 0
  | int32 => 4
  | int64 => 8
  | pointer => 8

/-- Its place in the order of layouts. -/
def rank : Layout → Nat
  | void => 0
  | int32 => 1
  | int64 => 2
  | pointer => 3

def all : List Layout := [void, int32, int64, pointer]

def ofName? (name : Text) : Option Layout := all.find? (·.name = name)

end Layout

/-! ## 2. Semantic types -/

inductive SemanticType where
  | int32
  | int64
  | string
  | handle
  | void
deriving DecidableEq, Repr

namespace SemanticType

def all : List SemanticType := [int32, int64, string, handle, void]

/-- The name by which signatures write it. -/
def name : SemanticType → Text
  | int32 => "i32"
  | int64 => "i64"
  | string => "string"
  | handle => "handle"
  | void => "void"

/-- The names it may go by, its own first. -/
def names : SemanticType → List Text
  | int32 => ["i32", "int", "int32"]
  | int64 => ["i64", "int64", "long"]
  | string => ["string", "str", "cstr"]
  | handle => ["handle", "ptr", "pointer"]
  | void => ["void"]

/-- The type that goes by this name; blanks around it and the case of its letters do not matter. -/
def ofName? (name : Text) : Option SemanticType :=
  all.find? (·.names.contains (Text.lower (Text.trim name)))

/-- The word under which data files keep it. -/
def tag : SemanticType → Text
  | int32 => "Int32"
  | int64 => "Int64"
  | string => "NativeString"
  | handle => "Handle"
  | void => "Void"

/-- The type that data files keep under this word. -/
def ofTag? (tag : Text) : Option SemanticType := all.find? (·.tag = tag)

/-- Its layout; strings and handles are both pointers. -/
def layout : SemanticType → Layout
  | int32 => .int32
  | int64 => .int64
  | string => .pointer
  | handle => .pointer
  | void => .void

/-- Null is a value of the type. -/
def nullable : SemanticType → Bool
  | string => true
  | handle => true
  | _ => false

/-- The type can be that of a parameter. -/
def isParam : SemanticType → Bool
  | void => false
  | _ => true

/-- Every type goes by its own name. -/
theorem ofName?_name (t : SemanticType) : ofName? t.name = some t := by cases t <;> rfl

end SemanticType

/-! ## 3. Types in descriptions -/

/-- A type as a description has it. -/
inductive TypeSpec where
  /-- A type given as such. -/
  | known (type : SemanticType)
  /-- A type given by a name that may or may not be one. -/
  | named (name : Text)
deriving DecidableEq, Repr

namespace TypeSpec

/-- The type meant, if there is one. -/
def resolve : TypeSpec → Option SemanticType
  | known type => some type
  | named name => SemanticType.ofName? name

def text : TypeSpec → Text
  | known type => type.name
  | named name => name

end TypeSpec

/-! ## 4. Call shapes -/

/-- What a call looks like to native code. -/
structure CallShape where
  ret : Layout
  params : List Layout
deriving DecidableEq, Repr

namespace CallShape

/-- The numbers by which shapes are ordered. -/
def key (s : CallShape) : List Nat := s.ret.rank :: s.params.map Layout.rank

/-- `a` comes before `b` or is equal to it. -/
def le (a b : CallShape) : Bool := lexLe id a.key b.key

/-- `(p, q) -> r`. -/
def text (s : CallShape) : Text :=
  "(".toList ++ Text.join ", " (s.params.map Layout.name) ++ ") -> ".toList ++ s.ret.name

end CallShape
end ForeignCall
