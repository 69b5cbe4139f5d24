import ForeignCall.Plan
import ForeignCall.Text.Json

/-!
# Shape lists

The distinct call shapes of an interface in order, and for each method which of them it has.
-/

namespace ForeignCall

structure MethodShape where
  name : Text
  id : Nat
  shape : Nat
deriving DecidableEq, Repr

structure ShapeList where
  interface : Text
  shapes : List CallShape
  methods : List MethodShape
deriving DecidableEq, Repr

namespace ShapeList

/-- The shape list of a plan. Every shape is found in the list. -/
def ofPlan (p : Plan) : ShapeList :=
  let shapes := p.callShapes
  { interface := p.interface
    shapes
    methods := p.methods.map fun m =>
      ⟨m.symbol, m.id.index,
        (Plan.search CallShape.le shapes m.shape 0 shapes.length).getD 0⟩ }

def doc (l : ShapeList) : JsonDoc :=
  .object [
    ("interface", .text l.interface),
    ("shapes", .array (l.shapes.map fun s => .object [
      ("ret", .text s.ret.name),
      ("params", .array (s.params.map fun p => .text p.name))])),
    ("methods", .array (l.methods.map fun m => .object [
      ("name", .text m.name),
      ("id", .number m.id),
      ("shape", .number m.shape)]))]

end ShapeList

/-- The shape list of an interface as text. -/
def shapesText (d : Description) : Except BindError Text :=
  (Plan.analyze d).map fun p => (ShapeList.ofPlan p).doc.render 0

end ForeignCall
