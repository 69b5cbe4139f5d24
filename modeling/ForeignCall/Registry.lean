import ForeignCall.Lookup

/-!
# The library registry

A registry opens each library once. It remembers what was opened and forgets what failed, so that a
failed library is asked for again. What a loader answers may depend on all that it was asked before.

* `Registry.openOnce` is one library, `Registry.resolve` a specification: the first candidate that
  is open or opens wins, and if there is none the error is that of the first candidate.
* `Registry.opened` lists what is open, in order.
-/

namespace ForeignCall

/-- What a loader is asked for. -/
inductive Request where
  | process
  | library (name : Text)
deriving DecidableEq, Repr

/-- Opens libraries: given the requests made before, answers the next one with a library or with the
reason why there is none. -/
abbrev Loader (L : Type) := List Request → Request → Except Text L

/-- The slots of the libraries in use, and every request made, oldest first. A slot is empty while
its library is being opened. -/
structure Registry (L : Type) where
  slots : List (Text × Option L)
  requests : List Request

namespace Registry

variable {L : Type}

def empty : Registry L := ⟨[], []⟩

/-! ## 1. Slots -/

def slot? (slots : List (Text × Option L)) (key : Text) : Option (Option L) :=
  (slots.find? (·.1 = key)).map (·.2)

def ensureSlot (slots : List (Text × Option L)) (key : Text) : List (Text × Option L) :=
  if (slot? slots key).isSome then slots else slots ++ [(key, none)]

/-- The slots with the library in the slot of the key. -/
def fillSlot (slots : List (Text × Option L)) (key : Text) (library : L) :
    List (Text × Option L) :=
  slots.map fun s => if s.1 = key then (key, some library) else s

/-- The slots without the slot of the key, if it is empty. -/
def dropEmpty (slots : List (Text × Option L)) (key : Text) : List (Text × Option L) :=
  slots.filter fun s => !(s.1 = key && s.2.isNone)

/-! ## 2. Opening -/

/-- The library of the key, opened now unless it is open already. -/
def openOnce (r : Registry L) (loader : Loader L) (key : Text) (request : Request) :
    Except Text L × Registry L :=
  let slots := ensureSlot r.slots key
  match slot? slots key with
  | some (some library) => (.ok library, { r with slots })
  | _ =>
    let requests := r.requests ++ [request]
    match loader r.requests request with
    | .ok library => (.ok library, { slots := fillSlot slots key library, requests })
    | .error reason => (.error reason, { slots := dropEmpty slots key, requests })

/-- Tries candidates in order; `failure` is the first that failed before these, with its reason. -/
def openFirst (loader : Loader L) (failure : Option (Text × Text)) :
    List Text → Registry L → Except (Option (Text × Text)) L × Registry L
  | [], r => (.error failure, r)
  | name :: rest, r =>
    match r.openOnce loader name (.library name) with
    | (.ok library, r) => (.ok library, r)
    | (.error reason, r) => openFirst loader (failure.or (some (name, reason))) rest r

/-- The library a specification stands for. -/
def resolve (r : Registry L) (loader : Loader L) :
    LibrarySpec → Except BindError L × Registry L
  | .currentProcess =>
    match r.openOnce loader processKey .process with
    | (.ok library, r) => (.ok library, r)
    | (.error reason, r) => (.error (.libraryNotFound processKey reason), r)
  | .candidates names =>
    match openFirst loader none names r with
    | (.ok library, r) => (.ok library, r)
    | (.error (some (name, reason)), r) => (.error (.libraryNotFound name reason), r)
    | (.error none, r) =>
      (.error (.libraryNotFound "[]" "no candidate libraries given"), r)

/-- The keys of the open libraries, in order. -/
def opened (r : Registry L) : List Text :=
  ((r.slots.filter (·.2.isSome)).map (·.1)).mergeSort Text.le

end Registry
end ForeignCall
