import ForeignCall.Registry
import ForeignCall.Dynamic
import ForeignCall.Sample.Code

/-!
# A host

A host on which the process and one library can be opened.
-/

namespace ForeignCall.Sample

/-- The one library of the host. -/
def hostLibrary : Text := "libc.so.6"

/-- The symbols of a library of the host; the empty name stands for the process. A zero character
may stand at the end of a name only, where it does not count. -/
def hostSymbols (name : Text) : Except Text SymbolLookup :=
  let closed := name.getLast? == some '\x00'
  let file := if closed then name.dropLast else name
  if '\x00' ∈ file then
    .error ("could not create a C string from bytes".toList ++
      if closed then " with trailing null".toList else [])
  else if file = [] ∨ file = hostLibrary then .ok (hostLookup name)
  else .error (file ++ ": cannot open shared object file: No such file or directory")

/-- Opens the process and the library of the host; there is no file for any other name. -/
def hostLoader : Loader Library := fun history request =>
  match request with
  | .process => .ok ⟨history.length, hostLookup processKey⟩
  | .library name => (hostSymbols name).map fun symbols => ⟨history.length, symbols⟩

end ForeignCall.Sample
