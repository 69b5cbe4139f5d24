import ForeignCall.Files.Path
import ForeignCall.Lookup
import ForeignCall.Signature.File
import ForeignCall.Text.Identifier
import ForeignCall.Toml.Document

/-!
# Binding manifests

A manifest is a TOML file that names an interface, its signature file and its libraries. It has two
sections and no other keys:

    [interface]
    name = "Zip"
    signatures = "zip.ffi"

    [library]
    candidates = ["libz.so.1", "libz.so"]

or `current_process = true` instead of the candidates.

* `Manifest.parse` reads a manifest, `Manifest.describe` its signature file.
* `Manifest.resolver` is the expression with which generated code opens the libraries.
-/

namespace ForeignCall

structure Manifest where
  /-- The interface's name, without blanks around it. -/
  name : Text
  /-- The path of the signature file. -/
  signatures : Text
  library : LibrarySpec
deriving DecidableEq, Repr

/-- What is wrong with the library section. -/
inductive LibraryFault where
  | both
  | neither
deriving DecidableEq, Repr

def LibraryFault.message : LibraryFault → Text
  | both => "`candidates` and `current_process` are mutually exclusive"
  | neither => "expected non-empty `candidates` or `current_process = true`"

/-- Why a manifest or its signature file cannot be used. -/
inductive ManifestError where
  | unreadable (path reason : Text)
  /-- It is not TOML, or its keys and values are not those of a manifest. -/
  | malformed
  | invalidLibrary (fault : LibraryFault)
  /-- The interface's name cannot name a symbol. -/
  | invalidName (name : Text)
  | signatures (path : Text) (error : ParseError)
deriving DecidableEq, Repr

def ManifestError.message : ManifestError → Text
  | unreadable path reason => "failed to read ".toList ++ path ++ ": " ++ reason
  | malformed => "invalid manifest:"
  | invalidLibrary fault => "invalid [library] section: ".toList ++ fault.message
  | invalidName name => "invalid interface name ".toList ++ backquoted name
  | signatures path error => path ++ ": " ++ error.message

/-! ## 1. Sections -/

/-- The values of a section under its keys. A section is a table without other keys, or a list of
the first values in order. -/
def sectionValues? (keys : List Text) : Toml → Option (List (Option Toml))
  | .table _ fields =>
    if fields.all (·.1 ∈ keys) then some (keys.map (Toml.field? fields)) else none
  | .array items => some (keys.zipIdx.map fun (_, index) => items[index]?)
  | _ => none

def Toml.text? : Toml → Option Text
  | .text t => some t
  | _ => none

def Toml.texts? : Toml → Option (List Text)
  | .array items => items.mapM Toml.text?
  | _ => none

def Toml.boolean? : Toml → Option Bool
  | .boolean b => some b
  | _ => none

/-- The value read by `read`, or `default` if there is none. -/
def orDefault {α : Type} (default : α) (read : Toml → Option α) : Option Toml → Option α
  | none => some default
  | some value => read value

/-- The contents of a manifest's sections. -/
structure Sections where
  name : Text
  signatures : Text
  candidates : List Text
  currentProcess : Bool
deriving DecidableEq, Repr

/-- The sections of a document, which has to have both and nothing else. -/
def Sections.ofFields? (document : Toml.Fields) : Option Sections := do
  match ← sectionValues? ["interface", "library"] (.table .header document) with
  | [some interface, some library] =>
    match ← sectionValues? ["name", "signatures"] interface,
        ← sectionValues? ["candidates", "current_process"] library with
    | [some name, some signatures], [candidates, currentProcess] =>
      return {
        name := ← name.text?
        signatures := ← signatures.text?
        candidates := ← orDefault [] Toml.texts? candidates
        currentProcess := ← orDefault false Toml.boolean? currentProcess }
    | _, _ => none
  | _ => none

/-! ## 2. Reading -/

/-- The libraries of a manifest: the process or some candidates, but not both. -/
def Sections.library (s : Sections) : Except LibraryFault LibrarySpec :=
  match s.currentProcess, s.candidates with
  | true, [] => .ok .currentProcess
  | true, _ :: _ => .error .both
  | false, [] => .error .neither
  | false, _ :: _ => .ok (.candidates s.candidates)

namespace Manifest

/-- Reads the text of a manifest; the path of the signature file is taken from the directory `base`.
-/
def parse (text base : Text) : Except ManifestError Manifest := do
  let s ← orError .malformed ((Toml.parse? text).bind Sections.ofFields?)
  let name := Text.trim s.name
  if isSymbolName name then
    let library ← s.library.mapError .invalidLibrary
    return { name, signatures := Path.join base s.signatures, library }
  else throw (.invalidName s.name)

/-- Reads the manifest at a path, given the text of the file or the reason why there is none. -/
def ofFile (path : Text) (contents : Except Text Text) : Except ManifestError Manifest := do
  parse (← contents.mapError (.unreadable path)) (Path.directory path)

/-- The interface of a manifest, given the text of its signature file or the reason why there is
none. -/
def describe (m : Manifest) (contents : Except Text Text) : Except ManifestError Description :=
  (Description.ofFile m.name m.signatures contents).mapError (.signatures m.signatures)

/-! ## 3. The resolver -/

/-- The expression that resolves the libraries of a specification. -/
def resolver (m : Manifest) : Text :=
  let spec : Text := match m.library with
    | .currentProcess => "CurrentProcess"
    | .candidates names =>
      "candidates([".toList ++ Text.join ", " (names.map Quoted.encode) ++ "])"
  "::natbind_runtime::resolve(&::natbind_runtime::LibrarySpec::".toList ++ spec ++ ")"

end Manifest
end ForeignCall
