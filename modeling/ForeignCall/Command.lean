import ForeignCall.Binding.Generate
import ForeignCall.Binding.ShapeList
import ForeignCall.Dynamic
import ForeignCall.Files.Access
import ForeignCall.Manifest

/-!
# The command line

Three commands work on a manifest: `generate` writes the source code of its binding, `shapes` lists
its call shapes, and `check` opens its libraries and binds every method.

* `Command.parse` reads the arguments, `Command.run` does what they say.
* `generated`, `shapesReport` and `checkReport` are the three commands without the reading of files.
-/

namespace ForeignCall

/-- What the program is asked to do. -/
inductive Command where
  | generate (manifest : Text) (out : Option Text)
  | shapes (manifest : Text)
  | check (manifest : Text)
deriving DecidableEq, Repr

/-- What the program did: its exit code, and what it printed and complained of. -/
structure Report where
  code : Nat
  output : Text
  complaint : Text
deriving DecidableEq, Repr

/-- The manifest that is used if none is named. -/
def defaultManifest : Text := "natbind.toml"

/-! ## 1. Arguments -/

structure Arguments where
  manifest : Option Text
  out : Option Text
deriving DecidableEq, Repr

namespace Arguments

def setManifest (a : Arguments) (path : Text) : Option Arguments :=
  if a.manifest.isSome || path == [] then none else some { a with manifest := path }

def setOut (a : Arguments) (path : Text) : Option Arguments :=
  if a.out.isSome || path == [] then none else some { a with out := path }

/-- The argument is an option, not a value; a lone dash is a value. -/
def isOption (arg : Text) : Bool := arg.head? == some '-' && arg != ['-']

/-- The option that names the file to write: `none` for another argument, else the path, if it is
part of the argument. -/
def outOption? (arg : Text) : Option (Option Text) :=
  match Text.stripPrefix? "--out" arg, Text.stripPrefix? "-o" arg with
  | some [], _ => some none
  | some ('=' :: path), _ => some (some path)
  | _, some [] => some none
  | _, some ('=' :: path) => some (some path)
  | _, some path => some (some path)
  | _, none => none

/-- Reads arguments. `writes` says that the command may write a file, `waiting` that the next
argument has to be the path of that file. -/
def read (writes : Bool) : Bool → Arguments → List Text → Option Arguments
  | waiting, a, [] => if waiting then none else some a
  | true, a, path :: rest =>
    if isOption path then none else (a.setOut path).bind (read writes false · rest)
  | false, a, arg :: rest =>
    if arg = "--".toList then rest.foldlM setManifest a
    else if !isOption arg then (a.setManifest arg).bind (read writes false · rest)
    else
      match (if writes then outOption? arg else none) with
      | none => none
      | some none => read writes true a rest
      | some (some path) => (a.setOut path).bind (read writes false · rest)

end Arguments

/-- The command that arguments ask for, if they can be understood. -/
def Command.parse (args : List Text) : Option Command := do
  let name ← args.head?
  let arguments (writes : Bool) : Option Arguments :=
    Arguments.read writes false ⟨none, none⟩ args.tail
  if name = "generate".toList then
    let a ← arguments true
    return .generate (a.manifest.getD defaultManifest) a.out
  else if name = "shapes".toList then
    return .shapes ((← arguments false).manifest.getD defaultManifest)
  else if name = "check".toList then
    return .check ((← arguments false).manifest.getD defaultManifest)
  else none

/-! ## 2. Reports -/

namespace Report

def done (output : Text) : Report := ⟨0, output, []⟩

def failed (reason : List Text) : Report :=
  ⟨1, [], "error: ".toList ++ Text.join ": " reason ++ "\n"⟩

/-- The arguments were not understood. -/
def misused : Report := ⟨2, [], []⟩

/-- The program broke off. -/
def aborted : Report := ⟨101, [], []⟩

end Report

/-- The source code of the binding of a manifest and its interface, or the report of the failure. -/
def generated (m : Manifest) (d : Description) : Except Report Text :=
  match generateBoth d m.resolver with
  | .ok source => .ok source
  | .error (.abort _) => .error .aborted
  | .error e => .error (.failed ["generating ".toList ++ backquoted d.name, e.message])

/-- The list of the call shapes of an interface. -/
def shapesReport (d : Description) : Report :=
  match shapesText d with
  | .ok json => .done (json ++ "\n")
  | .error e => .failed [e.message]

def MethodBinding.row (b : MethodBinding) : Text :=
  "  ".toList ++ Text.padLeft 3 (Text.ofNat b.plan.id.index) ++ "  " ++
    Text.padRight 32 b.plan.symbol ++ " " ++ b.plan.shape.text ++ "\n"

/-- The methods of a table that was bound to symbols from `origin`. -/
def BindingTable.rows (t : BindingTable) (origin : Text) : Text :=
  t.interface ++ ": " ++ Text.ofNat t.methods.length ++ " method(s) bound from " ++ origin ++
    "\n" ++ t.methods.flatMap MethodBinding.row

/-- The outcome of opening the libraries of a manifest and binding every method of its interface. -/
def checkReport (m : Manifest) (d : Description) (loader : Loader Library) : Report :=
  match (bindLibrary d m.library .empty loader).1 with
  | .error e => .failed ["resolving ".toList ++ m.library.key, e.message]
  | .ok (i, library) =>
    match (i.ensureBound library.lookup).result with
    | .error e => .failed ["binding ".toList ++ backquoted m.name, e.message]
    | .ok t => .done (t.rows library.lookup.origin)

/-! ## 3. Running -/

def Manifest.load {m : Type → Type} [Monad m] (files : FileAccess m) (path : Text) :
    m (Except ManifestError (Manifest × Description)) := do
  match Manifest.ofFile path (← files.read path) with
  | .error e => return .error e
  | .ok manifest =>
    let interface := manifest.describe (← files.read manifest.signatures)
    return interface.map fun d => (manifest, d)

namespace Command

def manifest : Command → Text
  | generate manifest _ => manifest
  | shapes manifest => manifest
  | check manifest => manifest

/-- Writes the source code of a binding to a file, or prints it. -/
def emit {m : Type → Type} [Monad m] (files : FileAccess m) (name source : Text) :
    Option Text → m Report
  | none => return .done source
  | some out => do
    match ← files.write out source with
    | .ok () => return .done ("Generated ".toList ++ name ++ " -> " ++ out ++ "\n")
    | .error reason => return .failed ["writing ".toList ++ out, reason]

/-- Does what the command says; `loader` opens libraries. -/
def execute {m : Type → Type} [Monad m] (files : FileAccess m) (loader : Loader Library)
    (c : Command) : m Report := do
  match ← Manifest.load files c.manifest with
  | .error e => return .failed [e.message]
  | .ok (manifest, d) =>
    match c with
    | generate _ out =>
      match generated manifest d with
      | .error report => return report
      | .ok source => emit files d.name source out
    | shapes _ => return shapesReport d
    | check _ => return checkReport manifest d loader

def run {m : Type → Type} [Monad m] (files : FileAccess m) (loader : Loader Library)
    (args : List Text) : m Report :=
  match parse args with
  | some c => execute files loader c
  | none => return .misused

end Command
end ForeignCall
