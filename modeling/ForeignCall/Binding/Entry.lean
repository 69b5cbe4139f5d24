import ForeignCall.Binding.Run
import ForeignCall.Binding.Source

/-!
# Entry-point modules

The code of a module with a free function for each method over one binding for the whole process.
A static keeps the outcome of the first use: a function that evaluates the resolver of the library
and binds the sibling type. The same data is printed as source code and run.

* `EntryModule.item` is the source code, `EntryModule.binding` and `EntryModule.call` what it does.
-/

namespace ForeignCall

/-! ## 1. Code -/

inductive InitStatement where
  /-- Evaluates the resolver, which has to give a library. -/
  | resolve
  /-- Binds the sibling type to the library. -/
  | bind
  /-- Gives the library together with the binding. -/
  | giveLoaded
deriving DecidableEq, Repr

structure InitFunction where
  name : Text
  body : List InitStatement
deriving DecidableEq, Repr

/-- An arm of the match on what the static keeps. -/
inductive OutcomeArm where
  /-- From a library with a binding, the binding. -/
  | loaded
  /-- The same error again. -/
  | failed
deriving DecidableEq, Repr

/-- The function that gives the binding: it asks a static, which is filled by a function if it is
empty, and matches on what is kept there. -/
structure AccessFunction where
  name : Text
  cell : Text
  init : Text
  arms : List OutcomeArm
deriving DecidableEq, Repr

structure OnceCode where
  /-- The static that keeps the outcome. -/
  cell : Text
  init : InitFunction
  access : AccessFunction
deriving DecidableEq, Repr

/-- The access function asks the static for its outcome, and the function that makes the binding to
fill it. -/
abbrev OnceCode.Closed (c : OnceCode) : Prop :=
  c.access.cell = c.cell ∧ c.access.init = c.init.name

/-- As it stands in every module. -/
def OnceCode.standard : OnceCode where
  cell := "__BINDING"
  init := ⟨"__init", [.resolve, .bind, .giveLoaded]⟩
  access := ⟨"binding", "__BINDING", "__init", [.loaded, .failed]⟩

/-- A free function. It asks the function `access` for the binding and passes its first `passed`
arguments to the stub `target`. -/
structure EntryFunction where
  ident : Ident
  /-- The method's signature, for the reader. -/
  signature : Text
  params : List SemanticType
  ret : SemanticType
  access : Text
  target : Ident
  passed : Nat
deriving DecidableEq, Repr

def EntryFunction.ofMethod (m : MethodPlan) (ident : Ident) : EntryFunction where
  ident := ident
  signature := m.signature.text
  params := m.params
  ret := m.ret
  access := OnceCode.standard.access.name
  target := ident
  passed := m.arity

structure EntryModule where
  interface : Text
  module : Ident
  /-- The sibling type. -/
  type : Ident
  /-- The expression that gives the library. -/
  resolver : List Token
  once : OnceCode
  functions : List EntryFunction
deriving DecidableEq, Repr

namespace EntryModule

/-- The code for a plan, given the names in it and the resolver. -/
def ofPlan (p : Plan) (module type : Ident) (names : List MethodNames) (resolver : List Token) :
    EntryModule where
  interface := p.interface
  module := module
  type := type
  resolver := resolver
  once := .standard
  functions := (p.methods.zip names).map fun (m, n) => .ofMethod m n.ident

/-! ## 2. Source code -/

def functionItem (f : EntryFunction) : List Token :=
  docTokens (" ".toList ++ backquoted f.signature) ++ code "pub fn" ++ [f.ident.token] ++
    bracketed .round (commaSeparated (paramTokens 0 f.params)) ++ code "->" ++
    resultType (managedReturn f.ret) ++
    bracketed .curly (.word f.access :: (code "( ) ? ." ++ [f.target.token] ++
      bracketed .round (commaSeparated (locals argToken f.passed))))

def sharedLookup : List Token :=
  code ":: std :: sync :: Arc < dyn" ++ supportPath "SymbolLookup >"

def siblingType (m : EntryModule) : List Token := code "super ::" ++ [m.type.token]

def loadedType : List Token := resultType (code "__Loaded")

def initTokens (m : EntryModule) : InitStatement → List Token
  | .resolve => code "let library :" ++ sharedLookup ++ code "=" ++
    bracketed .round m.resolver ++ code "? ;"
  | .bind => code "let binding =" ++ m.siblingType ++ code ":: bind ( & * library ) ? ;"
  | .giveLoaded => code "Ok" ++ bracketed .round (code "__Loaded" ++
    bracketed .curly (code "_library : library , binding ,"))

def loadedItem (m : EntryModule) : List Token :=
  code "struct __Loaded" ++ bracketed .curly (code "_library :" ++ sharedLookup ++
    code ", binding :" ++ m.siblingType ++ code ",")

def cellItem (m : EntryModule) : List Token :=
  let cell := supportPath "__private :: OnceCell"
  code "static" ++ [.word m.once.cell] ++ code ":" ++ cell ++ code "<" ++ loadedType ++
    code ", > =" ++ cell ++ code ":: new ( ) ;"

def initItem (m : EntryModule) : List Token :=
  code "fn" ++ [.word m.once.init.name] ++ code "( ) ->" ++ loadedType ++
    bracketed .curly (m.once.init.body.flatMap m.initTokens)

def armTokens : OutcomeArm → List Token
  | .loaded => code "Ok ( loaded ) => Ok ( & loaded . binding ) ,"
  | .failed => code "Err ( e ) => Err ( e . clone ( ) ) ,"

def accessItem (m : EntryModule) : List Token :=
  fixedDoc " The bound interface. A failed bind is returned to every caller." ++
    code "pub fn" ++ [.word m.once.access.name] ++ code "( ) ->" ++
    resultType (code "& 'static" ++ m.siblingType) ++
    bracketed .curly (code "match" ++ [.word m.once.access.cell] ++ code ". get_or_init" ++
      bracketed .round [.word m.once.access.init] ++
      bracketed .curly (m.once.access.arms.flatMap armTokens))

def item (m : EntryModule) : List Token :=
  docTokens (" Process-wide ".toList ++ backquoted m.interface ++
      " binding, resolved on first use.") ++
    lintTokens ++ code "pub mod" ++ [m.module.token] ++
    bracketed .curly (m.loadedItem ++ m.cellItem ++ m.initItem ++ m.accessItem ++
      m.functions.flatMap functionItem)

/-! ## 3. Meaning -/

structure Loaded where
  library : SymbolLookup
  binding : Bound

/-- What the static keeps: the outcome of the first use, once there was one. -/
abbrev Memo := Option (Except BindError Loaded)

/-- What a use of the module asked for: how often the resolver was evaluated, and the symbols. -/
structure Use where
  evaluations : Nat
  asked : List Text
deriving DecidableEq, Repr

def Use.none : Use := ⟨0, []⟩

/-- The local variables of the function that makes the binding, and what it asked for so far. The
resolver has a state of its own. -/
structure InitState (ρ : Type) where
  resolver : ρ
  library : Option SymbolLookup
  binding : Option Bound
  use : Use

variable {ρ : Type}

def InitState.start (r : ρ) : InitState ρ := ⟨r, .none, .none, .none⟩

/-- Runs the statements of the function that makes the binding; `b` is the sibling type. -/
def runInit (m : EntryModule) (b : TypedBinding) (resolve : ρ → Except BindError SymbolLookup × ρ) :
    List InitStatement → InitState ρ → Option (Except BindError Loaded × ρ × Use)
  | [], _ => none
  | .resolve :: rest, s =>
    let use := { s.use with evaluations := s.use.evaluations + 1 }
    match resolve s.resolver with
    | (.error e, r) => some (.error e, r, use)
    | (.ok library, r) => runInit m b resolve rest { s with resolver := r, library, use }
  | .bind :: rest, s =>
    if m.type = b.type then do
      let (bound, asked) := b.bind (← s.library)
      let use := { s.use with asked := s.use.asked ++ asked }
      match bound with
      | .error e => return (.error e, s.resolver, use)
      | .ok binding => runInit m b resolve rest { s with binding, use }
    else none
  | .giveLoaded :: _, s => do
    return (.ok ⟨← s.library, ← s.binding⟩, s.resolver, s.use)

end EntryModule

/-- What an arm makes of the outcome, if it matches. -/
def OutcomeArm.take? : OutcomeArm → Except BindError EntryModule.Loaded →
    Option (Except BindError Bound)
  | loaded, .ok kept => some (.ok kept.binding)
  | failed, .error e => some (.error e)
  | _, _ => none

namespace EntryModule

/-- The binding of the module, which its access function gives. An empty static is filled by the
function that makes the binding. -/
def binding {ρ : Type} (m : EntryModule) (b : TypedBinding)
    (resolve : ρ → Except BindError SymbolLookup × ρ) (memo : Memo) (r : ρ) :
    Option (Except BindError Bound × Memo × ρ × Use) :=
  if m.once.Closed then do
    let (outcome, r, use) ← match memo with
      | some outcome => some (outcome, r, Use.none)
      | none => m.runInit b resolve m.once.init.body (.start r)
    let bound ← m.once.access.arms.findSome? (·.take? outcome)
    return (bound, some outcome, r, use)
  else none

/-- Calls a free function of the module on the binding of the module. -/
def call {σ : Type} (m : EntryModule) (b : TypedBinding) (bound : Except BindError Bound)
    (native : NativeCode σ) (function : Ident) (args : List ManagedArg) (w : World σ) :
    Option (Outcome σ StubResult) := do
  let f ← m.functions.find? (·.ident = function)
  if f.access = m.once.access.name then
    match bound with
    | .error e => return (.error e, w)
    | .ok self => (← b.stub? f.target).run self native (args.take f.passed) w
  else none

end EntryModule
end ForeignCall
