import ForeignCall.Proofs.Binding.BindingReader

/-!
# Reading entry-point modules

The code of an entry-point module tells the module, given the expression that stands for the
library: the static, the statements of the function that fills it, what is matched on what it keeps,
and the free functions. So all uses of a generated module are those of the module that was read.

* `EntryModule.ofTokens?` reads a module; `EntryModule.ofTokens?_item`: its code is read as itself.
* `generateEntry_settles`: the first use of a generated module decides, and comes out as the dynamic
  interface that is bound to the same libraries.
-/

namespace ForeignCall
namespace CodeReader

/-! ## 1. Functions -/

/-- A free function: it asks for the binding and passes its arguments on. -/
def entryFunction : CodeReader EntryFunction := do
  let signature ← doc " " []
  fixed (code "pub fn")
  let name ← ident
  let params ← listed .round [] param
  fixed (code "->")
  let ret ← result (oneOf returnTypes)
  within .curly do
    let access ← word
    fixed (code "( ) ? .")
    let target ← ident
    let passed ← localCount 'a'
    return ⟨name, signature, params, ret, access, target, passed⟩

theorem Gives.entryFunction {f : EntryFunction} (h : f.ident.Writable)
    (htarget : f.target.Writable) : Gives entryFunction (EntryModule.functionItem f) f := by
  have hdoc := doc " " f.signature []
  have hparams : Gives (CodeReader.listed .round [] param)
      (bracketed .round (commaSeparated (paramTokens 0 f.params))) f.params :=
    listed (givesEach_params 0 f.params) (diverge_paramTokens _ 0 f.params)
  rw [List.append_nil] at hdoc
  simp only [EntryModule.functionItem, List.append_assoc]
  refine hdoc.bind ((fixed _).bind ((ident h.symbol).bind (hparams.bind ((fixed _).bind ?_))))
  refine (result (returnType f.ret)).bind (.within .curly ((word f.access).cons ?_))
  exact (fixed _).bind ((ident htarget.symbol).bind (localCount 'a' f.passed).map)

/-! ## 2. The binding -/

def sharedLookup : List Token :=
  code ":: std :: sync :: Arc < dyn :: natbind_runtime :: SymbolLookup >"

def sibling (type : Ident) : List Token := code "super ::" ++ [type.token]

/-- What is kept, and the name of the type that is bound. -/
def loadedItem : CodeReader Ident := do
  fixed (code "struct __Loaded")
  within .curly do
    fixed (code "_library :")
    fixed sharedLookup
    fixed (code ", binding :")
    fixed (code "super ::")
    let type ← ident
    fixed (code ",")
    return type

def cellItem : CodeReader Text := do
  fixed (code "static")
  let name ← word
  fixed (code ":")
  fixed (supportPath "__private :: OnceCell")
  fixed (code "<")
  fixed (resultType (code "__Loaded"))
  fixed (code ", > =")
  fixed (supportPath "__private :: OnceCell")
  fixed (code ":: new ( ) ;")
  return name

/-- What the statements of the function that makes the binding begin with, and how they go on. -/
def initStatements (type : Ident) (resolver : List Token) :
    List (List Token × CodeReader InitStatement) := [
  (code "let library :", do
    fixed sharedLookup
    fixed (code "=")
    fixed (bracketed .round resolver)
    fixed (code "? ;")
    return .resolve),
  (code "let binding =", do
    fixed (sibling type)
    fixed (code ":: bind ( & * library ) ? ;")
    return .bind),
  (code "Ok", do
    fixed (bracketed .round
      (code "__Loaded" ++ bracketed .curly (code "_library : library , binding ,")))
    return .giveLoaded)]

def initItem (type : Ident) (resolver : List Token) : CodeReader InitFunction := do
  fixed (code "fn")
  let name ← word
  fixed (code "( ) ->")
  fixed (resultType (code "__Loaded"))
  let body ← block .curly (choose (initStatements type resolver))
  return ⟨name, body⟩

def outcomeArms : List (List Token × OutcomeArm) := [
  (code "Ok ( loaded ) => Ok ( & loaded . binding ) ,", .loaded),
  (code "Err ( e ) => Err ( e . clone ( ) ) ,", .failed)]

def accessItem (type : Ident) : CodeReader AccessFunction := do
  fixed (fixedDoc " The bound interface. A failed bind is returned to every caller.")
  fixed (code "pub fn")
  let name ← word
  fixed (code "( ) ->")
  fixed (resultType (code "& 'static" ++ sibling type))
  within .curly do
    fixed (code "match")
    let cell ← word
    fixed (code ". get_or_init")
    let init ← within .round word
    let arms ← block .curly (oneOf outcomeArms)
    return ⟨name, cell, init, arms⟩

/-- A module whose resolver is printed as these tokens. -/
def entryModule (resolver : List Token) : CodeReader EntryModule := do
  let interface ← doc " Process-wide " " binding, resolved on first use."
  fixed lintTokens
  fixed (code "pub mod")
  let module ← ident
  fixed [.opening .curly]
  let type ← loadedItem
  let cell ← cellItem
  let init ← initItem type resolver
  let access ← accessItem type
  let functions ← many [.closing .curly] fun _ => entryFunction
  return ⟨interface, module, type, resolver, ⟨cell, init, access⟩, functions⟩

theorem sharedLookup_eq : sharedLookup = EntryModule.sharedLookup := by
  decide_cbv

/-- Nor does any of them begin like the end of the body. -/
theorem diverge_initStatements (type : Ident) (resolver : List Token) :
    ([.closing .curly] :: (initStatements type resolver).map Prod.fst).Pairwise Token.Diverge := by
  simp only [initStatements, List.map_cons, List.map_nil]
  decide_cbv

theorem diverge_outcomeArms :
    ([.closing .curly] :: outcomeArms.map Prod.fst).Pairwise Token.Diverge := by
  decide_cbv

namespace Gives

variable {m : EntryModule}

theorem loadedItem (h : m.type.Writable) : Gives loadedItem m.loadedItem m.type := by
  simp only [EntryModule.loadedItem, EntryModule.siblingType, ← sharedLookup_eq, List.append_assoc]
  refine (fixed _).bind (.within .curly ((fixed _).bind ((fixed _).bind ((fixed _).bind ?_))))
  exact (fixed _).bind ((ident h.symbol).bind (fixed _).map)

theorem cellItem (m : EntryModule) : Gives cellItem m.cellItem m.once.cell := by
  simp only [EntryModule.cellItem, List.append_assoc]
  refine (fixed _).bind ((word _).bind ((fixed _).bind ((fixed _).bind ((fixed _).bind ?_))))
  exact (fixed _).bind ((fixed _).bind ((fixed _).bind (fixed _).map))

theorem initTokens (m : EntryModule) (s : InitStatement) :
    Gives (CodeReader.choose (initStatements m.type m.resolver)) (m.initTokens s) s := by
  have hfronts := (List.pairwise_cons.1 (diverge_initStatements m.type m.resolver)).2
  cases s with
  | resolve =>
    simp only [EntryModule.initTokens, ← sharedLookup_eq, List.append_assoc]
    refine .choose hfronts (.head _) ?_
    exact (fixed _).bind ((fixed _).bind ((fixed _).bind (fixed _).map))
  | bind =>
    simp only [EntryModule.initTokens, List.append_assoc]
    exact .choose hfronts (.tail _ (.head _)) ((fixed (sibling m.type)).bind (fixed _).map)
  | giveLoaded => exact .choose hfronts (.tail _ (.tail _ (.head _))) (fixed _).map

/-- No statement begins with the bracket that closes the body. -/
theorem diverge_initTokens (m : EntryModule) (s : InitStatement) :
    Token.Diverge [.closing .curly] (m.initTokens s) := by
  have hall {front : List Token} (h : front ∈ (initStatements m.type m.resolver).map Prod.fst) :=
    (List.pairwise_cons.1 (diverge_initStatements m.type m.resolver)).1 front h
  cases s <;> simp only [EntryModule.initTokens, List.append_assoc]
  case resolve => exact (hall (.head _)).append_right _
  case bind => exact (hall (.tail _ (.head _))).append_right _
  case giveLoaded => exact (hall (.tail _ (.tail _ (.head _)))).append_right _

theorem initItem (m : EntryModule) :
    Gives (initItem m.type m.resolver) m.initItem m.once.init := by
  have hbody : Gives
      (CodeReader.block .curly (CodeReader.choose (initStatements m.type m.resolver)))
      (bracketed .curly (m.once.init.body.flatMap m.initTokens)) m.once.init.body :=
    block (fun s _ => initTokens m s) fun s _ => diverge_initTokens m s
  simp only [EntryModule.initItem, List.append_assoc]
  exact (fixed _).bind ((word _).bind ((fixed _).bind ((fixed _).bind hbody.map)))

theorem accessItem (m : EntryModule) : Gives (accessItem m.type) m.accessItem m.once.access := by
  have hmem (arm : OutcomeArm) : (EntryModule.armTokens arm, arm) ∈ outcomeArms := by
    cases arm with
    | loaded => exact .head _
    | failed => exact .tail _ (.head _)
  obtain ⟨hclosing, hfronts⟩ := List.pairwise_cons.1 diverge_outcomeArms
  have harms : Gives (CodeReader.block .curly (CodeReader.oneOf outcomeArms))
      (bracketed .curly (m.once.access.arms.flatMap EntryModule.armTokens)) m.once.access.arms :=
    block (fun arm _ => oneOf hfronts (hmem arm))
      fun arm _ => hclosing _ (List.mem_map_of_mem (hmem arm))
  simp only [EntryModule.accessItem, List.append_assoc]
  refine (fixed _).bind ((fixed _).bind ((word _).bind ((fixed _).bind ((fixed _).bind ?_))))
  refine .within .curly ((fixed _).bind ((word _).bind ((fixed _).bind ?_)))
  exact ((word _).within .round).bind harms.map

/-- A module is read back. -/
theorem entryModule (h : m.Named) : Gives (entryModule m.resolver) m.item m := by
  have hfunctions : Gives (CodeReader.many [.closing .curly] fun _ => CodeReader.entryFunction)
      (m.functions.flatMap EntryModule.functionItem ++ [.closing .curly]) m.functions := by
    rw [List.flatMap_def]
    refine many (.of_forall fun f hf => ?_) (List.forall_mem_map.2 fun f _ => .inl nofun)
    exact entryFunction (h.functions f hf).1 (h.functions f hf).2.2
  rw [EntryModule.item, bracketed_eq .curly]
  simp only [List.append_assoc]
  refine (doc _ m.interface _).bind ((fixed _).bind ((fixed _).bind ((ident h.symbol).bind ?_)))
  refine (fixed _).bind ((loadedItem h.type).bind ((cellItem m).bind ((initItem m).bind ?_)))
  exact (accessItem m).bind hfunctions.map

end Gives

end CodeReader

/-- The module that is all of the tokens, its resolver being printed as `resolver`. -/
def EntryModule.ofTokens? (resolver ts : List Token) : Option EntryModule := do
  match ← CodeReader.entryModule resolver ts with
  | (m, []) => return m
  | _ => none

theorem EntryModule.ofTokens?_item {m : EntryModule} (h : m.Named) :
    ofTokens? m.resolver m.item = some m := by
  have hread := CodeReader.Gives.entryModule h []
  rw [List.append_nil] at hread
  simp [ofTokens?, hread]

/-! ## 3. Generated modules -/

/-- What is promised of a module with the code `text` that was generated from a description with a
resolver, beside the type with the code `b`. -/
structure EntryModule.Settles (d : Description) (resolver text : Text) (m : EntryModule)
    (b : TypedBinding) : Prop where
  /-- The resolver is printed as the tokens that the module evaluates, and the code of the module
  tells the module. -/
  code : resolverTokens resolver = .ok m.resolver ∧ ofTokens? m.resolver m.item = some m
  /-- So does the text, if the resolver is legible, as that of a manifest is. -/
  text : (Piece m.resolver → (Token.lex text).bind (ofTokens? m.resolver) = some m) ∧
    ∀ man : Manifest, man.resolver = resolver → Piece m.resolver
  /-- The type beside the module is the one that is generated from the description. -/
  sibling : m.type = b.type ∧
    ∃ file, generate d = .ok file ∧ TypedBinding.ofSource? file = some b
  /-- The module has a function for each stub, of the same name and types. -/
  functions : m.functions.map (fun f => (f.ident, f.params, f.ret)) =
    b.stubs.map fun s => (s.ident, s.params, s.ret)
  /-- The first use evaluates the resolver once and binds the type to what it gives; no later use
  evaluates it, whatever state it is in by then, and all uses are decided by that one outcome. -/
  once : ∀ {ρ σ : Type} (resolve : ρ → Except BindError SymbolLookup × ρ) (code : NativeCode σ)
    (r : ρ) (u : EntryUse) (rest : List (ρ × EntryUse)) (w : World σ),
    (∀ v ∈ u :: rest.map Prod.snd, m.Admits v) →
    ∃ events w', m.run b resolve code ((r, u) :: rest) none w =
        some (events, some (firstOutcome b (resolve r).1), w') ∧
      events.map EntryEvent.use =
        ⟨1, firstAsked b (resolve r).1⟩ :: rest.map (fun _ => .none) ∧
      events.map EntryEvent.resolver = (resolve r).2 :: rest.map Prod.fst ∧
      Settled b ((firstOutcome b (resolve r).1).map Loaded.binding) code
        (u :: rest.map Prod.snd) w (events.map EntryEvent.reply) w'
  /-- If the first use fails, no native code is ever called. -/
  quiet : ∀ {ρ σ : Type} (resolve : ρ → Except BindError SymbolLookup × ρ) (code : NativeCode σ)
    (r : ρ) (u : EntryUse) (rest : List (ρ × EntryUse)) (w : World σ) (e : BindError),
    (∀ v ∈ u :: rest.map Prod.snd, m.Admits v) → firstOutcome b (resolve r).1 = .error e →
    ∃ events, m.run b resolve code.recorded ((r, u) :: rest) none w.recording =
      some (events, some (.error e), w.recording)
  /-- With the resolver of a manifest the first use gives the error or the entry points that the
  dynamic interface gives which is bound to the libraries of the manifest at once, asks for the same
  symbols and leaves the same registry. -/
  dynamic : ∀ man : Manifest, man.resolver = resolver → ∀ loader, ∃ resolve,
    m.resolve? loader = some resolve ∧ ∀ r,
      (∃ kept, m.binding b resolve none r =
        some ((bindNow d man.library loader r).1.map BindingTable.toBound, some kept,
          (bindNow d man.library loader r).2.2, ⟨1, (bindNow d man.library loader r).2.1⟩)) ∧
      ∀ e, (bindNow d man.library loader r).1 = .error e → e.IsUnbound

theorem generateEntry_settles {d : Description} {resolver text : Text}
    (h : generateEntry d resolver = .ok text) :
    ∃ p m b, Plan.analyze d = .ok p ∧ entryModule p resolver = .ok m ∧ typedBinding p = .ok b ∧
      text = renderFile p.interface [m.item] ∧ m.Settles d resolver text b := by
  obtain ⟨p, m, hp, hm, htext, hlex⟩ := lex_generateEntry h
  have hwell := Plan.analyze_wellFormed hp
  obtain ⟨b, hb, hbeside⟩ := exists_beside_of_entryModule hwell hm
  have htokens := resolver_of_entryModule hm
  have hread := EntryModule.ofTokens?_item (named_of_entryModule hwell hm)
  refine ⟨p, m, b, hp, hm, hb, htext, ⟨htokens, hread⟩, ?text, ?sibling, ?functions,
    ?once, ?quiet, ?dynamic⟩
  case text =>
    refine ⟨fun hpiece => by rw [hlex hpiece, Option.bind_some, hread], ?_⟩
    rintro man rfl
    exact EntryModule.piece_resolver hm man.resolverTokens_resolver
  case sibling =>
    have hgenerate := generate_eq_ok_iff.2 ⟨p, b, hp, hb, rfl⟩
    exact ⟨hbeside.type, _, hgenerate, TypedBinding.ofSource?_typedBinding hwell hb⟩
  case functions =>
    rw [hbeside.functions, hbeside.generated.stubs, List.map_map, List.map_map]
    rfl
  case once =>
    intro ρ σ resolve code r u rest w huses
    exact hbeside.run_first resolve code r huses w
  case quiet =>
    intro ρ σ resolve code r u rest w e huses he
    obtain ⟨events, w', hrun, _, _, hsettled⟩ :=
      hbeside.run_first resolve code.recorded r huses w.recording
    obtain ⟨_, rfl⟩ := hsettled.failed e (by rw [he]; rfl)
    exact ⟨events, he ▸ hrun⟩
  case dynamic =>
    rintro man rfl loader
    obtain ⟨tokens', htokens', hspec⟩ := man.ofResolver?_tokens
    rw [EntryModule.resolve?, Except.ok.inj (htokens.symm.trans htokens'), hspec]
    refine ⟨_, rfl, fun r => ⟨?_, fun e => ?_⟩⟩
    · exact hbeside.binding_bindNow hp man.library loader r
    · exact isUnbound_of_bindNow hp

/-- A manifest whose candidates are no plain names. -/
def oddManifest : Manifest where
  name := "Upper"
  signatures := "upper.ffi"
  library := .candidates ["lib\"upper\".so", "a, b\n", ""]

theorem generateEntry_settles_odd :
    ∃ text, generateEntry Sample.upper oddManifest.resolver = .ok text ∧
    ∃ p m b, Plan.analyze Sample.upper = .ok p ∧ entryModule p oddManifest.resolver = .ok m ∧
      typedBinding p = .ok b ∧ text = renderFile p.interface [m.item] ∧
      m.Settles Sample.upper oddManifest.resolver text b := by
  obtain ⟨names, hnames⟩ := exists_methodNames_upper
  have hmodule : moduleIdent upperPlan.interface = .ok ⟨"upper", false⟩ := by
    unfold moduleIdent identOf keywords upperPlan
    repeat rw [String.toList_ofList]
    decide +kernel
  have hm := entryModule_eq_ok_iff.2 ⟨_, _, names, _, typeIdent_upper, hmodule, hnames,
    oddManifest.resolverTokens_resolver, by decide +kernel, by decide +kernel, rfl⟩
  have h := generateEntry_eq_ok_iff.2 ⟨upperPlan, _, analyze_upper, hm, rfl⟩
  exact ⟨_, h, generateEntry_settles h⟩

end ForeignCall
