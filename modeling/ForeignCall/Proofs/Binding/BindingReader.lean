import ForeignCall.Proofs.Binding.Shapes
import ForeignCall.Proofs.Binding.StubReader

/-!
# Reading typed bindings

The source file of a typed binding tells the binding: the fields of the type, the constants, the
list of names, the shapes, what is resolved, the stubs and the two dispatches. So the text that is
generated means what the binding means.

* `TypedBinding.ofSource?` reads a source file; `TypedBinding.ofSource?_generate`: a generated file
  is read as the binding it was made from.
-/

namespace ForeignCall
namespace CodeReader

/-! ## 1. The type -/

def field : CodeReader Ident := do
  let name ← ident
  fixed (.mark ':' false :: supportPath "EntryPoint ,")
  return name

/-- The interface, the name of the type, and its fields. -/
def typeItem : CodeReader (Text × Ident × List Ident) := do
  let interface ← doc " Native bindings for " "."
  fixed lintTokens
  fixed (code "pub struct")
  let type ← ident
  let fields ← block .curly field
  return (interface, type, fields)

theorem Gives.typeItem {b : TypedBinding} (h : b.Named) :
    Gives typeItem b.typeItem (b.interface, b.type, b.fields) := by
  have hfields : Gives (CodeReader.block .curly CodeReader.field)
      (bracketed .curly (b.fields.flatMap fun f =>
        f.token :: .mark ':' false :: supportPath "EntryPoint ,")) b.fields :=
    block (fun f hf => (ident (h.fields f hf).symbol).cons (fixed _).map) fun f _ => .inl nofun
  simp only [TypedBinding.typeItem, List.append_assoc]
  refine (doc _ b.interface _).bind ((fixed _).bind ((fixed _).bind ?_))
  exact (ident h.type.symbol).bind hfields.map

/-! ## 2. The constants, the binding function and the stubs -/

def const : CodeReader IdConst := do
  let symbol ← doc " Method id of " "."
  fixed (code "pub const")
  let name ← word
  fixed (code ":")
  fixed (supportPath "MethodId =")
  fixed (supportPath "MethodId :: new")
  let index ← within .round (number "u32")
  fixed (code ";")
  return ⟨name, symbol, index⟩

/-- A field and the symbol it is resolved from. -/
def resolution : CodeReader (Ident × Text) := do
  let name ← ident
  fixed [.mark ':' false]
  fixed (supportPath "resolve_symbol")
  let symbol ← within .round do
    fixed (code "lookup ,")
    quoted
  fixed (code "? ,")
  return (name, symbol)

/-- The function that resolves every field, and what it resolves. -/
def bindItem : CodeReader (List (Ident × Text)) := do
  fixed (fixedDoc " Resolve every entry point now, in method-id order.")
  fixed (code "pub fn bind")
  fixed (bracketed .round (code "lookup : & dyn" ++ supportPath "SymbolLookup ,"))
  fixed (code "->")
  fixed (resultType (code "Self"))
  within .curly do
    fixed (code "Ok")
    within .round do
      fixed (code "Self")
      block .curly resolution

/-- What is declared beside the type `type`: the constants, the list of names, the shapes, what is
resolved, and the stubs. -/
def ownItem (type : Ident) :
    CodeReader (List IdConst × List Text × List CallShape × List (Ident × Text) × List Stub) := do
  fixed lintTokens
  fixed (code "impl")
  fixed [type.token]
  fixed [.opening .curly]
  let consts ← many (fixedDoc " Method names in id order.") fun _ => const
  fixed (code "pub const METHODS : & 'static [ & 'static str ] = &")
  let symbols ← listed .square [] fun _ => quoted
  fixed (code ";")
  fixed (fixedDoc " Every distinct call shape used by this interface, sorted.")
  fixed (code "pub const CALL_SHAPES : & 'static")
  fixed (bracketed .square (supportPath "CallShape"))
  fixed (code "= &")
  let shapes ← listed .square [] fun _ => CallShape.read?
  fixed (code ";")
  let resolutions ← bindItem
  let stubs ← many [.closing .curly] fun _ => stub
  return (consts, symbols, shapes, resolutions, stubs)

theorem Gives.const {c : IdConst} : Gives const (TypedBinding.constItem c) c := by
  simp only [TypedBinding.constItem, List.append_assoc]
  refine (doc _ c.symbol _).bind ((fixed _).bind ((word c.name).bind ((fixed _).bind ?_)))
  refine (fixed _).bind ((fixed _).bind ?_)
  exact ((number c.index "u32").within .round).bind (fixed _).map

theorem Gives.bindItem {b : TypedBinding} (h : ∀ r ∈ b.resolutions, r.1.Writable) :
    Gives bindItem b.bindItem b.resolutions := by
  have hfield (r : Ident × Text) (hr : r ∈ b.resolutions) : Gives resolution
      (r.1.token :: .mark ':' false :: (supportPath "resolve_symbol" ++
        (bracketed .round (code "lookup ," ++ [.quoted r.2]) ++ code "? ,"))) r := by
    refine (ident (h r hr).symbol).cons ((fixed [.mark ':' false]).cons ((fixed _).bind ?_))
    exact (((fixed _).bind (quoted r.2)).within .round).bind (fixed _).map
  simp only [TypedBinding.bindItem, List.append_assoc]
  refine (fixed _).bind ((fixed _).bind ((fixed _).bind ((fixed _).bind ((fixed _).bind ?_))))
  refine .within .curly ((fixed _).bind (.within .round ((fixed _).bind ?_)))
  exact block hfield fun r _ => .inl nofun

theorem bracketed_eq (b : Bracket) (ts : List Token) :
    bracketed b ts = [.opening b] ++ (ts ++ [.closing b]) := rfl

/-- A comment of a template is no comment with a text that was quoted. -/
theorem diverge_docTokens (t u : Text) : Token.Diverge (fixedDoc t) (docTokens u) := by
  have hliteral : Token.Diverge [.literal ("r\"".toList ++ t ++ "\"")] [.quoted u] := by
    refine .inl fun heq => ?_
    have hhead := congrArg List.head? (Token.literal.inj heq)
    rw [List.append_assoc, String.toList_ofList] at hhead
    cases hhead
  exact .inr (.inr ((hliteral.append_left _).append _ _))

theorem Gives.ownItem {b : TypedBinding} (h : b.Named) : Gives (ownItem b.type) b.ownItem
    (b.consts, b.symbols, b.shapes, b.resolutions, b.stubs) := by
  have hsymbols : Gives (CodeReader.listed .square [] fun _ => CodeReader.quoted)
      (bracketed .square (commaSeparated (b.symbols.map fun s => [.quoted s]))) b.symbols :=
    listed (.of_forall fun s _ => quoted s) (List.forall_mem_map.2 fun _ _ => .inl nofun)
  have hshapes : Gives (CodeReader.listed .square [] fun _ => CallShape.read?)
      (bracketed .square (commaSeparated (b.shapes.map CallShape.tokens))) b.shapes :=
    listed (.of_forall fun s _ => s.read?_tokens)
      (List.forall_mem_map.2 fun _ _ => .inl nofun)
  have hstubs : Gives (CodeReader.many [.closing .curly] fun _ => CodeReader.stub)
      (b.stubs.flatMap Stub.tokens ++ [.closing .curly]) b.stubs := by
    rw [List.flatMap_def]
    exact many (.of_forall fun s hs => stub (h.stubs s hs))
      (List.forall_mem_map.2 fun s _ => .inl nofun)
  rw [TypedBinding.ownItem, bracketed_eq .curly]
  simp only [List.append_assoc]
  refine (fixed _).bind ((fixed _).bind ((fixed _).bind ((fixed _).bind ?_)))
  refine many_bind (.of_forall fun _ _ => const) (List.forall_mem_map.2 fun c _ => ?_)
    ((fixed _).bind (hsymbols.bind ?_))
  · simp only [TypedBinding.constItem, List.append_assoc]
    exact (diverge_docTokens _ _).append_right _
  refine (fixed _).bind ((fixed _).bind ((fixed _).bind ((fixed _).bind ((fixed _).bind ?_))))
  exact hshapes.bind ((fixed _).bind ((bindItem h.resolutions).bind hstubs.map))

/-! ## 3. The dispatches -/

/-- One name, and the constant it leads to. -/
def nameArm : CodeReader NameArm := do
  let symbol ← quoted
  fixed (code "=> Ok")
  let const ← within .round do
    fixed (code "Self ::")
    word
  fixed (code ",")
  return ⟨symbol, const⟩

def extractors : List (List Token × Extractor) := [
  (supportPath "convert :: arg_i32", .int32),
  (supportPath "convert :: arg_i64", .int64),
  (supportPath "convert :: arg_string", .string),
  (supportPath "convert :: arg_handle", .handle)]

/-- The check of argument number `index` of a method. -/
def extract (symbol : Text) (index : Nat) : CodeReader Extractor := do
  fixed (code "let")
  fixed [localToken 'a' index]
  fixed (code "=")
  let extractor ← oneOf extractors
  fixed (bracketed .round
    (.quoted symbol :: (code ", args ," ++ [.literal (Text.ofNat index ++ "usize")])))
  fixed (code "? ;")
  return extractor

/-- The method and the number of arguments that are checked first. -/
def arity : CodeReader (Text × Nat) := do
  let symbol ← quoted
  fixed (code ",")
  let count ← number "usize"
  fixed (code ", args")
  return (symbol, count)

/-- One number: every argument is checked, and the stub is called with all of them. -/
def callArm : CodeReader CallArm := do
  let index ← number "usize"
  fixed (code "=>")
  within .curly do
    fixed (supportPath "convert :: check_arity")
    let (symbol, count) ← within .round arity
    fixed (code "? ;")
    let extractors ← many (code "self .") (extract symbol)
    let target ← ident
    fixed (bracketed .round (commaSeparated
      ((List.range extractors.length).map fun index => [localToken 'a' index])))
    fixed (code ". map")
    fixed (bracketed .round (supportPath "Value :: from"))
    return ⟨index, symbol, count, extractors, target⟩

/-- Where no arm was taken. -/
def unknownName : List Token :=
  code "_ => Err ( :: natbind_runtime :: BindError :: UnknownMethod ( name . to_string ( ) ) ) ,"

def unknownId : List Token :=
  code "_ => Err ( :: natbind_runtime :: BindError :: UnknownMethod ( id . to_string ( ) ) ) ,"

/-- The dispatch by name and by number for the type `type`. -/
def dispatchItem (type : Ident) : CodeReader (List NameArm × List CallArm) := do
  fixed lintTokens
  fixed (code "impl")
  fixed (supportPath "NativeInterface for")
  fixed [type.token]
  within .curly do
    fixed (code "fn method_id ( & self , name : & str ) ->")
    fixed (resultType (supportPath "MethodId"))
    let nameArms ← within .curly do
      fixed (code "match name")
      within .curly (many unknownName fun _ => nameArm)
    fixed (code "fn call")
    fixed (bracketed .round (code "& self , id :" ++ supportPath "MethodId , args : &" ++
      bracketed .square (supportPath "Value") ++ code ","))
    fixed (code "->")
    fixed (resultType (supportPath "Value"))
    let callArms ← within .curly do
      fixed (code "match id . index ( )")
      within .curly (many unknownId fun _ => callArm)
    return (nameArms, callArms)

theorem diverge_extractors : (extractors.map Prod.fst).Pairwise Token.Diverge := by
  decide_cbv

theorem unknown_eq : unknownName = TypedBinding.unknownArm "name" ∧
    unknownId = TypedBinding.unknownArm "id" := by
  decide_cbv

theorem head?_unknown :
    unknownName.head? = some (.word "_") ∧ unknownId.head? = some (.word "_") := by
  decide_cbv

theorem Gives.nameArm (arm : NameArm) : Gives nameArm (TypedBinding.nameArmTokens arm) arm := by
  simp only [TypedBinding.nameArmTokens, List.append_assoc]
  refine (quoted arm.symbol).cons ((fixed _).bind ?_)
  exact (((fixed _).bind (word arm.const)).within .round).bind (fixed _).map

theorem Gives.extract (symbol : Text) (e : Extractor) (index : Nat) :
    Gives (extract symbol index) (TypedBinding.extractTokens symbol e index) e := by
  have hlet {path : List Token} (h : (path, e) ∈ extractors) :
      Gives (CodeReader.extract symbol index) (code "let" ++ [argToken index] ++ code "=" ++ path ++
        bracketed .round
          (.quoted symbol :: (code ", args ," ++ [.literal (Text.ofNat index ++ "usize")])) ++
        code "? ;") e := by
    simp only [List.append_assoc]
    refine (fixed _).bind ((fixed _).bind ((fixed _).bind ?_))
    exact (oneOf diverge_extractors h).bind ((fixed _).bind (fixed _).map)
  cases e with
  | int32 => exact hlet (.head _)
  | int64 => exact hlet (.tail _ (.head _))
  | string => exact hlet (.tail _ (.tail _ (.head _)))
  | handle => exact hlet (.tail _ (.tail _ (.tail _ (.head _))))

theorem givesEach_extractors (symbol : Text) (extractors : List Extractor) (k : Nat) :
    GivesEach (extract symbol) k ((extractors.zipIdx k).map fun (e, index) =>
      TypedBinding.extractTokens symbol e index) extractors := by
  induction extractors generalizing k with
  | nil => exact .nil
  | cons e extractors ih => exact .cons (.extract symbol e k) (ih (k + 1))

theorem Gives.callArm {arm : CallArm} (h : arm.target.Writable) :
    Gives callArm (TypedBinding.callArmTokens arm) arm := by
  have harity : Gives arity (.quoted arm.symbol :: (code "," ++
      [.literal (Text.ofNat arm.arity ++ "usize")] ++ code ", args")) (arm.symbol, arm.arity) := by
    rw [List.append_assoc]
    exact (quoted arm.symbol).cons ((fixed _).bind ((number arm.arity "usize").bind (fixed _).map))
  have hself (x : Extractor × Nat) (_ : x ∈ arm.extractors.zipIdx) :
      Token.Diverge (code "self .") (TypedBinding.extractTokens arm.symbol x.1 x.2) := by
    have hlet : Token.Diverge (code "self .") (code "let") := by decide_cbv
    simp only [TypedBinding.extractTokens, List.append_assoc]
    exact hlet.append_right _
  simp only [TypedBinding.callArmTokens, List.append_assoc]
  refine (number arm.index "usize").cons ((fixed _).bind (.within .curly ?_))
  refine (fixed _).bind ((harity.within .round).bind ((fixed _).bind ?_))
  refine many_bind (givesEach_extractors arm.symbol arm.extractors 0)
    (List.forall_mem_map.2 hself) ?_
  exact (ident h.symbol).bind ((fixed _).bind ((fixed _).bind (fixed _).map))

theorem Gives.dispatchItem {b : TypedBinding} (h : b.Named) :
    Gives (dispatchItem b.type) b.dispatchItem (b.nameArms, b.callArms) := by
  have hnames : Gives (CodeReader.many unknownName fun _ => CodeReader.nameArm)
      (b.nameArms.flatMap TypedBinding.nameArmTokens ++ TypedBinding.unknownArm "name")
      b.nameArms := by
    rw [← unknown_eq.1]
    exact many (.of_forall fun arm _ => nameArm arm)
      (List.forall_mem_map.2 fun arm _ => .of_head? head?_unknown.1 rfl nofun)
  have hcalls : Gives (CodeReader.many unknownId fun _ => CodeReader.callArm)
      (b.callArms.flatMap TypedBinding.callArmTokens ++ TypedBinding.unknownArm "id")
      b.callArms := by
    rw [← unknown_eq.2]
    exact many (.of_forall fun arm harm => callArm (h.callArms arm harm))
      (List.forall_mem_map.2 fun arm _ => .of_head? head?_unknown.2 rfl nofun)
  simp only [TypedBinding.dispatchItem, List.append_assoc]
  refine (fixed _).bind ((fixed _).bind ((fixed _).bind ((fixed _).bind (.within .curly ?_))))
  refine (fixed _).bind ((fixed _).bind ?_)
  refine (((fixed _).bind (hnames.within .curly)).within .curly).bind ?_
  refine (fixed _).bind ((fixed _).bind ((fixed _).bind ((fixed _).bind ?_)))
  exact (((fixed _).bind (hcalls.within .curly)).within .curly).map

end CodeReader

/-! ## 4. Files -/

namespace TypedBinding

/-- The three items of a binding, one after another. -/
def read : CodeReader TypedBinding := do
  let (interface, type, fields) ← CodeReader.typeItem
  let (consts, symbols, shapes, resolutions, stubs) ← CodeReader.ownItem type
  let (nameArms, callArms) ← CodeReader.dispatchItem type
  return {
    interface, type, fields, consts, symbols, shapes, resolutions, stubs, nameArms, callArms }

/-- The binding in a source file, which has to be all that is in it. -/
def ofSource? (text : Text) : Option TypedBinding := do
  match ← read (← Token.lex text) with
  | (b, []) => return b
  | _ => none

theorem gives_items {b : TypedBinding} (h : b.Named) : CodeReader.Gives read b.items.flatten b := by
  have hitems : b.items.flatten = b.typeItem ++ (b.ownItem ++ b.dispatchItem) := by
    simp [items]
  rw [hitems]
  exact (CodeReader.Gives.typeItem h).bind
    ((CodeReader.Gives.ownItem h).bind (CodeReader.Gives.dispatchItem h).map)

theorem ofSource?_typedBinding {p : Plan} (hp : p.WellFormed) {b : TypedBinding}
    (h : typedBinding p = .ok b) : ofSource? (renderFile p.interface b.items) = some b := by
  have hread := gives_items (named_of_typedBinding hp h) []
  rw [List.append_nil] at hread
  simp [ofSource?, lex_typedBinding hp h, hread]

/-- A generated source file is read as the binding of the plan. -/
theorem ofSource?_generate {d : Description} {text : Text} (h : generate d = .ok text) :
    ∃ p b, Plan.analyze d = .ok p ∧ typedBinding p = .ok b ∧
      text = renderFile p.interface b.items ∧ ofSource? text = some b := by
  obtain ⟨p, b, hp, hb, rfl⟩ := generate_eq_ok_iff.1 h
  exact ⟨p, b, hp, hb, rfl, ofSource?_typedBinding (Plan.analyze_wellFormed hp) hb⟩

end TypedBinding
end ForeignCall
