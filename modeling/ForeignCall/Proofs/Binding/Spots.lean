import ForeignCall.Binding.Entry
import ForeignCall.Proofs.Source.Sites
import Mathlib.Tactic.MkIffOfInductiveProp

/-!
# Words in generated bindings

What the code of a typed binding names, and which of the built-in types it uses without a path. The
names of methods come in as names of items, labels and members only, so they are never mistaken for
a type.

* `takes_stub`: a stub names its function, and uses the built-in types of its method.
* `takes_typeItem`, `takes_ownItem`, `takes_dispatchItem`: the spots of the three items.
-/

namespace ForeignCall

/-! ## 1. Built-in types -/

/-- The types that have a name without a path in every module. -/
def builtinTypes : List Text := [
  "bool", "char", "str", "i8", "i16", "i32", "i64", "i128", "isize", "u8", "u16", "u32", "u64",
  "u128", "usize", "f32", "f64", "Option", "Result", "Vec", "String", "Box"]

/-- A word that stands for itself. -/
def Spot.bare (word : Text) : Spot := ⟨.free, word⟩

namespace SemanticType

/-- The built-in types in the type of a managed argument. -/
def managedSpots : SemanticType → List Spot
  | int32 => [.bare "i32"]
  | int64 => [.bare "i64"]
  | string => [.bare "str"]
  | _ => []

/-- The built-in types in the type of a managed result. -/
def returnSpots : SemanticType → List Spot
  | string => []
  | type => type.managedSpots

/-- The built-in types in the type of a native argument or result. -/
def nativeSpots : SemanticType → List Spot
  | int32 => [.bare "i32"]
  | int64 => [.bare "i64"]
  | _ => []

end SemanticType

/-- The built-in types of each type. -/
theorem reads_types (type : SemanticType) :
    Reads builtinTypes (managedParam type) type.managedSpots ∧
    Reads builtinTypes (managedReturn type) type.returnSpots ∧
    Reads builtinTypes (nativeType type) type.nativeSpots := by
  have hall : ∀ type ∈ SemanticType.all, Reads builtinTypes (managedParam type) type.managedSpots ∧
      Reads builtinTypes (managedReturn type) type.returnSpots ∧
      Reads builtinTypes (nativeType type) type.nativeSpots := by
    simp only [SemanticType.all, List.forall_mem_cons, builtinTypes, managedParam, managedReturn,
      nativeType, optionType, SemanticType.managedSpots, SemanticType.returnSpots,
      SemanticType.nativeSpots, Spot.bare]
    repeat rw [String.toList_ofList]
    decide +kernel
  exact hall type (by cases type <;> decide)

/-! ## 2. Pieces of code -/

/-- None of the words begins like a local variable of a stub. -/
def NoLocals (names : List Text) : Prop := ∀ w ∈ names, w.head? ≠ some 'a' ∧ w.head? ≠ some 'n'

section Common

variable {names : List Text} {spots : List Spot}

theorem spotless_docTokens (hdoc : Spotless names (code "doc =")) (t : Text) :
    Spotless names (docTokens t) := by
  have hhash : Spotless names [.mark '#' false] := ⟨fun _ => rfl, rfl⟩
  exact hhash.append ((hdoc.append (.literal _ _)).reads.bracketed .free .square)

theorem takes_resultType (hfront : Spotless names (supportPath "BindResult <"))
    {inner : List Token} (hinner : Reads names inner spots) :
    Takes names .free (resultType inner) spots .free := by
  have hend : Spotless names (code ">") := ⟨fun _ => rfl, rfl⟩
  have happend := hfront.append (hinner.append hend fun _ => rfl)
  rwa [List.append_nil, List.nil_append, ← List.append_assoc] at happend

theorem noLocals_naming : NoLocals naming := by
  unfold NoLocals naming
  decide

theorem spotless_argToken (h : NoLocals names) (index : Nat) : Spotless names [argToken index] :=
  .other (fun hmem => (noLocals_naming _ hmem).1 rfl) fun hmem => (h _ hmem).1 rfl

theorem spotless_loweredToken (h : NoLocals names) (index : Nat) :
    Spotless names [loweredToken index] :=
  .other (fun hmem => (noLocals_naming _ hmem).2 rfl) fun hmem => (h _ hmem).2 rfl

theorem reads_locals {token : Nat → Token}
    (h : ∀ index, Spotless names [token index]) (count : Nat) :
    Reads names (commaSeparated (locals token count)) [] :=
  .commaSeparated_nil fun index _ => (h index).reads

/-- The types of parameters are read one after another. -/
theorem reads_paramTokens {typeSpots : SemanticType → List Spot}
    (h : ∀ type, Reads names (managedParam type) (typeSpots type)) (index : Nat)
    (types : List SemanticType) :
    Reads names (commaSeparated (paramTokens index types)) (types.flatMap typeSpots) := by
  rw [List.flatMap_def]
  refine .commaSeparated ?_
  induction types generalizing index with
  | nil => exact .nil
  | cons type types ih =>
    exact .cons ((Takes.label _).append_reads (h type)) (ih (index + 1))

end Common

/-! ## 3. Fixed pieces -/

/-- The spots of the fixed pieces of a typed binding. -/
@[mk_iff]
structure FixedPieces : Prop where
  semicolon : Spotless builtinTypes (code ";")
  equals : Spotless builtinTypes (code "=")
  question : Spotless builtinTypes (code "?")
  tried : Spotless builtinTypes (code "? ;")
  triedField : Spotless builtinTypes (code "? ,")
  comma : Spotless builtinTypes (code ",")
  commaRef : Spotless builtinTypes (code ", &")
  commaArgs : Spotless builtinTypes (code ", args")
  commaArgsComma : Spotless builtinTypes (code ", args ,")
  colon : Spotless builtinTypes (code ":")
  arrow : Spotless builtinTypes (code "->")
  arm : Spotless builtinTypes (code "=>")
  armOk : Spotless builtinTypes (code "=> Ok")
  equalsRef : Spotless builtinTypes (code "= &")
  ok : Spotless builtinTypes (code "Ok")
  selfType : Spotless builtinTypes (code "Self")
  callable : Spotless builtinTypes (code ". callable")
  map : Spotless builtinTypes (code ". map")
  selfParam : Spotless builtinTypes (code "& self ,")
  arena : Spotless builtinTypes (code "& mut arena ,")
  letWord : Spotless builtinTypes (code "let")
  letRet : Spotless builtinTypes (code "let ret = unsafe")
  func : Spotless builtinTypes (code "func")
  transmute : Spotless builtinTypes
    (code "= unsafe \x7b :: core :: mem :: transmute ( func ) \x7d ;")
  lookup : Spotless builtinTypes (code "lookup ,")
  matchName : Spotless builtinTypes (code "match name")
  matchIndex : Spotless builtinTypes (code "match id . index ( )")
  doc : Spotless builtinTypes (code "doc =")
  lints : Spotless builtinTypes lintTokens
  bindDoc : Spotless builtinTypes (fixedDoc " Resolve every entry point now, in method-id order.")
  namesDoc : Spotless builtinTypes (fixedDoc " Method names in id order.")
  shapesDoc : Spotless builtinTypes
    (fixedDoc " Every distinct call shape used by this interface, sorted.")
  entryPoint : Spotless builtinTypes (supportPath "EntryPoint ,")
  methodId : Spotless builtinTypes (supportPath "MethodId")
  methodIdEquals : Spotless builtinTypes (supportPath "MethodId =")
  methodIdNew : Spotless builtinTypes (supportPath "MethodId :: new")
  value : Spotless builtinTypes (supportPath "Value")
  valueFrom : Spotless builtinTypes (supportPath "Value :: from")
  callShape : Spotless builtinTypes (supportPath "CallShape")
  callShapeNew : Spotless builtinTypes (supportPath "CallShape :: new")
  bindResult : Spotless builtinTypes (supportPath "BindResult <")
  resolveSymbol : Spotless builtinTypes (supportPath "resolve_symbol")
  downString : Spotless builtinTypes (supportPath "convert :: down_string")
  downHandle : Spotless builtinTypes (supportPath "convert :: down_handle")
  checkArity : Spotless builtinTypes (supportPath "convert :: check_arity")
  argInt32 : Spotless builtinTypes (supportPath "convert :: arg_i32")
  argInt64 : Spotless builtinTypes (supportPath "convert :: arg_i64")
  argString : Spotless builtinTypes (supportPath "convert :: arg_string")
  argHandle : Spotless builtinTypes (supportPath "convert :: arg_handle")
  lookupParam : Spotless builtinTypes
    (bracketed .round (code "lookup : & dyn" ++ supportPath "SymbolLookup ,"))
  callParams : Spotless builtinTypes (bracketed .round (code "& self , id :" ++
    supportPath "MethodId , args : &" ++ bracketed .square (supportPath "Value") ++ code ","))
  unknownName : Spotless builtinTypes (TypedBinding.unknownArm "name")
  unknownId : Spotless builtinTypes (TypedBinding.unknownArm "id")
  layout : ∀ l ∈ Layout.all, Spotless builtinTypes l.tokens
  openArena : Spotless builtinTypes (Statement.tokens .openArena)
  up : ∀ step ∈ [UpStep.keep, .string, .handle], Spotless builtinTypes (Statement.tokens (.up step))
  dropArena : Spotless builtinTypes (Statement.tokens .dropArena)
  giveValue : Spotless builtinTypes (Statement.tokens .giveValue)
  struct : Takes builtinTypes .free (code "pub struct") [] (.named "struct")
  fn : Takes builtinTypes .free (code "pub fn") [] (.named "fn")
  const : Takes builtinTypes .free (code "pub const") [] (.named "const")
  impl : Takes builtinTypes .free (code "impl") [] (.named "impl")
  implFor : Takes builtinTypes (.named "impl") (supportPath "NativeInterface for") [] (.named "for")
  selfField : Takes builtinTypes .free (code "let func = self .") [] .inner
  selfStub : Takes builtinTypes .free (code "self .") [] .inner
  selfConst : Takes builtinTypes .free (code "Self ::") [] .inner
  pointer : Takes builtinTypes .free (code "let func : unsafe extern \"C\" fn") [] (.named "fn")
  bind : Takes builtinTypes .free (code "pub fn bind") [⟨.named "fn", "bind"⟩] .free
  methods : Takes builtinTypes .free (code "pub const METHODS : & 'static [ & 'static str ] = &")
    [⟨.named "const", "METHODS"⟩, .bare "str"] .free
  callShapes : Takes builtinTypes .free (code "pub const CALL_SHAPES : & 'static")
    [⟨.named "const", "CALL_SHAPES"⟩] .free
  methodIdFn : Takes builtinTypes .free (code "fn method_id ( & self , name : & str ) ->")
    [⟨.named "fn", "method_id"⟩, .bare "str"] .free
  callFn : Takes builtinTypes .free (code "fn call") [⟨.named "fn", "call"⟩] .free

theorem fixedPieces : FixedPieces := by
  rw [fixedPieces_iff]
  simp only [lintTokens, fixedDoc, supportPath, TypedBinding.unknownArm, Layout.all, Layout.tokens,
    Statement.tokens, List.forall_mem_cons, List.not_mem_nil, false_imp_iff, implies_true,
    and_true, takes_iff, ← Bool.and_eq_true]
  repeat rw [String.toList_ofList]
  decide +kernel

theorem noLocals_builtinTypes : NoLocals builtinTypes := by
  unfold NoLocals builtinTypes
  repeat rw [String.toList_ofList]
  decide

theorem spotless_arg (index : Nat) : Spotless builtinTypes [argToken index] :=
  spotless_argToken noLocals_builtinTypes index

theorem spotless_lowered (index : Nat) : Spotless builtinTypes [loweredToken index] :=
  spotless_loweredToken noLocals_builtinTypes index

theorem spotless_literal (t : Text) : Spotless builtinTypes [.literal t] := .literal .free t

theorem spotless_doc (t : Text) : Spotless builtinTypes (docTokens t) :=
  spotless_docTokens (FixedPieces.doc fixedPieces) t

theorem spotless_layout (l : Layout) : Spotless builtinTypes l.tokens :=
  FixedPieces.layout fixedPieces l (by cases l <;> decide)

theorem takes_result {inner : List Token} {spots : List Spot}
    (h : Reads builtinTypes inner spots) :
    Takes builtinTypes .free (resultType inner) spots .free :=
  takes_resultType (FixedPieces.bindResult fixedPieces) h

/-! ## 4. Stubs -/

/-- The built-in types that a statement uses. -/
def Statement.spots : Statement → List Spot
  | typeEntry params ret => params.flatMap SemanticType.nativeSpots ++ ret.nativeSpots
  | _ => []

theorem spotless_down (index : Nat) (step : DownStep) :
    Spotless builtinTypes (Statement.down index step).tokens := by
  have fixed := fixedPieces
  have hlowered : ∀ ts, Spotless builtinTypes ts → Spotless builtinTypes
      (code "let" ++ [loweredToken index] ++ code "=" ++ ts ++ code ";") := fun ts hts =>
    (((fixed.letWord.append (spotless_lowered index)).append fixed.equals).append hts).append
      fixed.semicolon
  cases step with
  | keep => exact hlowered _ (spotless_arg index)
  | string =>
    have hargs := (fixed.arena.append (spotless_arg index)).reads.bracketed .free .round
    exact hlowered _ ((fixed.downString.append hargs).append fixed.question)
  | handle =>
    exact hlowered _ (fixed.downHandle.append ((spotless_arg index).reads.bracketed .free .round))

theorem spotless_takeEntry (field : Ident) (symbol : Text) :
    Spotless builtinTypes (Statement.takeEntry field symbol).tokens := by
  have fixed := fixedPieces
  have hsymbol := (spotless_literal (Quoted.literal symbol)).reads.bracketed .free .round
  exact (((fixed.selfField.append (.member field.text)).append fixed.callable).append
    hsymbol).append fixed.tried

theorem takes_typeEntry (params : List SemanticType) (ret : SemanticType) :
    Takes builtinTypes .free (Statement.typeEntry params ret).tokens
      (params.flatMap SemanticType.nativeSpots ++ ret.nativeSpots) .free := by
  have fixed := fixedPieces
  have hparams := fixed.pointer.append ((Reads.commaSeparated_map fun type (_ : type ∈ params) =>
    (reads_types type).2.2).bracketed (.named "fn") .round)
  have hcolon : ∀ colon, Site.colonAhead colon
      (code "= unsafe \x7b :: core :: mem :: transmute ( func ) \x7d ;") = false := by
    rw [String.toList_ofList]
    decide +kernel
  have hresult : ∀ type, Takes builtinTypes .free
      (code "let func : unsafe extern \"C\" fn" ++
        bracketed .round (commaSeparated (params.map nativeType)) ++
        (code "->" ++ nativeType type) ++
        code "= unsafe \x7b :: core :: mem :: transmute ( func ) \x7d ;")
      (params.flatMap SemanticType.nativeSpots ++ type.nativeSpots) .free := by
    intro type
    have hall := hparams.append
      ((fixed.arrow.append_reads (reads_types type).2.2).append fixed.transmute hcolon)
    rw [← List.append_assoc] at hall
    exact hall.of_eq (by simp)
  cases ret with
  | void =>
    exact ((hparams.append .nil).append fixed.transmute).of_eq (by
      simp [SemanticType.nativeSpots])
  | int32 => exact hresult .int32
  | int64 => exact hresult .int64
  | string => exact hresult .string
  | handle => exact hresult .handle

theorem spotless_callEntry (count : Nat) :
    Spotless builtinTypes (Statement.callEntry count).tokens := by
  have fixed := fixedPieces
  have hlocals := (reads_locals spotless_lowered count).bracketed .free .round
  have hcall := (fixed.func.append hlocals).reads.bracketed .free .curly
  exact (fixed.letRet.append hcall).append fixed.semicolon

theorem takes_statement (s : Statement) : Takes builtinTypes .free s.tokens s.spots .free := by
  have fixed := fixedPieces
  cases s with
  | openArena => exact fixed.openArena
  | down index step => exact spotless_down index step
  | takeEntry field symbol => exact spotless_takeEntry field symbol
  | typeEntry params ret => exact takes_typeEntry params ret
  | callEntry count => exact spotless_callEntry count
  | up step => exact fixed.up step (by cases step <;> decide)
  | dropArena => exact fixed.dropArena
  | giveValue => exact fixed.giveValue

/-- The name of a stub's function, and the built-in types it uses. -/
def Stub.spots (s : Stub) : List Spot :=
  ⟨.named "fn", s.ident.text⟩ :: (s.params.flatMap SemanticType.managedSpots ++
    s.ret.returnSpots ++ s.body.flatMap Statement.spots)

theorem takes_stub (s : Stub) : Takes builtinTypes .free s.tokens s.spots .free := by
  have fixed := fixedPieces
  have hdoc := spotless_doc (" ".toList ++ backquoted s.signature)
  have hparams := (fixed.selfParam.append_reads (reads_paramTokens
    (fun type => (reads_types type).1) 0 s.params)).bracketed .free .round
  have hresult := takes_result (reads_types s.ret).2.1
  have hbody := (Takes.flatMap fun t (_ : t ∈ s.body) => takes_statement t).reads.bracketed
    .free .curly
  have hall := (((((hdoc.append fixed.fn).append (.name "fn" s.ident.text)).append
    hparams).append fixed.arrow).append hresult).append hbody
  exact hall.of_eq (by simp [Stub.spots])

/-! ## 5. Items -/

namespace TypedBinding

theorem takes_typeItem (b : TypedBinding) :
    Takes builtinTypes .free b.typeItem [⟨.named "struct", b.type.text⟩] .free := by
  have fixed := fixedPieces
  have hdoc := spotless_doc (" Native bindings for ".toList ++ backquoted b.interface ++ ".")
  have hfields := (Takes.flatMap_nil fun f (_ : f ∈ b.fields) =>
    (Takes.label f.text).append fixed.entryPoint).reads.bracketed .free .curly
  have hall := (((hdoc.append fixed.lints).append fixed.struct).append
    (.name "struct" b.type.text)).append hfields
  exact hall.of_eq (by simp)

theorem takes_constItem (c : IdConst) :
    Takes builtinTypes .free (constItem c) [⟨.named "const", c.name⟩] .free := by
  have fixed := fixedPieces
  have hdoc := spotless_doc (" Method id of ".toList ++ backquoted c.symbol ++ ".")
  have hindex := (spotless_literal (Text.ofNat c.index ++ "u32")).reads.bracketed .free .round
  have hall := ((((((hdoc.append fixed.const).append (.name "const" c.name)).append
    fixed.colon).append fixed.methodIdEquals).append fixed.methodIdNew).append hindex).append
    fixed.semicolon
  exact hall.of_eq (by simp)

theorem takes_bindItem (b : TypedBinding) :
    Takes builtinTypes .free b.bindItem [⟨.named "fn", "bind"⟩] .free := by
  have fixed := fixedPieces
  have hfield : ∀ r ∈ b.resolutions, Spotless builtinTypes (r.1.token :: .mark ':' false ::
      (supportPath "resolve_symbol" ++ bracketed .round (code "lookup ," ++ [.quoted r.2]) ++
        code "? ,")) := by
    intro r _
    have hargs := (fixed.lookup.append (spotless_literal (Quoted.literal r.2))).reads.bracketed
      .free .round
    exact (Takes.label r.1.text).append
      ((fixed.resolveSymbol.append hargs).append fixed.triedField)
  have hself := fixed.selfType.append ((Takes.flatMap_nil hfield).reads.bracketed .free .curly)
  have hbody := (fixed.ok.append (hself.reads.bracketed .free .round)).reads.bracketed .free .curly
  have hall := ((((fixed.bindDoc.append fixed.bind).append fixed.lookupParam).append
    fixed.arrow).append (takes_result fixed.selfType.reads)).append hbody
  exact hall.of_eq (by simp)

theorem spotless_callShape (shape : CallShape) : Spotless builtinTypes shape.tokens := by
  have fixed := fixedPieces
  have hparams := (Reads.commaSeparated_nil fun l (_ : l ∈ shape.params) =>
    (spotless_layout l).reads).bracketed .free .square
  have hargs := (((spotless_layout shape.ret).append fixed.commaRef).append hparams).reads.bracketed
    .free .round
  exact fixed.callShapeNew.append hargs

/-- The names and built-in types of the constants, the binding function and the stubs. -/
def ownSpots (b : TypedBinding) : List Spot :=
  ⟨.named "impl", b.type.text⟩ :: (b.consts.map (fun c => ⟨.named "const", c.name⟩) ++
    [⟨.named "const", "METHODS"⟩, .bare "str", ⟨.named "const", "CALL_SHAPES"⟩,
      ⟨.named "fn", "bind"⟩] ++ b.stubs.flatMap Stub.spots)

theorem takes_ownItem (b : TypedBinding) :
    Takes builtinTypes .free b.ownItem b.ownSpots .free := by
  have fixed := fixedPieces
  have hconsts := Takes.flatMap fun c (_ : c ∈ b.consts) => takes_constItem c
  have hsymbols := (Reads.commaSeparated_nil fun symbol (_ : symbol ∈ b.symbols) =>
    (spotless_literal (Quoted.literal symbol)).reads).bracketed .free .square
  have hmethods := (((hconsts.append fixed.namesDoc).append fixed.methods).append
    hsymbols).append fixed.semicolon
  have hshapes := (Reads.commaSeparated_nil fun shape (_ : shape ∈ b.shapes) =>
    (spotless_callShape shape).reads).bracketed .free .square
  have hcallShapes := (((((hmethods.append fixed.shapesDoc).append fixed.callShapes).append
    (fixed.callShape.reads.bracketed .free .square)).append fixed.equalsRef).append
    hshapes).append fixed.semicolon
  have hstubs := Takes.flatMap fun s (_ : s ∈ b.stubs) => takes_stub s
  have hbody := ((hcallShapes.append b.takes_bindItem).append hstubs).reads.bracketed .free .curly
  have hall := ((fixed.lints.append fixed.impl).append (.name "impl" b.type.text)).append hbody
  exact hall.of_eq (by simp [ownSpots, List.map_eq_flatMap])

theorem spotless_nameArm (arm : NameArm) : Spotless builtinTypes (nameArmTokens arm) := by
  have fixed := fixedPieces
  have hconst := (fixed.selfConst.append (.member arm.const)).reads.bracketed .free .round
  exact (spotless_literal (Quoted.literal arm.symbol)).append
    ((fixed.armOk.append hconst).append fixed.comma)

theorem spotless_extract (symbol : Text) (e : Extractor) (index : Nat) :
    Spotless builtinTypes (extractTokens symbol e index) := by
  have fixed := fixedPieces
  have hargs := ((spotless_literal (Quoted.literal symbol)).append (fixed.commaArgsComma.append
    (spotless_literal (Text.ofNat index ++ "usize")))).reads.bracketed .free .round
  have hfunction : ∀ path, Spotless builtinTypes path → Spotless builtinTypes
      (code "let" ++ [argToken index] ++ code "=" ++ path ++ bracketed .round (.quoted symbol ::
        (code ", args ," ++ [.literal (Text.ofNat index ++ "usize")])) ++ code "? ;") :=
    fun path hpath => ((((fixed.letWord.append (spotless_arg index)).append fixed.equals).append
      hpath).append hargs).append fixed.tried
  cases e with
  | int32 => exact hfunction _ fixed.argInt32
  | int64 => exact hfunction _ fixed.argInt64
  | string => exact hfunction _ fixed.argString
  | handle => exact hfunction _ fixed.argHandle

theorem spotless_callArm (arm : CallArm) : Spotless builtinTypes (callArmTokens arm) := by
  have fixed := fixedPieces
  have harity := ((spotless_literal (Quoted.literal arm.symbol)).append ((fixed.comma.append
    (spotless_literal (Text.ofNat arm.arity ++ "usize"))).append fixed.commaArgs)).reads.bracketed
    .free .round
  have hcheck := (fixed.checkArity.append harity).append fixed.tried
  have hextract := Takes.flatMap_nil (f := fun x => extractTokens arm.symbol x.1 x.2)
    fun x (_ : x ∈ arm.extractors.zipIdx) => spotless_extract arm.symbol x.1 x.2
  have hlocals := (reads_locals spotless_arg arm.extractors.length).bracketed .free .round
  have hbody := (((((hcheck.append hextract).append fixed.selfStub).append
    (.member arm.target.text)).append hlocals).append fixed.map).append
    (fixed.valueFrom.reads.bracketed .free .round)
  exact (spotless_literal (Text.ofNat arm.index ++ "usize")).append
    (fixed.arm.append (hbody.reads.bracketed .free .curly))

theorem takes_dispatchItem (b : TypedBinding) :
    Takes builtinTypes .free b.dispatchItem
      [⟨.named "for", b.type.text⟩, ⟨.named "fn", "method_id"⟩, .bare "str",
        ⟨.named "fn", "call"⟩] .free := by
  have fixed := fixedPieces
  have hnames := (Takes.flatMap_nil fun arm (_ : arm ∈ b.nameArms) => spotless_nameArm arm).append
    fixed.unknownName
  have hnameBody := (fixed.matchName.append (hnames.reads.bracketed .free .curly)).reads.bracketed
    .free .curly
  have hmethodId := (fixed.methodIdFn.append (takes_result fixed.methodId.reads)).append hnameBody
  have hcalls := (Takes.flatMap_nil fun arm (_ : arm ∈ b.callArms) => spotless_callArm arm).append
    fixed.unknownId
  have hcallBody := (fixed.matchIndex.append (hcalls.reads.bracketed .free .curly)).reads.bracketed
    .free .curly
  have hcall := ((((hmethodId.append fixed.callFn).append fixed.callParams).append
    fixed.arrow).append (takes_result fixed.value.reads)).append hcallBody
  have hall := (((fixed.lints.append fixed.impl).append fixed.implFor).append
    (.name "for" b.type.text)).append (hcall.reads.bracketed .free .curly)
  exact hall.of_eq (by simp)

end TypedBinding
end ForeignCall
