import ForeignCall.Proofs.Binding.Associated
import ForeignCall.Proofs.Binding.Generators
import ForeignCall.Proofs.Source.Legible

/-!
# Printed code

The file of a typed binding is read back as the tokens of its items, and so is that of an
entry-point module with a legible resolver: all names in them are symbol names, their texts are
quoted, and everything else is fixed.

* `CodePieces` are the fixed pieces, `codePieces` says that each is made of tokens.
* `TypedBinding.piece_items` and `EntryModule.piece_item`: so are the items in which every name can
  be written.
* `lex_generate`, `lex_generateEntry` and `lex_generateBoth`: the tokens of generated files are
  those of the items.
-/

namespace ForeignCall

/-! ## 1. Names -/

/-- A name that is written raw is a keyword, and none of those that are never raw. -/
theorem leaf_symbol {i : Ident} (h : isSymbolName i.name = true)
    (hraw : i.raw = true → i.name ∈ keywords) : Leaf i.token := by
  rw [Ident.token, Ident.text]
  split
  · next hi =>
    have hnever : ∀ w ∈ neverRaw, w ∉ keywords := by
      unfold neverRaw keywords
      repeat rw [String.toList_ofList]
      decide +kernel
    exact .raw h fun hmem => hnever i.name hmem (hraw hi)
  · exact .word h

theorem Ident.Writable.leaf {i : Ident} (h : i.Writable) : Leaf i.token :=
  leaf_symbol h.symbol h.raw.1

theorem isSymbolName_ofNat (c : Char) (hc : c.isAlpha = true) (n : Nat) :
    isSymbolName (c :: Text.ofNat n) = true := by
  refine isSymbolName_iff.2 ⟨c, _, rfl, .inl hc, fun d hd => isSymbolPart_of_isDigit ?_⟩
  exact Nat.isDigit_of_mem_toDigits (by decide) (by decide) hd

theorem leaf_argToken (index : Nat) : Leaf (argToken index) :=
  .word (isSymbolName_ofNat 'a' (by decide) index)

theorem leaf_loweredToken (index : Nat) : Leaf (loweredToken index) :=
  .word (isSymbolName_ofNat 'n' (by decide) index)

/-! ## 2. Pieces -/

/-- `P` holds of the fixed pieces of generated code. -/
@[mk_iff]
structure CodePieces (P : List Token → Prop) : Prop where
  semicolon : P (code ";")
  equals : P (code "=")
  question : P (code "?")
  tried : P (code "? ;")
  triedField : P (code "? ,")
  comma : P (code ",")
  commaRef : P (code ", &")
  commaArgs : P (code ", args")
  commaArgsComma : P (code ", args ,")
  colon : P (code ":")
  greater : P (code ">")
  arrow : P (code "->")
  arm : P (code "=>")
  armOk : P (code "=> Ok")
  equalsRef : P (code "= &")
  ok : P (code "Ok")
  selfType : P (code "Self")
  callable : P (code ". callable")
  map : P (code ". map")
  selfParam : P (code "& self ,")
  arena : P (code "& mut arena ,")
  letWord : P (code "let")
  letRet : P (code "let ret = unsafe")
  func : P (code "func")
  transmute : P (code "= unsafe \x7b :: core :: mem :: transmute ( func ) \x7d ;")
  lookup : P (code "lookup ,")
  matchName : P (code "match name")
  matchIndex : P (code "match id . index ( )")
  doc : P (code "doc =")
  lints : P lintTokens
  entryPoint : P (supportPath "EntryPoint ,")
  methodId : P (supportPath "MethodId")
  methodIdEquals : P (supportPath "MethodId =")
  methodIdNew : P (supportPath "MethodId :: new")
  value : P (supportPath "Value")
  valueFrom : P (supportPath "Value :: from")
  callShape : P (supportPath "CallShape")
  callShapeNew : P (supportPath "CallShape :: new")
  bindResult : P (supportPath "BindResult <")
  resolveSymbol : P (supportPath "resolve_symbol")
  downString : P (supportPath "convert :: down_string")
  downHandle : P (supportPath "convert :: down_handle")
  checkArity : P (supportPath "convert :: check_arity")
  argInt32 : P (supportPath "convert :: arg_i32")
  argInt64 : P (supportPath "convert :: arg_i64")
  argString : P (supportPath "convert :: arg_string")
  argHandle : P (supportPath "convert :: arg_handle")
  lookupParam : P (bracketed .round (code "lookup : & dyn" ++ supportPath "SymbolLookup ,"))
  callParams : P (bracketed .round (code "& self , id :" ++
    supportPath "MethodId , args : &" ++ bracketed .square (supportPath "Value") ++ code ","))
  unknownName : P (TypedBinding.unknownArm "name")
  unknownId : P (TypedBinding.unknownArm "id")
  layout : ∀ l ∈ Layout.all, P l.tokens
  openArena : P (Statement.tokens .openArena)
  up : ∀ step ∈ [UpStep.keep, .string, .handle], P (Statement.tokens (.up step))
  dropArena : P (Statement.tokens .dropArena)
  giveValue : P (Statement.tokens .giveValue)
  struct : P (code "pub struct")
  fn : P (code "pub fn")
  const : P (code "pub const")
  impl : P (code "impl")
  implFor : P (supportPath "NativeInterface for")
  selfField : P (code "let func = self .")
  selfStub : P (code "self .")
  selfConst : P (code "Self ::")
  pointer : P (code "let func : unsafe extern \"C\" fn")
  bind : P (code "pub fn bind")
  methods : P (code "pub const METHODS : & 'static [ & 'static str ] = &")
  callShapes : P (code "pub const CALL_SHAPES : & 'static")
  methodIdFn : P (code "fn method_id ( & self , name : & str ) ->")
  callFn : P (code "fn call")
  mod : P (code "pub mod")
  loadedStruct : P (code "struct __Loaded")
  libraryField : P (code "_library :")
  sharedLookup : P EntryModule.sharedLookup
  bindingField : P (code ", binding :")
  parent : P (code "super ::")
  staticItem : P (code "static")
  cell : P (supportPath "__private :: OnceCell")
  less : P (code "<")
  loaded : P (code "__Loaded")
  cellEnd : P (code ", > =")
  cellNew : P (code ":: new ( ) ;")
  privateFn : P (code "fn")
  noParams : P (code "( ) ->")
  letLibrary : P (code "let library :")
  letBinding : P (code "let binding =")
  bindLibrary : P (code ":: bind ( & * library ) ? ;")
  loadedFields : P (code "_library : library , binding ,")
  arms : ∀ outcome ∈ [OutcomeArm.loaded, .failed], P (EntryModule.armTokens outcome)
  static : P (code "& 'static")
  matchWord : P (code "match")
  getOrInit : P (code ". get_or_init")
  askBinding : P (code "( ) ? .")
  managed : ∀ type ∈ SemanticType.all, P (managedParam type)
  returned : ∀ type ∈ SemanticType.all, P (managedReturn type)
  native : ∀ type ∈ SemanticType.all, P (nativeType type)

theorem CodePieces.imp {P Q : List Token → Prop} (hpq : ∀ ts, P ts → Q ts)
    (h : CodePieces P) : CodePieces Q := by
  constructor
  case layout => exact fun l hl => hpq _ (h.layout l hl)
  case up => exact fun step hstep => hpq _ (h.up step hstep)
  case managed => exact fun type htype => hpq _ (h.managed type htype)
  case returned => exact fun type htype => hpq _ (h.returned type htype)
  case arms => exact fun outcome houtcome => hpq _ (h.arms outcome houtcome)
  case native => exact fun type htype => hpq _ (h.native type htype)
  all_goals
    apply hpq
    cases h
    with_reducible assumption

theorem readable_codePieces : CodePieces fun ts => readable [] ts = true := by
  rw [codePieces_iff]
  simp only [lintTokens, supportPath, TypedBinding.unknownArm, Layout.all, Layout.tokens,
    Statement.tokens, SemanticType.all, managedParam, managedReturn, nativeType, optionType,
    EntryModule.sharedLookup, EntryModule.armTokens, List.forall_mem_cons, List.not_mem_nil,
    false_imp_iff, implies_true, and_true, ← Bool.and_eq_true]
  -- Evaluating a string literal is slow, so the literals are replaced by their characters first.
  repeat rw [String.toList_ofList]
  decide +kernel

theorem codePieces : CodePieces Piece :=
  readable_codePieces.imp fun _ => .of_readable

theorem piece_docTokens (t : Text) : Piece (docTokens t) :=
  .cons (.mark (by decide)) (.bracketed .square (codePieces.doc.append (.leaf (.quoted t))))

theorem piece_fixedDoc {t : Text} (hquote : '"' ∉ t) (hreturn : '\r' ∉ t) : Piece (fixedDoc t) :=
  .cons (.mark (by decide))
    (.bracketed .square (codePieces.doc.append (.leaf (.rawText hquote hreturn))))

theorem piece_types (type : SemanticType) : Piece (managedParam type) ∧
    Piece (managedReturn type) ∧ Piece (nativeType type) := by
  have htype : type ∈ SemanticType.all := by cases type <;> decide
  exact ⟨codePieces.managed type htype, codePieces.returned type htype,
    codePieces.native type htype⟩

theorem piece_resultType {inner : List Token} (h : Piece inner) : Piece (resultType inner) :=
  (codePieces.bindResult.append h).append codePieces.greater

theorem piece_locals {name : Nat → Token} (h : ∀ index, Leaf (name index)) (count : Nat) :
    Piece (commaSeparated (locals name count)) := by
  refine .commaSeparated fun part hpart => ?_
  obtain ⟨index, _, rfl⟩ := List.mem_map.1 hpart
  exact .leaf (h index)

theorem piece_paramTokens (index : Nat) (types : List SemanticType) :
    Piece (commaSeparated (paramTokens index types)) := by
  refine .commaSeparated ?_
  induction types generalizing index with
  | nil => exact List.forall_mem_nil _
  | cons type types ih =>
    refine List.forall_mem_cons.2 ⟨?_, ih (index + 1)⟩
    exact .cons (leaf_argToken index) (.cons (.mark (by decide)) (piece_types type).1)

theorem piece_layout (l : Layout) : Piece l.tokens :=
  codePieces.layout l (by cases l <;> decide)

theorem piece_callShape (s : CallShape) : Piece s.tokens := by
  have fixed := codePieces
  have hparams : Piece (commaSeparated (s.params.map Layout.tokens)) :=
    .commaSeparated (List.forall_mem_map.2 fun l _ => piece_layout l)
  have hlayouts := ((piece_layout s.ret).append fixed.commaRef).append (hparams.bracketed .square)
  exact fixed.callShapeNew.append (hlayouts.bracketed .round)

/-! ## 3. Stubs -/

theorem piece_down (index : Nat) (step : DownStep) : Piece (Statement.down index step).tokens := by
  have fixed := codePieces
  have harg := Piece.leaf (leaf_argToken index)
  have hlet {lowered : List Token} (hlowered : Piece lowered) :
      Piece (code "let" ++ [loweredToken index] ++ code "=" ++ lowered ++ code ";") :=
    (((fixed.letWord.append (.leaf (leaf_loweredToken index))).append fixed.equals).append
      hlowered).append fixed.semicolon
  cases step with
  | keep => exact hlet harg
  | string =>
    have hargs := (fixed.arena.append harg).bracketed .round
    exact hlet ((fixed.downString.append hargs).append fixed.question)
  | handle => exact hlet (fixed.downHandle.append (harg.bracketed .round))

theorem piece_takeEntry {field : Ident} (h : Leaf field.token) (symbol : Text) :
    Piece (Statement.takeEntry field symbol).tokens := by
  have fixed := codePieces
  have hsymbol := (Piece.leaf (.quoted symbol)).bracketed .round
  exact (((fixed.selfField.append (.leaf h)).append fixed.callable).append hsymbol).append
    fixed.tried

theorem piece_typeEntry (params : List SemanticType) (ret : SemanticType) :
    Piece (Statement.typeEntry params ret).tokens := by
  have fixed := codePieces
  have hparams : Piece (commaSeparated (params.map nativeType)) :=
    .commaSeparated (List.forall_mem_map.2 fun type _ => (piece_types type).2.2)
  have hfunction := fixed.pointer.append (hparams.bracketed .round)
  have hresult (type : SemanticType) : Piece (code "let func : unsafe extern \"C\" fn" ++
      bracketed .round (commaSeparated (params.map nativeType)) ++
      (code "->" ++ nativeType type) ++
      code "= unsafe \x7b :: core :: mem :: transmute ( func ) \x7d ;") :=
    (hfunction.append (fixed.arrow.append (piece_types type).2.2)).append fixed.transmute
  cases ret with
  | void => exact (hfunction.append .nil).append fixed.transmute
  | int32 => exact hresult .int32
  | int64 => exact hresult .int64
  | string => exact hresult .string
  | handle => exact hresult .handle

theorem piece_callEntry (count : Nat) : Piece (Statement.callEntry count).tokens := by
  have fixed := codePieces
  have hargs := (piece_locals leaf_loweredToken count).bracketed .round
  exact (fixed.letRet.append ((fixed.func.append hargs).bracketed .curly)).append fixed.semicolon

/-- A statement takes the entry point from a field with a name that can be written. -/
def Statement.Named (s : Statement) : Prop :=
  ∀ field symbol, s = .takeEntry field symbol → field.Writable

theorem piece_statement {s : Statement} (h : s.Named) : Piece s.tokens := by
  have fixed := codePieces
  cases s with
  | openArena => exact fixed.openArena
  | down index step => exact piece_down index step
  | takeEntry field symbol => exact piece_takeEntry ((h field symbol rfl).leaf) symbol
  | typeEntry params ret => exact piece_typeEntry params ret
  | callEntry count => exact piece_callEntry count
  | up step => exact fixed.up step (by cases step <;> decide)
  | dropArena => exact fixed.dropArena
  | giveValue => exact fixed.giveValue

/-- The names in a stub can be written. -/
structure Stub.Named (s : Stub) : Prop where
  ident : s.ident.Writable
  body : ∀ t ∈ s.body, t.Named

theorem piece_stub {s : Stub} (h : s.Named) : Piece s.tokens := by
  have fixed := codePieces
  have hdoc := piece_docTokens (" ".toList ++ backquoted s.signature)
  have hname := (hdoc.append fixed.fn).append (.leaf h.ident.leaf)
  have hparams := (fixed.selfParam.append (piece_paramTokens 0 s.params)).bracketed .round
  have hresult := piece_resultType (piece_types s.ret).2.1
  have hbody := (Piece.flatMap fun t ht => piece_statement (h.body t ht)).bracketed .curly
  exact (((hname.append hparams).append fixed.arrow).append hresult).append hbody

/-! ## 4. Items -/

namespace TypedBinding

/-- Every name in the code can be written. -/
structure Named (b : TypedBinding) : Prop where
  type : b.type.Writable
  fields : ∀ f ∈ b.fields, f.Writable
  consts : ∀ c ∈ b.consts, isSymbolName c.name = true
  resolutions : ∀ r ∈ b.resolutions, r.1.Writable
  stubs : ∀ s ∈ b.stubs, s.Named
  nameArms : ∀ arm ∈ b.nameArms, isSymbolName arm.const = true
  callArms : ∀ arm ∈ b.callArms, arm.target.Writable

variable {b : TypedBinding}

theorem piece_typeItem (h : b.Named) : Piece b.typeItem := by
  have fixed := codePieces
  have hdoc := piece_docTokens (" Native bindings for ".toList ++ backquoted b.interface ++ ".")
  have hfields : Piece (b.fields.flatMap fun f =>
      f.token :: .mark ':' false :: supportPath "EntryPoint ,") :=
    .flatMap fun f hf =>
      .cons (h.fields f hf).leaf (.cons (.mark (by decide)) fixed.entryPoint)
  exact (((hdoc.append fixed.lints).append fixed.struct).append (.leaf h.type.leaf)).append
    (hfields.bracketed .curly)

theorem piece_constItem {c : IdConst} (h : isSymbolName c.name = true) : Piece (constItem c) := by
  have fixed := codePieces
  have hdoc := piece_docTokens (" Method id of ".toList ++ backquoted c.symbol ++ ".")
  have hindex : Piece (bracketed .round [.literal (Text.ofNat c.index ++ "u32")]) :=
    (Piece.leaf (.number c.index (by decide))).bracketed .round
  have htype := (((hdoc.append fixed.const).append (.leaf (.word h))).append fixed.colon).append
    fixed.methodIdEquals
  exact ((htype.append fixed.methodIdNew).append hindex).append fixed.semicolon

theorem piece_bindItem (h : ∀ r ∈ b.resolutions, r.1.Writable) : Piece b.bindItem := by
  have fixed := codePieces
  have hdoc : Piece (fixedDoc " Resolve every entry point now, in method-id order.") :=
    piece_fixedDoc (by decide_cbv) (by decide_cbv)
  have hfields : Piece (b.resolutions.flatMap fun r =>
      r.1.token :: .mark ':' false :: (supportPath "resolve_symbol" ++
        bracketed .round (code "lookup ," ++ [.quoted r.2]) ++ code "? ,")) := by
    refine .flatMap fun r hr => .cons (h r hr).leaf (.cons (.mark (by decide)) ?_)
    have hsymbol := (fixed.lookup.append (.leaf (.quoted r.2))).bracketed .round
    exact (fixed.resolveSymbol.append hsymbol).append fixed.triedField
  have hself := (fixed.selfType.append (hfields.bracketed .curly)).bracketed .round
  have hbody := (fixed.ok.append hself).bracketed .curly
  exact ((((hdoc.append fixed.bind).append fixed.lookupParam).append fixed.arrow).append
    (piece_resultType fixed.selfType)).append hbody

theorem piece_ownItem (h : b.Named) : Piece b.ownItem := by
  have fixed := codePieces
  have hconsts := Piece.flatMap fun c hc => piece_constItem (h.consts c hc)
  have hnamesDoc : Piece (fixedDoc " Method names in id order.") :=
    piece_fixedDoc (by decide_cbv) (by decide_cbv)
  have hsymbols : Piece (commaSeparated (b.symbols.map fun s => [.quoted s])) :=
    .commaSeparated (List.forall_mem_map.2 fun s _ => .leaf (.quoted s))
  have hshapesDoc : Piece (fixedDoc " Every distinct call shape used by this interface, sorted.") :=
    piece_fixedDoc (by decide_cbv) (by decide_cbv)
  have hshapes : Piece (commaSeparated (b.shapes.map CallShape.tokens)) :=
    .commaSeparated (List.forall_mem_map.2 fun s _ => piece_callShape s)
  have hstubs := Piece.flatMap fun s hs => piece_stub (h.stubs s hs)
  have hmethods := ((((hconsts.append hnamesDoc).append fixed.methods).append
    (hsymbols.bracketed .square)).append fixed.semicolon).append hshapesDoc
  have hcallShapes := ((((hmethods.append fixed.callShapes).append
    (fixed.callShape.bracketed .square)).append fixed.equalsRef).append
    (hshapes.bracketed .square)).append fixed.semicolon
  have hbody := ((hcallShapes.append (piece_bindItem h.resolutions)).append hstubs).bracketed .curly
  exact ((fixed.lints.append fixed.impl).append (.leaf h.type.leaf)).append hbody

theorem piece_nameArm {arm : NameArm} (h : isSymbolName arm.const = true) :
    Piece (nameArmTokens arm) := by
  have fixed := codePieces
  have hconst := (fixed.selfConst.append (.leaf (.word h))).bracketed .round
  exact .cons (.quoted arm.symbol) ((fixed.armOk.append hconst).append fixed.comma)

/-- A number that counts arguments or methods. -/
theorem leaf_usize (n : Nat) : Leaf (.literal (Text.ofNat n ++ "usize")) :=
  .number n (by decide)

theorem piece_extract (symbol : Text) (e : Extractor) (index : Nat) :
    Piece (extractTokens symbol e index) := by
  have fixed := codePieces
  have hargs := (Piece.cons (.quoted symbol)
    (fixed.commaArgsComma.append (.leaf (leaf_usize index)))).bracketed .round
  have hlet {path : List Token} (hpath : Piece path) :
      Piece (code "let" ++ [argToken index] ++ code "=" ++ path ++ bracketed .round
        (.quoted symbol :: (code ", args ," ++ [.literal (Text.ofNat index ++ "usize")])) ++
        code "? ;") :=
    ((((fixed.letWord.append (.leaf (leaf_argToken index))).append fixed.equals).append
      hpath).append hargs).append fixed.tried
  cases e with
  | int32 => exact hlet fixed.argInt32
  | int64 => exact hlet fixed.argInt64
  | string => exact hlet fixed.argString
  | handle => exact hlet fixed.argHandle

theorem piece_callArm {arm : CallArm} (h : arm.target.Writable) : Piece (callArmTokens arm) := by
  have fixed := codePieces
  have harity := (Piece.cons (.quoted arm.symbol) ((fixed.comma.append
    (.leaf (leaf_usize arm.arity))).append fixed.commaArgs)).bracketed .round
  have hextractors : Piece (arm.extractors.zipIdx.flatMap
      fun x => extractTokens arm.symbol x.1 x.2) :=
    .flatMap fun x _ => piece_extract arm.symbol x.1 x.2
  have hlocals := (piece_locals leaf_argToken arm.extractors.length).bracketed .round
  have hchecks := ((fixed.checkArity.append harity).append fixed.tried).append hextractors
  have hcall := ((hchecks.append fixed.selfStub).append (.leaf h.leaf)).append hlocals
  have hbody := ((hcall.append fixed.map).append (fixed.valueFrom.bracketed .round)).bracketed
    .curly
  exact .cons (leaf_usize arm.index) (fixed.arm.append hbody)

theorem piece_dispatchItem (h : b.Named) : Piece b.dispatchItem := by
  have fixed := codePieces
  have hnames := Piece.flatMap fun arm harm => piece_nameArm (h.nameArms arm harm)
  have hcalls := Piece.flatMap fun arm harm => piece_callArm (h.callArms arm harm)
  have hmethodId := (fixed.matchName.append
    ((hnames.append fixed.unknownName).bracketed .curly)).bracketed .curly
  have hcall := (fixed.matchIndex.append
    ((hcalls.append fixed.unknownId).bracketed .curly)).bracketed .curly
  have hfirst := (fixed.methodIdFn.append (piece_resultType fixed.methodId)).append hmethodId
  have hbody := (((((hfirst.append fixed.callFn).append fixed.callParams).append
    fixed.arrow).append (piece_resultType fixed.value)).append hcall).bracketed .curly
  exact (((fixed.lints.append fixed.impl).append fixed.implFor).append
    (.leaf h.type.leaf)).append hbody

theorem piece_items (h : b.Named) : ∀ item ∈ b.items, Piece item := by
  simp only [items, List.forall_mem_cons]
  exact ⟨piece_typeItem h, piece_ownItem h, piece_dispatchItem h, List.forall_mem_nil _⟩

end TypedBinding

theorem takeEntry_not_mem_downStatements (field : Ident) (symbol : Text) (index : Nat)
    (types : List SemanticType) :
    Statement.takeEntry field symbol ∉ downStatements index types := by
  induction types generalizing index with
  | nil => exact List.not_mem_nil
  | cons type types ih =>
    rw [downStatements, List.mem_cons, not_or]
    refine ⟨?_, ih (index + 1)⟩
    rintro ⟨⟩

/-- The names in the code of a plan can be written. -/
theorem named_of_typedBinding {p : Plan} {b : TypedBinding} (hp : p.WellFormed)
    (hb : typedBinding p = .ok b) : b.Named := by
  obtain ⟨type, names, htype, hnames, hofPlan⟩ := typedBinding_eq_ok_iff.1 hb
  obtain ⟨rfl, hfree, -⟩ := methodNames_eq_ok_iff.1 hnames
  have h := generated_of_typedBinding hp hb
  have hident {m : MethodPlan} (hm : m ∈ p.methods) : (identOf m.symbol).Writable := by
    refine writable_identOf (hp.named m hm) fun hname => ?_
    exact hfree m.symbol (List.mem_map_of_mem hm) (.inl hname)
  have hconst {m : MethodPlan} (hm : m ∈ p.methods) : isSymbolName (p.namesOf m).const = true :=
    (writable_constName (hp.named m hm) (List.mem_map_of_mem hm)).symbol
  constructor
  · rw [hofPlan]
    exact writable_of_typeIdent htype
  · rw [hofPlan]
    intro f hf
    obtain ⟨names, hnames, rfl⟩ := List.mem_map.1 hf
    obtain ⟨symbol, hsymbol, rfl⟩ := List.mem_map.1 hnames
    obtain ⟨m, hm, rfl⟩ := List.mem_map.1 hsymbol
    exact hident hm
  · rw [h.consts]
    exact List.forall_mem_map.2 fun m hm => hconst hm
  · rw [h.resolutions]
    exact List.forall_mem_map.2 fun m hm => hident hm
  · rw [h.stubs]
    refine List.forall_mem_map.2 fun m hm => ⟨hident hm, fun t ht field symbol heq => ?_⟩
    subst heq
    simp only [Stub.ofMethod, List.mem_cons, List.mem_append, reduceCtorEq, false_or,
      Statement.takeEntry.injEq, List.not_mem_nil, or_false] at ht
    rcases ht with hdown | ⟨rfl, -⟩
    · exact (takeEntry_not_mem_downStatements _ _ 0 m.params hdown).elim
    · exact hident hm
  · rw [h.nameArms]
    exact List.forall_mem_map.2 fun m hm => hconst hm
  · rw [h.callArms]
    exact List.forall_mem_map.2 fun m hm => hident hm

/-! ## 5. Entry-point modules -/

/-- The names in the code can be written. -/
structure OnceCode.Named (c : OnceCode) : Prop where
  cell : isSymbolName c.cell = true
  init : isSymbolName c.init.name = true
  access : isSymbolName c.access.name = true
  askedCell : isSymbolName c.access.cell = true
  askedInit : isSymbolName c.access.init = true

theorem OnceCode.named_standard : OnceCode.standard.Named := by
  constructor <;> decide +kernel

namespace EntryModule

/-- Every name in the code can be written. Unlike other names, that of the module may be a word that
is no name, but it is a symbol name all the same. -/
structure Named (m : EntryModule) : Prop where
  type : m.type.Writable
  symbol : isSymbolName m.module.name = true
  raw : m.module.raw = true → m.module.name ∈ keywords
  once : m.once.Named
  functions : ∀ f ∈ m.functions, f.ident.Writable ∧ isSymbolName f.access = true ∧ f.target.Writable

theorem piece_functionItem {f : EntryFunction} (h : f.ident.Writable)
    (haccess : isSymbolName f.access = true) (htarget : f.target.Writable) :
    Piece (functionItem f) := by
  have fixed := codePieces
  have hdoc := piece_docTokens (" ".toList ++ backquoted f.signature)
  have hparams := (piece_paramTokens 0 f.params).bracketed .round
  have hlocals := (piece_locals leaf_argToken f.passed).bracketed .round
  have hbody := (Piece.cons (.word haccess)
    ((fixed.askBinding.append (.leaf htarget.leaf)).append hlocals)).bracketed .curly
  exact (((((hdoc.append fixed.fn).append (.leaf h.leaf)).append hparams).append
    fixed.arrow).append (piece_resultType (piece_types f.ret).2.1)).append hbody

section Items

variable {m : EntryModule}

theorem piece_siblingType (h : m.type.Writable) : Piece m.siblingType :=
  codePieces.parent.append (.leaf h.leaf)

theorem piece_loadedType : Piece loadedType := piece_resultType codePieces.loaded

theorem piece_loadedItem (h : m.type.Writable) : Piece m.loadedItem := by
  have fixed := codePieces
  have hfields := (((fixed.libraryField.append fixed.sharedLookup).append
    fixed.bindingField).append (piece_siblingType h)).append fixed.comma
  exact fixed.loadedStruct.append (hfields.bracketed .curly)

theorem piece_cellItem (h : isSymbolName m.once.cell = true) : Piece m.cellItem := by
  have fixed := codePieces
  have htype := ((((fixed.staticItem.append (.leaf (.word h))).append fixed.colon).append
    fixed.cell).append fixed.less).append piece_loadedType
  exact ((htype.append fixed.cellEnd).append fixed.cell).append fixed.cellNew

theorem piece_initTokens (h : m.type.Writable) (hresolver : Piece m.resolver) (s : InitStatement) :
    Piece (m.initTokens s) := by
  have fixed := codePieces
  cases s with
  | resolve =>
    exact (((fixed.letLibrary.append fixed.sharedLookup).append fixed.equals).append
      (hresolver.bracketed .round)).append fixed.tried
  | bind => exact (fixed.letBinding.append (piece_siblingType h)).append fixed.bindLibrary
  | giveLoaded =>
    exact fixed.ok.append
      ((fixed.loaded.append (fixed.loadedFields.bracketed .curly)).bracketed .round)

theorem piece_initItem (h : m.Named) (hresolver : Piece m.resolver) : Piece m.initItem := by
  have fixed := codePieces
  have hbody := Piece.flatMap fun s (_ : s ∈ m.once.init.body) =>
    piece_initTokens h.type hresolver s
  exact (((fixed.privateFn.append (.leaf (.word h.once.init))).append fixed.noParams).append
    piece_loadedType).append (hbody.bracketed .curly)

theorem piece_accessItem (h : m.Named) : Piece m.accessItem := by
  have fixed := codePieces
  have hdoc : Piece (fixedDoc " The bound interface. A failed bind is returned to every caller.") :=
    piece_fixedDoc (by decide_cbv) (by decide_cbv)
  have harms := Piece.flatMap fun arm (_ : arm ∈ m.once.access.arms) =>
    fixed.arms arm (by cases arm <;> decide)
  have hresult := piece_resultType (fixed.static.append (piece_siblingType h.type))
  have hask := ((fixed.matchWord.append (.leaf (.word h.once.askedCell))).append
    fixed.getOrInit).append ((Piece.leaf (.word h.once.askedInit)).bracketed .round)
  have hsignature := (((hdoc.append fixed.fn).append (.leaf (.word h.once.access))).append
    fixed.noParams).append hresult
  exact hsignature.append ((hask.append (harms.bracketed .curly)).bracketed .curly)

/-- The code of a module is made of tokens if its resolver is. -/
theorem piece_item (h : m.Named) (hresolver : Piece m.resolver) : Piece m.item := by
  have fixed := codePieces
  have hdoc := piece_docTokens
    (" Process-wide ".toList ++ backquoted m.interface ++ " binding, resolved on first use.")
  have hfunctions := Piece.flatMap fun f hf => (piece_functionItem (h.functions f hf).1
    (h.functions f hf).2.1 (h.functions f hf).2.2)
  have hbinding := (((piece_loadedItem h.type).append (piece_cellItem h.once.cell)).append
    (piece_initItem h hresolver)).append (piece_accessItem h)
  exact (((hdoc.append fixed.lints).append fixed.mod).append
    (.leaf (leaf_symbol h.symbol h.raw))).append ((hbinding.append hfunctions).bracketed .curly)

end Items

end EntryModule

/-- The names in the module of a plan can be written. -/
theorem named_of_entryModule {p : Plan} (hp : p.WellFormed) {resolver : Text} {m : EntryModule}
    (h : entryModule p resolver = .ok m) : m.Named := by
  obtain ⟨b, hb, hbeside⟩ := exists_beside_of_entryModule hp h
  obtain ⟨type, module, names, tokens, htype, hmodule, -, -, -, -, rfl⟩ := entryModule_eq_ok_iff.1 h
  have hnamed := named_of_typedBinding hp hb
  obtain ⟨hsymbol, rfl⟩ : isSymbolName (snakeCase p.interface) = true ∧
      module = identOf (snakeCase p.interface) := by
    rw [moduleIdent] at hmodule
    split at hmodule
    · next hsymbol => exact ⟨hsymbol, (Except.ok.inj hmodule).symm⟩
    · cases hmodule
  refine ⟨writable_of_typeIdent htype, hsymbol, of_decide_eq_true,
    OnceCode.named_standard, fun f hf => ?_⟩
  · obtain ⟨plan, hplan, rfl⟩ := List.mem_map.1 (hbeside.functions ▸ hf)
    have hident := (hnamed.stubs _ (hbeside.generated.stubs ▸ List.mem_map_of_mem hplan)).ident
    exact ⟨hident, OnceCode.named_standard.access, hident⟩

theorem piece_path {names : List Text} (h : ∀ w ∈ names, isSymbolName w = true) :
    Piece (names.flatMap Grammar.rootedSegment) := by
  have hcolons : Piece [.mark ':' true, .mark ':' false] := .of_readable (by decide)
  exact .flatMap fun w hw => hcolons.append (.leaf (.word (h w hw)))

/-- What is printed for the resolver of a library is made of tokens. -/
theorem piece_resolverCall (spec : LibrarySpec) : Piece (resolverCall false spec) := by
  have hspec : Piece (specificationTokens spec) := by
    cases spec with
    | currentProcess => exact (piece_path (by decide_cbv)).append .nil
    | candidates names =>
      have hnames : Piece (Token.literals names) :=
        .commaSeparated (List.forall_mem_map.2 fun name _ => .leaf (.encoded name))
      exact (piece_path (by decide_cbv)).append ((hnames.bracketed .square).bracketed .round)
  exact (piece_path (by decide_cbv)).append ((hspec.cons (.mark (by decide))).bracketed .round)

/-- It is a resolver itself, and stays as it is. -/
theorem resolverTokens_render (spec : LibrarySpec) :
    resolverTokens (Token.render (resolverCall false spec)) = .ok (resolverCall false spec) := by
  have hlex := (piece_resolverCall spec).lex_render (by rintro ⟨⟩)
  have hparse := IsOperand.parse?_eq (isOperand_resolverCall false spec) (by decide)
  rw [resolverTokens, hlex, Option.bind_some, hparse, orError]

theorem EntryModule.piece_resolver {p : Plan} {resolver : Text} {m : EntryModule}
    (hm : entryModule p resolver = .ok m) {spec : LibrarySpec}
    (h : resolverTokens resolver = .ok (resolverCall false spec)) : Piece m.resolver := by
  rw [← Except.ok.inj (h.symm.trans (resolver_of_entryModule hm))]
  exact piece_resolverCall spec

/-! ## 6. Files -/

namespace Token

variable {pending : List Bracket} {rest : Text}

theorem lineEnd_append {line : Text} (hfeed : '\n' ∉ line) (hreturn : '\r' ∉ line) (rest : Text) :
    lineEnd (line ++ '\n' :: rest) = (line, '\n' :: rest) := by
  induction line with
  | nil => rfl
  | cons c line ih =>
    rw [List.mem_cons, not_or] at hfeed hreturn
    rw [List.cons_append, lineEnd, ih hfeed.2 hreturn.2]
    · exact fun heq => hfeed.1 heq.symm
    · exact fun _ heq => absurd heq.symm hreturn.1

/-- A line with a comment that documents nothing. -/
theorem lexes_comment {line : Text} (hfeed : '\n' ∉ line) (hreturn : '\r' ∉ line) :
    Lexes ("// ".toList ++ line ++ "\n") [] pending pending rest := by
  have hshape : "// ".toList ++ line ++ "\n" ++ rest =
      '/' :: '/' :: ' ' :: (line ++ '\n' :: rest) := by simp
  have hline : plainComment? ('/' :: '/' :: ' ' :: (line ++ '\n' :: rest)) =
      some ('\n' :: rest) := by
    have hend := @lineEnd_append (' ' :: line) (by simpa using hfeed) (by simpa using hreturn) rest
    rw [List.cons_append] at hend
    rw [plainComment?, hend]
  refine ⟨2, by simp, fun n => ?_⟩
  have hblank : lexFrom (n + 1) pending ('\n' :: rest) = lexFrom n pending rest := by
    simp [lexFrom, isTokenBlank, isBlank]
  have hdoc : docComment? ('/' :: '/' :: ' ' :: (line ++ '\n' :: rest)) = none := rfl
  rw [hshape, lexFrom, hdoc, hline]
  simp [isTokenBlank, isBlank, hblank]

theorem lexes_lines {items : List (List Token)} (h : ∀ item ∈ items, Piece item) :
    Lexes (items.flatMap itemLines) items.flatten pending pending rest := by
  induction items generalizing rest with
  | nil => exact ⟨0, Nat.le_refl 0, fun n => by simp⟩
  | cons item items ih =>
    obtain ⟨hitem, hitems⟩ := List.forall_mem_cons.1 h
    have hfeed {rest : Text} : Lexes ['\n'] [] pending pending rest :=
      ⟨1, Nat.le_refl 1, fun n => by simp [lexFrom, isTokenBlank, isBlank]⟩
    have hedge : Edge (['\n'] ++ (items.flatMap itemLines ++ rest)) :=
      .inr ⟨'\n', by decide, _, rfl⟩
    have hline := hfeed.append (((hitem pending).lexes hedge).append hfeed)
    have hall := hline.append (ih hitems)
    rwa [List.append_nil, List.nil_append] at hall

end Token

/-- The file of a typed binding is read as its items. -/
theorem lex_renderFile {interface : Text} (hname : isSymbolName interface = true)
    {items : List (List Token)} (h : ∀ item ∈ items, Piece item) :
    Token.lex (renderFile interface items) = some items.flatten := by
  have hheader : fileHeader =
      "// ".toList ++ "@generated by natbind-codegen. Do not edit.".toList := by
    decide_cbv
  have hshape : renderFile interface items =
      ("// ".toList ++ "@generated by natbind-codegen. Do not edit.".toList ++ "\n") ++
      (("// ".toList ++ ("interface: ".toList ++ interface) ++ "\n") ++
        items.flatMap itemLines) := by
    rw [renderFile_eq_append, renderFile, hheader, List.flatMap_nil, List.append_nil]
    simp
  have hparts := (isSymbolName_iff_head?.1 hname).2
  have hinterface {c : Char} (hc : isSymbolPart c = false) (hfixed : c ∉ "interface: ".toList) :
      c ∉ "interface: ".toList ++ interface := by
    refine fun hmem => (List.mem_append.1 hmem).elim hfixed fun hmem => ?_
    rw [hparts c hmem] at hc
    cases hc
  have hfirst {rest : Text} := @Token.lexes_comment [] rest
    "@generated by natbind-codegen. Do not edit." (by decide_cbv) (by decide_cbv)
  have hsecond {rest : Text} := @Token.lexes_comment [] rest _
    (hinterface (by decide) (by decide)) (hinterface (by decide) (by decide))
  have hlines := @Token.lexes_lines [] [] items h
  rw [hshape]
  exact (hfirst.append (hsecond.append hlines)).lex_eq (by simp)

/-- The source file of a typed binding is made of tokens, which are those of the items. -/
theorem lex_typedBinding {p : Plan} (hp : p.WellFormed) {b : TypedBinding}
    (h : typedBinding p = .ok b) :
    Token.lex (renderFile p.interface b.items) = some b.items.flatten := by
  obtain ⟨type, _, htype, -, -⟩ := typedBinding_eq_ok_iff.1 h
  exact lex_renderFile (typeIdent_eq_ok_iff.1 htype).1
    (TypedBinding.piece_items (named_of_typedBinding hp h))

/-- So is the source file of an interface. -/
theorem lex_generate {d : Description} {file : Text} (h : generate d = .ok file) :
    ∃ p b, Plan.analyze d = .ok p ∧ typedBinding p = .ok b ∧
      file = renderFile p.interface b.items ∧ Token.lex file = some b.items.flatten := by
  obtain ⟨p, b, hp, hb, rfl⟩ := generate_eq_ok_iff.1 h
  exact ⟨p, b, hp, hb, rfl, lex_typedBinding (Plan.analyze_wellFormed hp) hb⟩

/-- The source file with the entry-point module is made of tokens if the resolver is. -/
theorem lex_generateEntry {d : Description} {resolver file : Text}
    (h : generateEntry d resolver = .ok file) :
    ∃ p m, Plan.analyze d = .ok p ∧ entryModule p resolver = .ok m ∧
      file = renderFile p.interface [m.item] ∧
      (Piece m.resolver → Token.lex file = some m.item) := by
  obtain ⟨p, m, hp, hm, rfl⟩ := generateEntry_eq_ok_iff.1 h
  obtain ⟨type, _, _, _, htype, -⟩ := entryModule_eq_ok_iff.1 hm
  have hnamed := named_of_entryModule (Plan.analyze_wellFormed hp) hm
  refine ⟨p, m, hp, hm, rfl, fun hresolver => ?_⟩
  have hlex := lex_renderFile (typeIdent_eq_ok_iff.1 htype).1
    (List.forall_mem_singleton.2 (EntryModule.piece_item hnamed hresolver))
  rwa [List.flatten_singleton] at hlex

/-- So is the file with both. -/
theorem lex_generateBoth {d : Description} {resolver file : Text}
    (h : generateBoth d resolver = .ok file) :
    ∃ p b m, Plan.analyze d = .ok p ∧ typedBinding p = .ok b ∧ entryModule p resolver = .ok m ∧
      file = renderFile p.interface (b.items ++ [m.item]) ∧
      (Piece m.resolver → Token.lex file = some (b.items.flatten ++ m.item)) := by
  obtain ⟨p, b, m, hp, hb, hm, rfl⟩ := generateBoth_eq_ok_iff.1 h
  obtain ⟨type, _, _, _, htype, -⟩ := entryModule_eq_ok_iff.1 hm
  have hwell := Plan.analyze_wellFormed hp
  refine ⟨p, b, m, hp, hb, hm, rfl, fun hresolver => ?_⟩
  have hlex := lex_renderFile (typeIdent_eq_ok_iff.1 htype).1 (List.forall_mem_append.2
    ⟨TypedBinding.piece_items (named_of_typedBinding hwell hb), List.forall_mem_singleton.2
      (EntryModule.piece_item (named_of_entryModule hwell hm) hresolver)⟩)
  rwa [List.flatten_append, List.flatten_singleton] at hlex

end ForeignCall
