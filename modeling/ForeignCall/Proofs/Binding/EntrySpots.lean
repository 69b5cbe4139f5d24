import ForeignCall.Proofs.Binding.Spots

/-!
# Words in entry-point modules

What the code of an entry-point module names, and which of the functions, constructors and statics
that have a name without a path it uses. The names of methods come in as names of functions and as
members of the binding, and the interface's name behind `super` only.

* `EntryModule.takes_item`: the spots of a module, around those of its resolver.
-/

namespace ForeignCall

/-- The functions, constructors and statics that have a name without a path in the module, apart
from its free functions. -/
def valueNames : List Text :=
  ["binding", "__init", "__BINDING", "Some", "None", "Ok", "Err", "drop"]

/-! ## 1. Fixed pieces -/

/-- The spots of the fixed pieces of an entry-point module. -/
@[mk_iff]
structure EntryPieces : Prop where
  comma : Spotless valueNames (code ",")
  less : Spotless valueNames (code "<")
  equals : Spotless valueNames (code "=")
  colon : Spotless valueNames (code ":")
  arrow : Spotless valueNames (code "->")
  tried : Spotless valueNames (code "? ;")
  noParams : Spotless valueNames (code "( ) ->")
  doc : Spotless valueNames (code "doc =")
  lints : Spotless valueNames lintTokens
  bindingDoc : Spotless valueNames
    (fixedDoc " The bound interface. A failed bind is returned to every caller.")
  bindResult : Spotless valueNames (supportPath "BindResult <")
  cell : Spotless valueNames (supportPath "__private :: OnceCell")
  lookup : Spotless valueNames EntryModule.sharedLookup
  loaded : Spotless valueNames (code "__Loaded")
  libraryField : Spotless valueNames (code "_library :")
  bindingField : Spotless valueNames (code ", binding :")
  cellEnd : Spotless valueNames (code ", > =")
  cellNew : Spotless valueNames (code ":: new ( ) ;")
  letLibrary : Spotless valueNames (code "let library :")
  bindLibrary : Spotless valueNames (code ":: bind ( & * library ) ? ;")
  static : Spotless valueNames (code "& 'static")
  type : ∀ type ∈ SemanticType.all,
    Spotless valueNames (managedParam type) ∧ Spotless valueNames (managedReturn type)
  mod : Takes valueNames .free (code "pub mod") [] (.named "mod")
  fn : Takes valueNames .free (code "fn") [] (.named "fn")
  pubFn : Takes valueNames .free (code "pub fn") [] (.named "fn")
  cellStatic : Takes valueNames .free (code "static") [] (.named "static")
  parent : Takes valueNames .free (code "super ::") [] .inner
  loadedStruct : Takes valueNames .free (code "struct __Loaded")
    [⟨.named "struct", "__Loaded"⟩] .free
  letBinding : Takes valueNames .free (code "let binding =") [.bare "binding"] .free
  loadedFields : Takes valueNames .free (code "_library : library , binding ,")
    [.bare "binding"] .free
  matchInit : Takes valueNames .free (code "match" ++ [.word "__BINDING"] ++
    code ". get_or_init" ++ bracketed .round [.word "__init"])
    [.bare "__BINDING", .bare "__init"] .free
  okArm : Takes valueNames .free (EntryModule.armTokens .loaded) [.bare "Ok", .bare "Ok"] .free
  errArm : Takes valueNames .free (EntryModule.armTokens .failed) [.bare "Err", .bare "Err"] .free
  callStub : Takes valueNames .free (.word "binding" :: code "( ) ? .") [.bare "binding"] .inner

theorem entryPieces : EntryPieces := by
  rw [entryPieces_iff]
  simp only [lintTokens, fixedDoc, supportPath, EntryModule.sharedLookup, EntryModule.armTokens,
    SemanticType.all, managedParam, managedReturn, optionType, List.forall_mem_cons,
    List.not_mem_nil, false_imp_iff, implies_true, and_true, takes_iff, ← Bool.and_eq_true]
  repeat rw [String.toList_ofList]
  decide +kernel

/-- Before the brackets of a call or a pattern it stands for itself. -/
theorem reads_ok : Reads valueNames (code "Ok") [.bare "Ok"] := by decide +kernel

theorem noLocals_valueNames : NoLocals valueNames := by
  unfold NoLocals valueNames
  decide

/-! ## 2. Items -/

namespace EntryModule

/-- The module has the code for its binding that every module has. -/
structure Regular (m : EntryModule) : Prop where
  once : m.once = .standard
  access : ∀ f ∈ m.functions, f.access = "binding"

/-- The name of a free function, and the call of the binding in it. -/
def functionSpots (f : EntryFunction) : List Spot :=
  [⟨.named "fn", f.ident.text⟩, .bare "binding"]

theorem takes_functionItem {f : EntryFunction} (h : f.access = "binding") :
    Takes valueNames .free (functionItem f) (functionSpots f) .free := by
  have fixed := entryPieces
  have hmem : ∀ type, type ∈ SemanticType.all := fun type => by cases type <;> decide
  have hdoc := spotless_docTokens fixed.doc (" ".toList ++ backquoted f.signature)
  have hparams := (reads_paramTokens (fun type => (fixed.type type (hmem type)).1.reads) 0
    f.params).bracketed (.free) .round
  have hresult := takes_resultType fixed.bindResult (fixed.type f.ret (hmem f.ret)).2.reads
  have hlocals := (reads_locals (spotless_argToken noLocals_valueNames) f.passed).bracketed
    .free .round
  have hbody := ((fixed.callStub.append (.member f.target.text)).append hlocals).reads.bracketed
    .free .curly
  have hall := (((((hdoc.append fixed.pubFn).append (.name "fn" f.ident.text)).append
    hparams).append fixed.arrow).append hresult).append hbody
  rw [functionItem, h]
  exact hall.of_eq (by simp [functionSpots])

section Items

variable (m : EntryModule)

theorem takes_siblingType : Spotless valueNames m.siblingType :=
  entryPieces.parent.append (.member m.type.text)

theorem takes_loadedType : Spotless valueNames loadedType :=
  takes_resultType entryPieces.bindResult entryPieces.loaded.reads

theorem takes_loadedItem :
    Takes valueNames .free m.loadedItem [⟨.named "struct", "__Loaded"⟩] .free := by
  have fixed := entryPieces
  have hfields := ((((fixed.libraryField.append fixed.lookup).append fixed.bindingField).append
    m.takes_siblingType).append fixed.comma).reads.bracketed .free .curly
  exact fixed.loadedStruct.append hfields

theorem takes_cellItem :
    Takes valueNames .free m.cellItem [⟨.named "static", m.once.cell⟩] .free := by
  have fixed := entryPieces
  have hname := (fixed.cellStatic.append (.name "static" m.once.cell)).append fixed.colon
  have htype := ((hname.append fixed.cell).append fixed.less).append takes_loadedType
  exact (((htype.append fixed.cellEnd).append fixed.cell).append fixed.cellNew).of_eq (by simp)

/-- The names that a statement of the function that makes the binding uses. -/
def initSpots : InitStatement → List Spot
  | .resolve => Site.free.spots valueNames false m.resolver
  | .bind => [.bare "binding"]
  | .giveLoaded => [.bare "Ok", .bare "binding"]

theorem takes_initTokens (s : InitStatement) :
    Takes valueNames .free (m.initTokens s) (m.initSpots s) .free := by
  have fixed := entryPieces
  cases s with
  | resolve =>
    have hlibrary := ((fixed.letLibrary.append fixed.lookup).append fixed.equals).append
      (.group .free .round m.resolver)
    exact (hlibrary.append fixed.tried).of_eq (by simp [initSpots])
  | bind => exact (fixed.letBinding.append m.takes_siblingType).append fixed.bindLibrary
  | giveLoaded =>
    have hvalue := (fixed.loaded.append
      (fixed.loadedFields.reads.bracketed .free .curly)).reads.bracketed .free .round
    exact reads_ok.append hvalue fun _ => rfl

theorem takes_initItem : Takes valueNames .free m.initItem
    (⟨.named "fn", m.once.init.name⟩ :: m.once.init.body.flatMap m.initSpots) .free := by
  have fixed := entryPieces
  have hbody := Takes.flatMap fun s (_ : s ∈ m.once.init.body) => m.takes_initTokens s
  exact ((((fixed.fn.append (.name "fn" m.once.init.name)).append fixed.noParams).append
    takes_loadedType).append (hbody.reads.bracketed .free .curly)).of_eq (by simp)

/-- The names that an arm of the access function uses. -/
def armSpots : OutcomeArm → List Spot
  | .loaded => [.bare "Ok", .bare "Ok"]
  | .failed => [.bare "Err", .bare "Err"]

theorem takes_armTokens (arm : OutcomeArm) :
    Takes valueNames .free (armTokens arm) (armSpots arm) .free := by
  cases arm with
  | loaded => exact entryPieces.okArm
  | failed => exact entryPieces.errArm

theorem takes_accessItem (h : m.once = .standard) : Takes valueNames .free m.accessItem
    [⟨.named "fn", "binding"⟩, .bare "__BINDING", .bare "__init", .bare "Ok", .bare "Ok",
      .bare "Err", .bare "Err"] .free := by
  have fixed := entryPieces
  have hresult := takes_resultType fixed.bindResult (fixed.static.append m.takes_siblingType).reads
  have harms := Takes.flatMap fun arm (_ : arm ∈ OnceCode.standard.access.arms) =>
    takes_armTokens arm
  have hbody := (fixed.matchInit.append (harms.reads.bracketed .free .curly)).reads.bracketed
    .free .curly
  rw [accessItem, h]
  exact ((((fixed.bindingDoc.append fixed.pubFn).append (.name "fn" "binding")).append
    fixed.noParams).append hresult).append hbody

end Items

/-- The names of the module and its items, the names it uses, and the spots of the resolver. -/
def spots (m : EntryModule) : List Spot :=
  [⟨.named "mod", m.module.text⟩, ⟨.named "struct", "__Loaded"⟩, ⟨.named "static", "__BINDING"⟩,
    ⟨.named "fn", "__init"⟩] ++ Site.free.spots valueNames false m.resolver ++
  [.bare "binding", .bare "Ok", .bare "binding", ⟨.named "fn", "binding"⟩, .bare "__BINDING",
    .bare "__init", .bare "Ok", .bare "Ok", .bare "Err", .bare "Err"] ++
  m.functions.flatMap functionSpots

theorem takes_item {m : EntryModule} (h : m.Regular) :
    Takes valueNames .free m.item m.spots .free := by
  have fixed := entryPieces
  have hdoc := spotless_docTokens fixed.doc (" Process-wide ".toList ++ backquoted m.interface ++
    " binding, resolved on first use.")
  have hfunctions := Takes.flatMap fun f (hf : f ∈ m.functions) =>
    takes_functionItem (h.access f hf)
  have hbody := ((((m.takes_loadedItem.append m.takes_cellItem).append m.takes_initItem).append
    (m.takes_accessItem h.once)).append hfunctions).reads.bracketed .free .curly
  have hall := (((hdoc.append fixed.lints).append fixed.mod).append
    (.name "mod" m.module.text)).append hbody
  obtain ⟨hcell, hinit, hstatements⟩ : m.once.cell = "__BINDING" ∧ m.once.init.name = "__init" ∧
      m.once.init.body.flatMap m.initSpots = Site.free.spots valueNames false m.resolver ++
        [.bare "binding", .bare "Ok", .bare "binding"] := by
    rw [h.once]
    exact ⟨rfl, rfl, rfl⟩
  refine hall.of_eq ?_
  rw [hcell, hinit, hstatements]
  simp only [spots, List.append_assoc, List.nil_append, List.cons_append]

end EntryModule
end ForeignCall
