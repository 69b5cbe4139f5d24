import ForeignCall.Proofs.Binding.ModuleName

/-!
# Names in scope

Generated code uses some names without a path: built-in types in the items of a typed binding, and
constructors and items of its own in an entry-point module. What is generated for a description
stands beside them, so a type or a free function of one of these names takes the place of what the
code means.

* `mem_usedTypes_iff`: the built-in types that a typed binding uses.
* `EntryModule.Regular.mem_standing_iff`: the names that an entry-point module uses.
* `scope_settled`: which generated names are among them.
-/

namespace ForeignCall

/-! ## 1. Words that stand for themselves -/

/-- The words of `names` that stand for themselves in code, without a path. -/
def standing (names : List Text) (ts : List Token) : List Text :=
  ((Site.free.spots names false ts).filter (·.site = .free)).map Spot.word

theorem mem_standing_iff {names : List Text} {ts : List Token} {w : Text} :
    w ∈ standing names ts ↔ .bare w ∈ Site.free.spots names false ts := by
  rw [standing, List.mem_map]
  constructor
  · rintro ⟨⟨site, word⟩, hmem, rfl⟩
    obtain ⟨hmem, hsite⟩ := List.mem_filter.1 hmem
    rw [decide_eq_true_eq] at hsite
    cases hsite
    exact hmem
  · exact fun hmem => ⟨_, List.mem_filter.2 ⟨hmem, rfl⟩, rfl⟩

/-! ## 2. Types in typed bindings -/

/-- The built-in type of a number. -/
def SemanticType.numberType? : SemanticType → Option Text
  | int32 => some "i32"
  | int64 => some "i64"
  | _ => none

/-- The method takes or gives a value of the type. -/
def MethodPlan.Uses (m : MethodPlan) (type : SemanticType) : Prop :=
  type ∈ m.params ∨ type = m.ret

/-- The methods of the plan decide which built-in types are used: `str` always, and the type of a
number if a method takes or gives it. -/
def Plan.UsesType (p : Plan) (w : Text) : Prop :=
  w = "str" ∨ ∃ m ∈ p.methods, ∃ type, m.Uses type ∧ type.numberType? = some w

/-- The built-in types that the items of a typed binding use. -/
def TypedBinding.usedTypes (b : TypedBinding) : List Text := b.items.flatMap (standing builtinTypes)

section Types

variable {w : Text} {type : SemanticType}

theorem bare_mem_nativeSpots : .bare w ∈ type.nativeSpots ↔ type.numberType? = some w := by
  cases type <;> simp [SemanticType.nativeSpots, SemanticType.numberType?, Spot.bare, eq_comm]

theorem bare_mem_managedSpots : .bare w ∈ type.managedSpots ↔
    type.numberType? = some w ∨ (type = .string ∧ w = "str") := by
  cases type <;> simp [SemanticType.managedSpots, SemanticType.numberType?, Spot.bare, eq_comm]

theorem returnSpots_eq_nativeSpots (type : SemanticType) : type.returnSpots = type.nativeSpots := by
  cases type <;> rfl

theorem spots_downStatements (index : Nat) (types : List SemanticType) :
    (downStatements index types).flatMap Statement.spots = [] := by
  induction types generalizing index with
  | nil => rfl
  | cons type types ih => rw [downStatements, List.flatMap_cons, ih]; rfl

/-- A stub uses the number types of its method, and `str` for its strings. -/
theorem bare_mem_stub {m : MethodPlan} {names : MethodNames} :
    .bare w ∈ (Stub.ofMethod m names).spots ↔
      (∃ type, m.Uses type ∧ type.numberType? = some w) ∨ (.string ∈ m.params ∧ w = "str") := by
  have hbody : (Stub.ofMethod m names).body.flatMap Statement.spots =
      m.params.flatMap SemanticType.nativeSpots ++ m.ret.nativeSpots := by
    simp [Stub.ofMethod, spots_downStatements, Statement.spots]
  have hname : Spot.bare w ≠ ⟨.named "fn", (Stub.ofMethod m names).ident.text⟩ := by
    simp [Spot.bare]
  rw [Stub.spots, hbody, List.mem_cons, or_iff_right hname, returnSpots_eq_nativeSpots]
  simp only [Stub.ofMethod, List.mem_append, List.mem_flatMap, bare_mem_managedSpots,
    bare_mem_nativeSpots, MethodPlan.Uses]
  constructor
  · rintro ((⟨type, hmem, hword | ⟨rfl, hw⟩⟩ | hret) | ⟨type, hmem, hword⟩ | hret)
    · exact .inl ⟨type, .inl hmem, hword⟩
    · exact .inr ⟨hmem, hw⟩
    · exact .inl ⟨m.ret, .inr rfl, hret⟩
    · exact .inl ⟨type, .inl hmem, hword⟩
    · exact .inl ⟨m.ret, .inr rfl, hret⟩
  · rintro (⟨type, hmem | rfl, hword⟩ | ⟨hmem, hw⟩)
    · exact .inl (.inl ⟨type, hmem, .inl hword⟩)
    · exact .inl (.inr hword)
    · exact .inl (.inl ⟨.string, hmem, .inr ⟨rfl, hw⟩⟩)

theorem mem_usedTypes_iff {p : Plan} {b : TypedBinding} (h : Generated p b) :
    w ∈ b.usedTypes ↔ p.UsesType w := by
  have htype : Spot.bare w ∉ ([⟨.named "struct", b.type.text⟩] : List Spot) := by
    simp [Spot.bare]
  have hown : Spot.bare w ∈ b.ownSpots ↔ w = "str" ∨ ∃ s ∈ b.stubs, Spot.bare w ∈ s.spots := by
    simp [TypedBinding.ownSpots, Spot.bare]
  have hdispatch : Spot.bare w ∈ ([⟨.named "for", b.type.text⟩, ⟨.named "fn", "method_id"⟩,
      .bare "str", ⟨.named "fn", "call"⟩] : List Spot) ↔ w = "str" := by simp [Spot.bare]
  have hstubs : (∃ s ∈ b.stubs, Spot.bare w ∈ s.spots) ↔ ∃ m ∈ p.methods,
      (∃ type, m.Uses type ∧ type.numberType? = some w) ∨ (.string ∈ m.params ∧ w = "str") := by
    simp only [h.stubs, List.mem_map, exists_exists_and_eq_and, bare_mem_stub]
  rw [TypedBinding.usedTypes, TypedBinding.items, List.flatMap_cons, List.flatMap_cons,
    List.flatMap_cons, List.flatMap_nil, List.append_nil, List.mem_append, List.mem_append,
    mem_standing_iff, mem_standing_iff, mem_standing_iff, b.takes_typeItem.spots,
    b.takes_ownItem.spots, b.takes_dispatchItem.spots, hown, hdispatch, hstubs, or_iff_right htype,
    Plan.UsesType]
  constructor
  · rintro ((hw | ⟨m, hm, hword | ⟨_, hw⟩⟩) | hw)
    · exact .inl hw
    · exact .inr ⟨m, hm, hword⟩
    · exact .inl hw
    · exact .inl hw
  · rintro (hw | ⟨m, hm, hword⟩)
    · exact .inl (.inl hw)
    · exact .inl (.inr ⟨m, hm, .inl hword⟩)

/-- The name of an interface that has an entry-point module is no built-in type that is used. -/
theorem not_usesType_of_snakeCase {p : Plan} (h : snakeCase w ≠ w) : ¬ p.UsesType w := by
  rintro (rfl | ⟨m, _, type, _, hword⟩)
  · exact h (by decide)
  · cases type <;> cases hword <;> exact h (by decide)

end Types

/-! ## 3. Names in entry-point modules -/

/-- The names that the code of an entry-point module uses, apart from its resolver. -/
def moduleNames : List Text := ["binding", "__init", "__BINDING", "Ok", "Err"]

section Modules

variable {d : Description} {p : Plan} {b : TypedBinding} {m : EntryModule} {resolver w : Text}

/-- The words of the template of a module that stand for themselves, in order. -/
def templateWords : List Text :=
  ["binding", "Ok", "binding", "__BINDING", "__init", "Ok", "Ok", "Err", "Err"]

theorem mem_templateWords_iff : w ∈ templateWords ↔ w ∈ moduleNames := by
  have hsubset : templateWords ⊆ moduleNames := by decide
  have hsuperset : moduleNames ⊆ templateWords := by decide
  exact ⟨fun h => hsubset h, fun h => hsuperset h⟩

theorem EntryModule.Regular.mem_standing_iff (h : m.Regular) :
    w ∈ standing valueNames m.item ↔ w ∈ standing valueNames m.resolver ∨ w ∈ moduleNames := by
  have hitems : Spot.bare w ∉ ([⟨.named "mod", m.module.text⟩, ⟨.named "struct", "__Loaded"⟩,
      ⟨.named "static", "__BINDING"⟩, ⟨.named "fn", "__init"⟩] : List Spot) := by simp [Spot.bare]
  have htemplate : Spot.bare w ∈ ([.bare "binding", .bare "Ok", .bare "binding",
      ⟨.named "fn", "binding"⟩, .bare "__BINDING", .bare "__init", .bare "Ok", .bare "Ok",
      .bare "Err", .bare "Err"] : List Spot) ↔ w ∈ templateWords := by
    simp [Spot.bare, templateWords]
  have hfunctions : Spot.bare w ∈ m.functions.flatMap functionSpots → w ∈ templateWords := by
    simp only [List.mem_flatMap, functionSpots, List.mem_cons, List.not_mem_nil, or_false]
    rintro ⟨f, _, h | h⟩
    · cases h
    · rw [(Spot.mk.inj h).2]
      exact List.mem_cons_self
  rw [ForeignCall.mem_standing_iff, ForeignCall.mem_standing_iff, (takes_item h).spots, spots,
    List.mem_append, List.mem_append, List.mem_append, or_iff_right hitems, htemplate, or_assoc,
    or_iff_left_of_imp hfunctions, mem_templateWords_iff]

/-- The functions that the code of a module declares, beside those in its resolver. -/
theorem EntryModule.Regular.declared_item (h : m.Regular) : declared m.item =
    "__init".toList ::
      (declared m.resolver ++ "binding".toList :: m.functions.map fun f => f.ident.text) := by
  have hfunctions : (m.functions.flatMap functionSpots).filter Spot.declares =
      m.functions.map fun f => ⟨.named "fn", f.ident.text⟩ := by
    rw [List.filter_flatMap, List.map_eq_flatMap]
    exact List.flatMap_congr fun f _ => by simp [functionSpots, Spot.declares, Spot.bare]
  rw [declared_eq valueNames, declared_eq valueNames m.resolver, (takes_item h).spots, spots]
  simp [hfunctions, Spot.declares, Spot.bare]

/-- The name of a method that may have a free function is used by the module only if it is that of a
constructor. -/
theorem text_identOf_mem_moduleNames_iff (h : w ∉ reservedEntry) :
    (identOf w).text ∈ moduleNames ↔ w = "Ok" ∨ w = "Err" := by
  by_cases hkeyword : w ∈ keywords
  · have hraw : ∀ name ∈ moduleNames, name.head? ≠ some 'r' := by decide
    have htext : (identOf w).text.head? = some 'r' := by simp [identOf, Ident.text, hkeyword]
    refine iff_of_false (fun hmem => hraw _ hmem htext) ?_
    rintro (rfl | rfl) <;> exact absurd hkeyword (not_mem_keywords (by decide))
  · have hnames : moduleNames = reservedEntry ++ ["Ok".toList, "Err".toList] := rfl
    rw [text_identOf hkeyword, hnames, List.mem_append, or_iff_right h, List.mem_cons,
      List.mem_singleton]

/-- What holds of the free functions of a module that is generated for `d`. -/
structure FunctionScope (d : Description) (m : EntryModule) : Prop where
  /-- There is one for each method. -/
  functions : (m.functions.map fun f => f.ident.name).Perm (d.signatures.map Signature.name)
  /-- They are what the module's code declares, beside two functions of its own and those in its
  resolver. -/
  declared : declared m.item = "__init".toList ::
    (declared m.resolver ++ "binding".toList :: m.functions.map fun f => f.ident.text)
  /-- The names that stand for themselves in the module are those of its template and those of its
  resolver. -/
  used : ∀ w, w ∈ standing valueNames m.item ↔ w ∈ standing valueNames m.resolver ∨ w ∈ moduleNames
  /-- A function that has one of these names is called like a constructor. -/
  captured_iff : ∀ f ∈ m.functions, f.ident.text ∈ moduleNames ↔
    f.ident.name = "Ok" ∨ f.ident.name = "Err"

/-- What holds of the type with the code `b` that is generated for the plan `p` of `d`. -/
structure TypeScope (d : Description) (p : Plan) (b : TypedBinding) : Prop where
  named : b.type.text = d.name
  used : ∀ w, w ∈ b.usedTypes ↔ p.UsesType w

theorem functionScope_of_entryModule (hp : Plan.analyze d = .ok p)
    (hm : entryModule p resolver = .ok m) : FunctionScope d m := by
  obtain ⟨b, _, hbeside⟩ := exists_beside_of_entryModule (Plan.analyze_wellFormed hp) hm
  obtain ⟨_, _, _, _, _, _, _, _, _, hfree, _⟩ := entryModule_eq_ok_iff.1 hm
  have hfree := (find_reserved_eq_none_iff hp).1 hfree
  have hperm := Plan.symbols_perm hp
  have hnames : (m.functions.map fun f => f.ident.name) = p.symbols := by
    rw [hbeside.functions, List.map_map]
    rfl
  have hregular := regular_of_entryModule hp hm
  refine ⟨hnames ▸ hperm, hregular.declared_item, fun w => hregular.mem_standing_iff,
    fun f hf => ?_⟩
  rw [hbeside.functions] at hf
  obtain ⟨method, hmethod, rfl⟩ := List.mem_map.1 hf
  obtain ⟨s, hs, hname⟩ := List.mem_map.1 (hperm.mem_iff.1 (List.mem_map_of_mem hmethod))
  exact text_identOf_mem_moduleNames_iff (hname ▸ hfree s hs)

theorem typeScope_of_typedBinding (hp : Plan.analyze d = .ok p) (hb : typedBinding p = .ok b) :
    TypeScope d p b := by
  have h := generated_of_typedBinding (Plan.analyze_wellFormed hp) hb
  obtain ⟨type, names, htype, _, rfl⟩ := typedBinding_eq_ok_iff.1 hb
  rw [Plan.interface_eq hp] at htype
  obtain ⟨_, _, _, rfl⟩ := typeIdent_eq_ok_iff.1 htype
  exact ⟨rfl, fun w => mem_usedTypes_iff h⟩

/-- A generated type takes the place of a built-in type that its own code uses if the interface is
called `str`, or like the type of a number in one of its methods; never if a module stands beside
it. A free function takes the place of a constructor if a method is called like one. -/
theorem scope_settled (d : Description) (resolver : Text) :
    (∀ text, generate d = .ok text → ∃ p b, Plan.analyze d = .ok p ∧ typedBinding p = .ok b ∧
      text = renderFile d.name b.items ∧ TypeScope d p b ∧
      (b.type.text ∈ b.usedTypes ↔ p.UsesType d.name)) ∧
    (∀ text, generateEntry d resolver = .ok text → ∃ p m, Plan.analyze d = .ok p ∧
      entryModule p resolver = .ok m ∧ text = renderFile d.name [m.item] ∧ FunctionScope d m) ∧
    ∀ text, generateBoth d resolver = .ok text → ∃ p b m, Plan.analyze d = .ok p ∧
      typedBinding p = .ok b ∧ entryModule p resolver = .ok m ∧
      text = renderFile d.name (b.items ++ [m.item]) ∧ TypeScope d p b ∧
      b.type.text ∉ b.usedTypes ∧ FunctionScope d m := by
  refine ⟨fun text h => ?_, fun text h => ?_, fun text h => ?_⟩
  · obtain ⟨p, b, hp, hb, htext⟩ := generate_eq_ok_iff.1 h
    have hscope := typeScope_of_typedBinding hp hb
    exact ⟨p, b, hp, hb, Plan.interface_eq hp ▸ htext, hscope, by rw [hscope.used, hscope.named]⟩
  · obtain ⟨p, m, hp, hm, htext⟩ := generateEntry_eq_ok_iff.1 h
    exact ⟨p, m, hp, hm, Plan.interface_eq hp ▸ htext, functionScope_of_entryModule hp hm⟩
  · obtain ⟨p, b, m, hp, hb, hm, htext⟩ := generateBoth_eq_ok_iff.1 h
    have hscope := typeScope_of_typedBinding hp hb
    obtain ⟨_, _, _, _, _, _, _, _, hsnake, _⟩ := entryModule_eq_ok_iff.1 hm
    rw [Plan.interface_eq hp] at hsnake
    refine ⟨p, b, m, hp, hb, hm, Plan.interface_eq hp ▸ htext, hscope, ?_,
      functionScope_of_entryModule hp hm⟩
    rw [hscope.used, hscope.named]
    exact not_usesType_of_snakeCase hsnake

end Modules

/-- An interface that is called like the type of its numbers, which its code uses, and a method that
is called like a constructor, which the module uses. -/
theorem scope_captured :
    (∃ p b, Plan.analyze ⟨"i32", [Sample.signature "f" [.int32] .int32]⟩ = .ok p ∧
      typedBinding p = .ok b ∧ b.type.text = "i32" ∧ "i32".toList ∈ b.usedTypes ∧
      generate ⟨"i32", [Sample.signature "f" [.int32] .int32]⟩ =
        .ok (renderFile "i32" b.items)) ∧
    ∃ p m f, Plan.analyze ⟨"A", [Sample.signature "Ok" [] .void]⟩ = .ok p ∧
      entryModule p "0" = .ok m ∧ f ∈ m.functions ∧ f.ident.text = "Ok" ∧
      "Ok".toList ∈ standing valueNames m.item ∧
      generateEntry ⟨"A", [Sample.signature "Ok" [] .void]⟩ "0" =
        .ok (renderFile "A" [m.item]) := by
  constructor
  · let method : MethodPlan := ⟨⟨0⟩, "f", [.int32], .int32⟩
    have hp : Plan.analyze ⟨"i32", [Sample.signature "f" [.int32] .int32]⟩ =
        .ok ⟨"i32", [method]⟩ := by
      rw [Plan.analyze_eq_ok_iff, Description.sorted, List.mergeSort_singleton]
      decide
    have htype : typeIdent "i32" = .ok ⟨"i32", false⟩ :=
      typeIdent_eq_ok_iff.2 ⟨by decide, by decide, not_mem_keywords (by decide), rfl⟩
    have hnames : methodNames ["f"] = .ok [namesOf ["f"] "f"] :=
      methodNames_eq_ok_iff.2 ⟨rfl, by decide, by decide, by decide⟩
    have hb := (typedBinding_eq_ok_iff (p := ⟨"i32", [method]⟩)).2 ⟨_, _, htype, hnames, rfl⟩
    have hused := (mem_usedTypes_iff (generated_of_typedBinding (Plan.analyze_wellFormed hp) hb)).2
      (.inr ⟨method, List.mem_cons_self, .int32, .inl List.mem_cons_self, rfl⟩)
    exact ⟨_, _, hp, hb, rfl, hused, generate_eq_ok_iff.2 ⟨_, _, hp, hb, rfl⟩⟩
  · let method : MethodPlan := ⟨⟨0⟩, "Ok", [], .void⟩
    have hp : Plan.analyze ⟨"A", [Sample.signature "Ok" [] .void]⟩ = .ok ⟨"A", [method]⟩ := by
      rw [Plan.analyze_eq_ok_iff, Description.sorted, List.mergeSort_singleton]
      decide
    have hsymbol : isSymbolName "A" = true := by decide
    have htype := typeIdent_eq_ok_iff.2 ⟨hsymbol, by decide, not_mem_keywords (by decide), rfl⟩
    have hmodule := (moduleIdent_eq_ok_iff hsymbol).2 ⟨⟨'A', by decide, by decide⟩, rfl⟩
    have hnames : methodNames ["Ok"] = .ok [namesOf ["Ok"] "Ok"] :=
      methodNames_eq_ok_iff.2 ⟨rfl, by decide, by decide, by decide⟩
    have hm := (entryModule_eq_ok_iff (p := ⟨"A", [method]⟩)).2
      ⟨_, _, _, _, htype, hmodule, hnames, resolverTokens_zero, by decide, by decide, rfl⟩
    refine ⟨_, _, EntryFunction.ofMethod method (identOf "Ok"), hp, hm, List.mem_cons_self,
      text_identOf (not_mem_keywords (by decide)),
      (regular_of_entryModule hp hm).mem_standing_iff.2 (.inr ?_),
      generateEntry_eq_ok_iff.2 ⟨_, _, hp, hm, rfl⟩⟩
    decide

end ForeignCall
