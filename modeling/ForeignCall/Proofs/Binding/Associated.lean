import ForeignCall.Proofs.Binding.Identifiers
import ForeignCall.Proofs.Binding.MethodNumbers
import ForeignCall.Proofs.Binding.Spots

/-!
# Associated names

The functions and constants of a generated type stand side by side, so no two of them may have one
name. Code is generated just if they have not, and if it is refused, the error tells two things that
would have the same name, or a method with a name that no method may have.

* `exists_methodNames_iff`: when names are found.
* `TypedBinding.declared_ownItem`: the functions and constants that the code declares.
* `associatedNames_settled`: when code is generated, what it declares, and why it is refused.
-/

namespace ForeignCall

/-! ## 1. The family of names -/

/-- The names that methods take: their own, those of the constants of every binding, and those of
their own constants. -/
def nameFamily (methods : List Text) : List Text :=
  methods ++ (["METHODS", "CALL_SHAPES"] : List Text) ++ methods.map (constName methods)

section Family

variable {methods : List Text}

theorem mem_reservedConsts_iff {name : Text} :
    name ∈ reservedConsts ↔ name ∈ (["METHODS", "CALL_SHAPES"] : List Text) := by
  simp only [reservedConsts, List.mem_cons, List.not_mem_nil, or_false]
  exact or_comm

theorem mem_refusedNames_of_reservedConsts {name : Text} (h : name ∈ reservedConsts) :
    name ∈ refusedNames :=
  reserved_iff.1 (.inr (.inr h))

/-- Names are found just if no method has a refused name and no name is taken twice. -/
theorem exists_methodNames_iff (hnodup : methods.Nodup) :
    (∃ names, methodNames methods = .ok names) ↔
      (∀ name ∈ methods, name ∉ refusedNames) ∧ (nameFamily methods).Nodup := by
  have hfixed : (["METHODS", "CALL_SHAPES"] : List Text).Nodup := by decide
  constructor
  · rintro ⟨names, hnames⟩
    obtain ⟨_, hfree, hconsts, htaken⟩ := methodNames_eq_ok_iff.1 hnames
    have hrefused : ∀ name ∈ methods, name ∉ refusedNames := fun name hname hmem =>
      hfree name hname (reserved_iff.2 hmem)
    refine ⟨hrefused, List.nodup_append.2 ⟨List.nodup_append.2 ⟨hnodup, hfixed, ?_⟩, hconsts, ?_⟩⟩
    · rintro name hname fixed hmem rfl
      exact hrefused name hname
        (mem_refusedNames_of_reservedConsts (mem_reservedConsts_iff.2 hmem))
    · rintro name hname c hc rfl
      refine htaken name hc (List.mem_append.2 ((List.mem_append.1 hname).symm.imp_left ?_))
      exact mem_reservedConsts_iff.2
  · rintro ⟨hrefused, hfamily⟩
    obtain ⟨_, hconsts, hapart⟩ := List.nodup_append.1 hfamily
    refine ⟨_, methodNames_eq_ok_iff.2 ⟨rfl, fun name hname hreserved => ?_, hconsts, ?_⟩⟩
    · exact hrefused name hname (reserved_iff.1 hreserved)
    · intro c hc hmem
      refine hapart c ?_ c hc rfl
      exact List.mem_append.2 ((List.mem_append.1 hmem).symm.imp_right mem_reservedConsts_iff.1)

end Family

/-! ## 2. Declared names -/

def Spot.declares (s : Spot) : Bool := s.site = .named "fn" || s.site = .named "const"

/-- The functions and constants that code declares: the words after `fn` and `const`. -/
def declared (ts : List Token) : List Text :=
  ((Site.free.spots [] false ts).filter Spot.declares).map Spot.word

/-- The words after `fn` and `const` are found beside any others that are looked for. -/
theorem declared_eq (names : List Text) (ts : List Token) :
    declared ts = ((Site.free.spots names false ts).filter Spot.declares).map Spot.word := by
  rw [declared, Site.spots_nil names, List.filter_filter]
  congr 2
  funext s
  cases hs : s.declares with
  | false => rfl
  | true =>
    rw [Bool.true_and, decide_eq_true_eq]
    rintro hfree
    rw [Spot.declares, hfree] at hs
    cases hs

theorem filter_declares_bare {spots : List Spot} (h : ∀ s ∈ spots, s.site = .free) :
    spots.filter Spot.declares = [] := by
  rw [List.filter_eq_nil_iff]
  intro s hs
  rw [Spot.declares, h s hs]
  decide

theorem site_managedSpots (type : SemanticType) : ∀ s ∈ type.managedSpots, s.site = .free := by
  cases type <;> simp [SemanticType.managedSpots, Spot.bare]

theorem site_nativeSpots (type : SemanticType) : ∀ s ∈ type.nativeSpots, s.site = .free := by
  cases type <;> simp [SemanticType.nativeSpots, Spot.bare]

theorem site_returnSpots (type : SemanticType) : ∀ s ∈ type.returnSpots, s.site = .free := by
  cases type <;> simp [SemanticType.returnSpots, SemanticType.managedSpots, Spot.bare]

theorem Statement.site_spots (t : Statement) : ∀ s ∈ t.spots, s.site = .free := by
  cases t with
  | typeEntry params ret =>
    intro s hs
    rcases List.mem_append.1 hs with hs | hs
    · obtain ⟨type, _, hs⟩ := List.mem_flatMap.1 hs
      exact site_nativeSpots type s hs
    · exact site_nativeSpots ret s hs
  | _ => nofun

/-- A stub declares its function only. -/
theorem Stub.filter_spots (s : Stub) :
    s.spots.filter Spot.declares = [⟨.named "fn", s.ident.text⟩] := by
  rw [spots, List.filter_cons_of_pos (by simp [Spot.declares]), filter_declares_bare]
  intro spot hspot
  rw [List.mem_append, List.mem_append, List.mem_flatMap, List.mem_flatMap] at hspot
  rcases hspot with (⟨type, _, hspot⟩ | hspot) | ⟨t, _, hspot⟩
  · exact site_managedSpots type spot hspot
  · exact site_returnSpots s.ret spot hspot
  · exact t.site_spots spot hspot

namespace TypedBinding

/-- The functions and constants of a generated type. -/
def associated (b : TypedBinding) : List Ident :=
  b.consts.map (fun c => ⟨c.name, false⟩) ++
    [⟨"METHODS", false⟩, ⟨"CALL_SHAPES", false⟩, ⟨"bind", false⟩] ++ b.stubs.map Stub.ident

/-- The code declares the associated functions and constants, each once. -/
theorem declared_ownItem (b : TypedBinding) :
    declared b.ownItem = b.associated.map Ident.text := by
  have hconsts : (b.consts.map fun c => (⟨.named "const", c.name⟩ : Spot)).filter Spot.declares =
      b.consts.map fun c => ⟨.named "const", c.name⟩ := by
    rw [List.filter_eq_self]
    intro s hs
    obtain ⟨c, _, rfl⟩ := List.mem_map.1 hs
    simp [Spot.declares]
  have hstubs : (b.stubs.flatMap Stub.spots).filter Spot.declares =
      b.stubs.map fun s => ⟨.named "fn", s.ident.text⟩ := by
    rw [List.filter_flatMap, List.map_eq_flatMap]
    exact List.flatMap_congr fun s _ => s.filter_spots
  have hfixed : ([⟨.named "const", "METHODS"⟩, .bare "str", ⟨.named "const", "CALL_SHAPES"⟩,
      ⟨.named "fn", "bind"⟩] : List Spot).filter Spot.declares =
      [⟨.named "const", "METHODS"⟩, ⟨.named "const", "CALL_SHAPES"⟩, ⟨.named "fn", "bind"⟩] := by
    decide +kernel
  rw [declared_eq builtinTypes, b.takes_ownItem.spots, ownSpots,
    List.filter_cons_of_neg (by simp [Spot.declares]), List.filter_append, List.filter_append,
    hconsts, hstubs, hfixed, associated]
  simp [Ident.text, Function.comp_def]

end TypedBinding

/-! ## 3. Associated names -/

/-- What holds of the associated names of a type that is generated for the plan `p` of `d`. -/
structure AssociatedNames (d : Description) (p : Plan) : Prop where
  /-- The methods are those of the description. -/
  symbols : p.symbols.Perm (d.signatures.map Signature.name)
  /-- Code is generated just if no method has a refused name and no name is taken twice. -/
  generated_iff : (∃ text, generate d = .ok text) ↔
    (∀ name ∈ p.symbols, name ∉ refusedNames) ∧ (nameFamily p.symbols).Nodup
  /-- The functions and constants that the code declares are those of the family and the binding
  function; all have different names that can be written. -/
  declared : ∀ text, generate d = .ok text → ∃ b, typedBinding p = .ok b ∧
    text = renderFile p.interface b.items ∧ declared b.ownItem = b.associated.map Ident.text ∧
    (b.associated.map Ident.name).Perm ("bind".toList :: nameFamily p.symbols) ∧
    (b.associated.map Ident.name).Nodup ∧ ∀ i ∈ b.associated, i.Writable
  /-- An error is about a refused name, or about two different things with one name. -/
  refused : ∀ e, generate d = .error e → Refusal p.symbols e

section Associated

variable {d : Description} {p : Plan} {b : TypedBinding} {type : Ident}

theorem names_associated (h : Generated p b) :
    (b.associated.map Ident.name).Perm ("bind".toList :: nameFamily p.symbols) := by
  have hnames : b.associated.map Ident.name = p.symbols.map (constName p.symbols) ++
      (["METHODS", "CALL_SHAPES", "bind"] : List Text) ++ p.symbols := by
    rw [TypedBinding.associated, h.consts, h.stubs, Plan.symbols]
    simp [Function.comp_def, Plan.namesOf, namesOf, Stub.ofMethod, identOf, Plan.symbols]
  rw [hnames, nameFamily, List.perm_iff_count]
  intro name
  simp only [List.count_append, List.count_cons, List.count_nil]
  omega

/-- The name of the binding function is no constant, and no method has it. -/
theorem nodup_bind_cons (hrefused : ∀ name ∈ p.symbols, name ∉ refusedNames)
    (hfamily : (nameFamily p.symbols).Nodup) : ("bind".toList :: nameFamily p.symbols).Nodup := by
  refine List.nodup_cons.2 ⟨fun hmem => ?_, hfamily⟩
  rcases List.mem_append.1 hmem with hmem | hmem
  · rcases List.mem_append.1 hmem with hmem | hmem
    · exact hrefused _ hmem (by decide)
    · exact absurd hmem (by decide)
  · obtain ⟨name, _, hconst⟩ := List.mem_map.1 hmem
    exact constName_ne_of_any_isLower (by decide) hconst

theorem writable_associated (hp : p.WellFormed) (hb : typedBinding p = .ok b) :
    ∀ i ∈ b.associated, i.Writable := by
  have h := generated_of_typedBinding hp hb
  obtain ⟨_, names, _, hnames, _⟩ := typedBinding_eq_ok_iff.1 hb
  obtain ⟨_, hfree, _⟩ := methodNames_eq_ok_iff.1 hnames
  intro i hi
  rw [TypedBinding.associated, h.consts, h.stubs, List.mem_append, List.mem_append] at hi
  rcases hi with (hi | hi) | hi
  · obtain ⟨c, hc, rfl⟩ := List.mem_map.1 hi
    obtain ⟨m, hm, rfl⟩ := List.mem_map.1 hc
    exact writable_constName (hp.named m hm) (List.mem_map_of_mem hm)
  · have hfixed : ∀ i ∈ ([⟨"METHODS", false⟩, ⟨"CALL_SHAPES", false⟩, ⟨"bind", false⟩] :
        List Ident), isSymbolName i.name = true ∧ i.name ∉ unwritable ∧ i.raw = false ∧
        i.name ∉ keywords := by
      unfold keywords unwritable
      repeat rw [String.toList_ofList]
      decide +kernel
    obtain ⟨hsymbol, hname, hraw, hkeyword⟩ := hfixed i hi
    exact ⟨hsymbol, hname, by simp [hraw, hkeyword]⟩
  · obtain ⟨s, hs, rfl⟩ := List.mem_map.1 hi
    obtain ⟨m, hm, rfl⟩ := List.mem_map.1 hs
    refine writable_identOf (hp.named m hm) fun hname => ?_
    exact hfree m.symbol (List.mem_map_of_mem hm) (.inl hname)

/-- Once the interface is planned and its name names a type, only the names of the methods decide
whether code is generated. -/
theorem generate_eq_of_typeIdent (hp : Plan.analyze d = .ok p)
    (htype : typeIdent d.name = .ok type) : generate d =
      (methodNames p.symbols).map fun names =>
        renderFile p.interface (TypedBinding.ofPlan p type names).items := by
  have hname := Plan.interface_eq hp
  have hsymbols : p.methods.map MethodPlan.symbol = p.symbols := rfl
  rw [generate, planFor_eq_ok_iff.2 hp]
  simp only [bind, Except.bind, typedBinding, hname, htype, hsymbols]
  cases methodNames p.symbols <;> rfl

/-- Code is generated for an interface just if its methods leave each other their names. -/
theorem associatedNames_settled (hp : Plan.analyze d = .ok p)
    (htype : typeIdent d.name = .ok type) : AssociatedNames d p := by
  have hgenerate := generate_eq_of_typeIdent hp htype
  have hwell := Plan.analyze_wellFormed hp
  have hnodup : p.symbols.Nodup := Text.nodup_of_before hwell.ordered
  have hiff : (∃ text, generate d = .ok text) ↔
      (∀ name ∈ p.symbols, name ∉ refusedNames) ∧ (nameFamily p.symbols).Nodup := by
    rw [← exists_methodNames_iff hnodup, hgenerate]
    simp [map_eq_ok_iff]
  refine ⟨Plan.symbols_perm hp, hiff, fun text htext => ?_, fun e he => ?_⟩
  · obtain ⟨p', b, hp', hb, hrender⟩ := generate_eq_ok_iff.1 htext
    cases hp.symm.trans hp'
    obtain ⟨hrefused, hfamily⟩ := hiff.1 ⟨text, htext⟩
    have hperm := names_associated (generated_of_typedBinding hwell hb)
    exact ⟨b, hb, hrender, b.declared_ownItem, hperm,
      hperm.nodup_iff.2 (nodup_bind_cons hrefused hfamily), writable_associated hwell hb⟩
  · rw [hgenerate, map_eq_error_iff] at he
    exact refusal_of_methodNames hnodup he

/-- Two methods meet their own constants, and a third one does not. -/
theorem associatedNames_settled_upper :
    Plan.analyze Sample.upper = .ok upperPlan ∧
    typeIdent Sample.upper.name = .ok ⟨"Upper", false⟩ ∧
    AssociatedNames Sample.upper upperPlan ∧
    upperPlan.symbols.map (constName upperPlan.symbols) = ["ABC_ID", "X_ID", "ABC_DEF"] :=
  ⟨analyze_upper, typeIdent_upper, associatedNames_settled analyze_upper typeIdent_upper, by decide⟩

end Associated

end ForeignCall
