import ForeignCall.Proofs.Binding.Associated
import ForeignCall.Proofs.Binding.Entry
import ForeignCall.Proofs.Binding.EntrySpots

/-!
# Names of entry-point modules

The module is called like the interface, in small letters with an underscore between words. What was
checked of the interface's name is not checked again of this one.

* `moduleIdent_eq_ok_iff`, `snakeCase_mem_unwritable_iff`: when the small form is an identifier, and
  when it is one that cannot be written.
* `exists_abort_iff`: when generation breaks off.
* `moduleName_settled`: when the generators break off, and when the module's name can be written.
-/

namespace ForeignCall

/-! ## 1. The module's identifier -/

/-- Without its underscores, the name begins with a letter. -/
def BeginsWithLetter (name : Text) : Prop :=
  ∃ c, (name.filter inWord).head? = some c ∧ c.isAlpha = true

/-- The words that mean a place in a path, in all the ways that leave them whole. -/
def placeWords : List Text :=
  ["crate", "Crate", "CRATE", "self", "Self", "SELF", "super", "Super", "SUPER"]

/-- The name is one of these words with underscores around it. -/
def NamesPlace (name : Text) : Prop :=
  ∃ word ∈ placeWords, ∃ i j, name = List.replicate i '_' ++ word ++ List.replicate j '_'

section Identifier

variable {name : Text}

/-- The small form has no capital, and no underscore in front. -/
theorem snakeCase_ne {c : Char} {rest : Text} (hc : c = '_' ∨ c.isUpper = true) :
    snakeCase name ≠ c :: rest := by
  intro h
  rcases hc with rfl | hupper
  · have hhead := head?_joinWords Char.toLower name
    rw [← snakeCase_eq, h, List.head?_cons] at hhead
    obtain ⟨d, hd, hlower⟩ := Option.map_eq_some_iff.1 hhead.symm
    have hword : inWord d = true := (List.mem_filter.1 (List.mem_of_head? hd)).2
    exact bne_iff_ne.1 hword (changesCase_toLower.eq_underscore_iff.1 hlower)
  · have hmem : c ∈ joinWords Char.toLower name := by
      rw [← snakeCase_eq, h]
      exact List.mem_cons_self
    rcases mem_joinWords changesCase_toLower hmem with rfl | ⟨d, _, rfl⟩
    · cases hupper
    · rw [Char.isUpper_toLower_eq_false] at hupper
      cases hupper

/-- The small form is a word that cannot be written just if the name is one of the words above. -/
theorem snakeCase_mem_unwritable_iff : snakeCase name ∈ unwritable ↔ NamesPlace name := by
  have hwords : placeWords = casings "crate" ++ casings "self" ++ casings "super" := by
    decide +kernel
  have hunderscore : snakeCase name ≠ "_" := snakeCase_ne (.inl rfl)
  have hcapital : snakeCase name ≠ "Self" := snakeCase_ne (.inr rfl)
  have hsmall : ∀ w ∈ (["crate", "self", "super"] : List Text),
      w ≠ [] ∧ ∀ c ∈ w, c.isLower = true := by simp
  have hiff : ∀ w ∈ (["crate", "self", "super"] : List Text), snakeCase name = w ↔
      ∃ v ∈ casings w, ∃ i j, name = List.replicate i '_' ++ v ++ List.replicate j '_' :=
    fun w hw => snakeCase_eq_iff (hsmall w hw).1 (hsmall w hw).2
  simp only [List.forall_mem_cons, List.not_mem_nil, false_imp_iff, implies_true, and_true] at hiff
  obtain ⟨hcrate, hself, hsuper⟩ := hiff
  simp only [unwritable, List.mem_cons, List.not_mem_nil, or_false, hunderscore, hcapital,
    false_or, hcrate, hself, hsuper, NamesPlace, hwords, List.mem_append, or_and_right, exists_or,
    or_assoc]

/-- The small form is an identifier just if the name begins with a letter. -/
theorem moduleIdent_eq_ok_iff (h : isSymbolName name = true) {i : Ident} :
    moduleIdent name = .ok i ↔ BeginsWithLetter name ∧ i = identOf (snakeCase name) := by
  rw [moduleIdent, BeginsWithLetter, ← isSymbolName_snakeCase_iff h]
  cases isSymbolName (snakeCase name) <;> simp [eq_comm]

theorem moduleIdent_eq_error_iff (h : isSymbolName name = true) {e : GenerateError} :
    moduleIdent name = .error e ↔ ¬ BeginsWithLetter name ∧ e = .abort (snakeCase name) := by
  rw [moduleIdent, BeginsWithLetter, ← isSymbolName_snakeCase_iff h]
  cases isSymbolName (snakeCase name) <;> simp [eq_comm]

/-- What holds of the identifier of a module whose interface has this name. -/
structure Ident.NamesModule (i : Ident) (name : Text) : Prop where
  small : i.name = snakeCase name
  symbol : isSymbolName i.name = true
  raw : i.raw = true ↔ i.name ∈ keywords
  apart : i.name ≠ name
  writable_iff : i.Writable ↔ ¬ NamesPlace name

theorem namesModule_of_moduleIdent (h : isSymbolName name = true) {i : Ident}
    (hi : moduleIdent name = .ok i) (hne : snakeCase name ≠ name) : i.NamesModule name := by
  obtain ⟨hletter, rfl⟩ := (moduleIdent_eq_ok_iff h).1 hi
  have hsymbol := (isSymbolName_snakeCase_iff h).2 hletter
  refine ⟨rfl, hsymbol, decide_eq_true_iff, hne, ?_⟩
  rw [← snakeCase_mem_unwritable_iff]
  exact ⟨fun hwritable => hwritable.named, writable_identOf hsymbol⟩

end Identifier

/-! ## 2. Breaking off -/

section Abort

variable {d : Description} {p : Plan} {resolver n : Text}

theorem typeIdent_ne_abort {name : Text} : typeIdent name ≠ .error (.abort n) := by
  rw [typeIdent]
  split_ifs <;> simp

theorem resolverTokens_ne_abort : resolverTokens resolver ≠ .error (.abort n) := by
  intro h
  cases (orError_eq_error_iff.1 h).2

theorem methodNames_ne_abort {methods : List Text} :
    methodNames methods ≠ .error (.abort n) := by
  intro h
  rcases bind_eq_error_iff.1 h with hidents | ⟨_, -, h⟩
  · obtain ⟨_, -, -, habort⟩ := exists_of_mapM_methodIdent hidents
    cases habort
  rcases bind_eq_error_iff.1 h with hconsts | ⟨_, -, hpure⟩
  · obtain ⟨_, _, _, _, -, habort, -⟩ := exists_of_constNamesFrom hconsts
    cases habort
  · exact pure_ne_error hpure

theorem planFor_ne_abort : planFor d ≠ .error (.abort n) := by
  intro h
  obtain ⟨_, -, habort⟩ := mapError_eq_error_iff.1 h
  cases habort

theorem typedBinding_ne_abort : typedBinding p ≠ .error (.abort n) := by
  simp only [typedBinding, ne_eq, bind_eq_error_iff, typeIdent_ne_abort, methodNames_ne_abort,
    pure_ne_error, and_false, exists_false, or_false, not_false_iff]

/-- The module breaks off just if everything else is found. -/
theorem entryModule_eq_abort_iff : entryModule p resolver = .error (.abort n) ↔
    (∃ type names tokens, typeIdent p.interface = .ok type ∧ methodNames p.symbols = .ok names ∧
      resolverTokens resolver = .ok tokens) ∧ snakeCase p.interface ≠ p.interface ∧
    p.methods.find? (·.symbol ∈ reservedEntry) = none ∧
    moduleIdent p.interface = .error (.abort n) := by
  have hsymbols : p.methods.map MethodPlan.symbol = p.symbols := rfl
  simp only [entryModule, hsymbols, bind_eq_error_iff, guard_eq_error_iff, typeIdent_ne_abort,
    reduceCtorEq, and_false, false_or]
  cases p.methods.find? (·.symbol ∈ reservedEntry) with
  | some found => simp [throw_eq_error_iff]
  | none =>
    simp only [bind_eq_error_iff, resolverTokens_ne_abort, methodNames_ne_abort, pure_ne_error,
      and_false, exists_false, or_false, false_or, true_and]
    constructor
    · rintro ⟨type, htype, hsnake, tokens, htokens, names, hnames, hmodule⟩
      exact ⟨⟨type, names, tokens, htype, hnames, htokens⟩, hsnake, hmodule⟩
    · rintro ⟨⟨type, names, tokens, htype, hnames, htokens⟩, hsnake, hmodule⟩
      exact ⟨type, htype, hsnake, tokens, htokens, names, hnames, hmodule⟩

theorem generateEntry_eq_abort_iff : generateEntry d resolver = .error (.abort n) ↔
    ∃ p, Plan.analyze d = .ok p ∧ entryModule p resolver = .error (.abort n) := by
  simp only [generateEntry, bind_eq_error_iff, planFor_ne_abort, planFor_eq_ok_iff, pure_ne_error,
    and_false, exists_false, or_false, false_or]

theorem generateBoth_eq_abort_iff : generateBoth d resolver = .error (.abort n) ↔
    ∃ p, Plan.analyze d = .ok p ∧ entryModule p resolver = .error (.abort n) := by
  simp only [generateBoth, bind_eq_error_iff, planFor_ne_abort, typedBinding_ne_abort,
    planFor_eq_ok_iff, pure_ne_error, and_false, exists_false, or_false, false_or]
  refine exists_congr fun p => and_congr_right fun _ => ⟨?_, fun hm => ?_⟩
  · rintro ⟨_, -, hm⟩
    exact hm
  · -- The module breaks off after all that the typed binding needs has been found.
    obtain ⟨⟨type, names, _, htype, hnames, _⟩, _⟩ := entryModule_eq_abort_iff.1 hm
    exact ⟨_, typedBinding_eq_ok_iff.2 ⟨type, names, htype, hnames, rfl⟩, hm⟩

theorem find_reserved_eq_none_iff (hp : Plan.analyze d = .ok p) :
    p.methods.find? (·.symbol ∈ reservedEntry) = none ↔
      ∀ s ∈ d.signatures, s.name ∉ reservedEntry := by
  have hsymbols : (∀ symbol ∈ p.symbols, symbol ∉ reservedEntry) ↔
      ∀ s ∈ d.signatures, s.name ∉ reservedEntry := by
    simp only [(Plan.symbols_perm hp).mem_iff, List.forall_mem_map]
  rw [← hsymbols, Plan.symbols, List.forall_mem_map, List.find?_eq_none]
  simp only [decide_eq_true_eq]

/-- If code is generated, the module breaks off just if its resolver is an expression, no method is
called like one of its items, and the name does not begin with a letter. -/
theorem exists_abort_iff :
    (∃ n p, Plan.analyze d = .ok p ∧ entryModule p resolver = .error (.abort n)) ↔
      (∃ text, generate d = .ok text) ∧ (∀ s ∈ d.signatures, s.name ∉ reservedEntry) ∧
        (∃ tokens, resolverTokens resolver = .ok tokens) ∧ ¬ BeginsWithLetter d.name := by
  constructor
  · rintro ⟨n, p, hp, hm⟩
    obtain ⟨⟨type, names, tokens, htype, hnames, htokens⟩, _, hfree, hmodule⟩ :=
      entryModule_eq_abort_iff.1 hm
    have hb := typedBinding_eq_ok_iff.2 ⟨type, names, htype, hnames, rfl⟩
    rw [Plan.interface_eq hp] at htype hmodule
    have hsymbol := (typeIdent_eq_ok_iff.1 htype).1
    exact ⟨⟨_, generate_eq_ok_iff.2 ⟨p, _, hp, hb, rfl⟩⟩, (find_reserved_eq_none_iff hp).1 hfree,
      ⟨tokens, htokens⟩, ((moduleIdent_eq_error_iff hsymbol).1 hmodule).1⟩
  · rintro ⟨⟨text, htext⟩, hfree, ⟨tokens, htokens⟩, hletter⟩
    obtain ⟨p, b, hp, hb, _⟩ := generate_eq_ok_iff.1 htext
    obtain ⟨type, names, htype, hnames, _⟩ := typedBinding_eq_ok_iff.1 hb
    have hinterface := Plan.interface_eq hp
    have hsymbol := (typeIdent_eq_ok_iff.1 (hinterface ▸ htype)).1
    have hmodule := (moduleIdent_eq_error_iff hsymbol).2 ⟨hletter, rfl⟩
    have hsnake : snakeCase d.name ≠ d.name := by
      intro heq
      rw [BeginsWithLetter, ← isSymbolName_snakeCase_iff hsymbol, heq] at hletter
      exact hletter hsymbol
    refine ⟨_, p, hp, entryModule_eq_abort_iff.2
      ⟨⟨type, names, tokens, htype, hnames, htokens⟩, ?_, (find_reserved_eq_none_iff hp).2 hfree,
        hinterface ▸ hmodule⟩⟩
    rwa [hinterface]

end Abort

/-! ## 3. Generated modules -/

/-- The module's item opens with this name: it is the first word in it that names something. -/
def EntryModule.Opens (m : EntryModule) (i : Ident) : Prop :=
  (Site.free.spots [] false m.item).head? = some ⟨.named "mod", i.text⟩

/-- What becomes of the name of the module that is generated from a description and a resolver. -/
structure ModuleNaming (d : Description) (resolver : Text) (generated : Except GenerateError Text) :
    Prop where
  /-- Generation breaks off just if nothing else stands against it, and the name does not begin with
  a letter. -/
  abort_iff : (∃ n, generated = .error (.abort n)) ↔
    (∃ text, generate d = .ok text) ∧ (∀ s ∈ d.signatures, s.name ∉ reservedEntry) ∧
      (∃ tokens, resolverTokens resolver = .ok tokens) ∧ ¬ BeginsWithLetter d.name
  /-- A module that is generated is called like the interface in small letters, and its name can be
  written unless that is a word that means a place. -/
  named : ∀ text, generated = .ok text → ∃ p m items, Plan.analyze d = .ok p ∧
    entryModule p resolver = .ok m ∧ text = renderFile d.name (items ++ [m.item]) ∧
    m.Opens m.module ∧ m.type = ⟨d.name, false⟩ ∧ m.module.NamesModule d.name

theorem EntryModule.Regular.opens {m : EntryModule} (h : m.Regular) : m.Opens m.module := by
  rw [Opens, Site.spots_nil valueNames, (takes_item h).spots]
  rfl

theorem regular_of_entryModule {d : Description} {p : Plan} {resolver : Text} {m : EntryModule}
    (hp : Plan.analyze d = .ok p) (hm : entryModule p resolver = .ok m) : m.Regular := by
  obtain ⟨b, -, hbeside⟩ := exists_beside_of_entryModule (Plan.analyze_wellFormed hp) hm
  refine ⟨hbeside.once, fun f hf => ?_⟩
  obtain ⟨_, -, rfl⟩ := List.mem_map.1 (hbeside.functions ▸ hf)
  rfl

theorem namesModule_of_entryModule {d : Description} {p : Plan} {resolver : Text} {m : EntryModule}
    (hp : Plan.analyze d = .ok p) (hm : entryModule p resolver = .ok m) :
    m.type = ⟨d.name, false⟩ ∧ m.module.NamesModule d.name := by
  obtain ⟨type, module, names, tokens, htype, hmodule, _, _, hsnake, _, rfl⟩ :=
    entryModule_eq_ok_iff.1 hm
  rw [Plan.interface_eq hp] at htype hmodule hsnake
  obtain ⟨hsymbol, _, _, rfl⟩ := typeIdent_eq_ok_iff.1 htype
  exact ⟨rfl, namesModule_of_moduleIdent hsymbol hmodule hsnake⟩

/-- Generating a module breaks off for the names that do not begin with a letter, and gives it a
name that cannot be written for those that mean a place. -/
theorem moduleName_settled (d : Description) (resolver : Text) :
    ModuleNaming d resolver (generateEntry d resolver) ∧
      ModuleNaming d resolver (generateBoth d resolver) := by
  refine ⟨⟨?_, fun text htext => ?_⟩, ⟨?_, fun text htext => ?_⟩⟩
  · rw [← exists_abort_iff]
    exact exists_congr fun n => generateEntry_eq_abort_iff
  · obtain ⟨p, m, hp, hm, hrender⟩ := generateEntry_eq_ok_iff.1 htext
    exact ⟨p, m, [], hp, hm, Plan.interface_eq hp ▸ hrender,
      (regular_of_entryModule hp hm).opens, namesModule_of_entryModule hp hm⟩
  · rw [← exists_abort_iff]
    exact exists_congr fun n => generateBoth_eq_abort_iff
  · obtain ⟨p, b, m, hp, _, hm, hrender⟩ := generateBoth_eq_ok_iff.1 htext
    exact ⟨p, m, b.items, hp, hm, Plan.interface_eq hp ▸ hrender,
      (regular_of_entryModule hp hm).opens, namesModule_of_entryModule hp hm⟩

/-- An interface without methods is planned. -/
theorem analyze_empty (name : Text) : Plan.analyze ⟨name, []⟩ = .ok ⟨name, []⟩ := by
  have hsorted : Description.sorted ⟨name, []⟩ = [] := List.mergeSort_nil
  rw [Plan.analyze_eq_ok_iff, hsorted]
  exact ⟨rfl, rfl⟩

theorem resolverTokens_zero : resolverTokens "0" = .ok [.literal "0"] := by decide +kernel

/-- An interface of underscores breaks off, and one that is called like a place becomes a module of
that name. -/
theorem moduleName_illegal :
    generateEntry ⟨"__", []⟩ "0" = .error (.abort "") ∧
    ∃ p m, Plan.analyze ⟨"Super", []⟩ = .ok p ∧ entryModule p "0" = .ok m ∧
      generateEntry ⟨"Super", []⟩ "0" = .ok (renderFile "Super" [m.item]) ∧
      m.module.name = "super" ∧ m.module.name ∈ unwritable := by
  constructor
  · have htype : typeIdent "__" = .ok ⟨"__", false⟩ :=
      typeIdent_eq_ok_iff.2 ⟨by decide, by decide, not_mem_keywords (by decide), rfl⟩
    refine generateEntry_eq_abort_iff.2 ⟨_, analyze_empty _, entryModule_eq_abort_iff.2
      ⟨⟨⟨"__", false⟩, [], _, htype, rfl, resolverTokens_zero⟩, ?_, rfl, ?_⟩⟩ <;> decide
  · have hsymbol : isSymbolName "Super" = true := by decide
    have htype := typeIdent_eq_ok_iff.2 ⟨hsymbol, by decide, not_mem_keywords (by decide), rfl⟩
    have hmodule := (moduleIdent_eq_ok_iff hsymbol).2 ⟨⟨'S', by decide, by decide⟩, rfl⟩
    have hm := (entryModule_eq_ok_iff (p := ⟨"Super", []⟩)).2
      ⟨_, _, [], _, htype, hmodule, rfl, resolverTokens_zero, by decide, rfl, rfl⟩
    have hname : snakeCase "Super" = "super" := by decide
    refine ⟨_, _, analyze_empty _, hm,
      generateEntry_eq_ok_iff.2 ⟨_, _, analyze_empty _, hm, rfl⟩, hname, ?_⟩
    exact (by decide : snakeCase "Super" ∈ unwritable)

end ForeignCall
