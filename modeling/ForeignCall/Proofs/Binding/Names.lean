import ForeignCall.Binding.Names
import ForeignCall.Proofs.Fallible
import ForeignCall.Proofs.Plan.Search

/-!
# Names in a binding

If names are generated at all, each method has an identifier and a constant of its own.

* `methodNames_eq_ok_iff`: names are generated exactly if no method is called like something that is
  there already and no constant is taken; they are a function of the method's name.
* `identOf_injective`, `nodup_constNames`: different methods have different names.
* `typeIdent_eq_ok_iff`: which names a type can have; `typeIdent_of_capital` is the usual case.
-/

namespace ForeignCall

/-! ## 1. Identifiers -/

theorem identOf_injective {a b : Text} (h : identOf a = identOf b) : a = b :=
  congrArg Ident.name h

/-- The name cannot be that of a method. -/
def Reserved (name : Text) : Prop :=
  name ∈ unwritable ∨ name ∈ reservedFunctions ∨ name ∈ reservedConsts

instance (name : Text) : Decidable (Reserved name) := inferInstanceAs (Decidable (_ ∨ _ ∨ _))

theorem methodIdent_of_reserved {name : Text} (h : Reserved name) :
    methodIdent name = .error (.reserved name) :=
  if_pos h

theorem methodIdent_of_not_reserved {name : Text} (h : ¬ Reserved name) :
    methodIdent name = .ok (identOf name) :=
  if_neg h

theorem methodIdent_eq_ok_iff {name : Text} {i : Ident} :
    methodIdent name = .ok i ↔ ¬ Reserved name ∧ i = identOf name := by
  by_cases hr : Reserved name
  · simp [methodIdent_of_reserved hr, hr]
  · simp [methodIdent_of_not_reserved hr, hr, eq_comm]

theorem mapM_methodIdent_eq_ok_iff {methods : List Text} {idents : List Ident} :
    methods.mapM methodIdent = .ok idents ↔
    (∀ name ∈ methods, ¬ Reserved name) ∧ idents = methods.map identOf := by
  induction methods generalizing idents with
  | nil => simp [pure_eq_ok_iff, eq_comm (b := idents)]
  | cons name rest ih =>
    simp only [List.mapM_cons, bind_eq_ok_iff, pure_eq_ok_iff, methodIdent_eq_ok_iff, ih,
      List.forall_mem_cons]
    constructor
    · rintro ⟨_, ⟨hname, rfl⟩, _, ⟨hrest, rfl⟩, rfl⟩
      exact ⟨⟨hname, hrest⟩, rfl⟩
    · rintro ⟨⟨hname, hrest⟩, rfl⟩
      exact ⟨_, ⟨hname, rfl⟩, _, ⟨hrest, rfl⟩, rfl⟩

/-- Keywords are made of small letters. -/
theorem isLower_of_mem_keywords {word : Text} (h : word ∈ keywords) :
    word ≠ [] ∧ ∀ c ∈ word, c.isLower = true := by
  have hall : keywords.all (fun word => !word.isEmpty && word.all Char.isLower) = true := by
    unfold keywords
    repeat rw [String.toList_ofList]
    decide +kernel
  simpa using List.all_eq_true.1 hall word h

section TypeName

variable {name : Text}

theorem not_mem_keywords (h : name.all Char.isLower = false) : name ∉ keywords := by
  intro hkeyword
  rw [List.all_eq_true.2 (isLower_of_mem_keywords hkeyword).2] at h
  cases h

theorem typeIdent_eq_ok_iff {i : Ident} : typeIdent name = .ok i ↔
    isSymbolName name = true ∧ name ∉ unwritable ∧ name ∉ keywords ∧ i = ⟨name, false⟩ := by
  rw [typeIdent]
  split
  case isTrue h =>
    refine iff_of_false (fun herror => by cases herror) ?_
    rintro ⟨hsymbol, hname, hkeyword, -⟩
    simp [hsymbol, hname, hkeyword] at h
  case isFalse h =>
    simp only [Bool.not_eq_true, Bool.or_eq_false_iff, Bool.not_eq_false', decide_eq_false_iff_not]
      at h
    simp [h.1.1, h.1.2, h.2, eq_comm]

/-- A type may have any symbol name with a capital or a digit in it, except for words that are no
names. -/
theorem typeIdent_of_capital (hsymbol : isSymbolName name = true) (hname : name ∉ unwritable)
    (hcapital : name.all Char.isLower = false) : typeIdent name = .ok ⟨name, false⟩ :=
  typeIdent_eq_ok_iff.2 ⟨hsymbol, hname, not_mem_keywords hcapital, rfl⟩

end TypeName

/-! ## 2. Constants -/

/-- What is taken from a list of names is taken for those behind it. -/
theorem nodup_cons_and_free_iff {α : Type} {c : α} {cs taken : List α} :
    ((c :: cs).Nodup ∧ ∀ d ∈ c :: cs, d ∉ taken) ↔
      c ∉ taken ∧ cs.Nodup ∧ ∀ d ∈ cs, d ∉ c :: taken := by
  rw [List.nodup_cons, List.forall_mem_cons]
  constructor
  · rintro ⟨⟨hc, hnodup⟩, hfree, hall⟩
    refine ⟨hfree, hnodup, fun d hd hmem => ?_⟩
    rcases List.mem_cons.1 hmem with rfl | hmem
    · exact hc hd
    · exact hall d hd hmem
  · rintro ⟨hfree, hnodup, hall⟩
    refine ⟨⟨fun hc => hall c hc List.mem_cons_self, hnodup⟩, hfree, fun d hd hmem => ?_⟩
    exact hall d hd (List.mem_cons_of_mem c hmem)

/-- Constants are found if they differ from each other and from the names that are taken. -/
theorem constNamesFrom_eq_ok_iff {methods : List Text} {taken : List (Text × Text)}
    {names consts : List Text} :
    constNamesFrom methods taken names = .ok consts ↔
    consts = names.map (constName methods) ∧ consts.Nodup ∧
      ∀ c ∈ consts, c ∉ taken.map Prod.fst := by
  induction names generalizing taken consts with
  | nil =>
    rw [constNamesFrom]
    constructor
    · intro h
      cases h
      simp
    · rintro ⟨rfl, _⟩
      rfl
  | cons name rest ih =>
    rw [constNamesFrom]
    cases hf : taken.find? (·.1 = constName methods name) with
    | some entry =>
      have hmem : constName methods name ∈ taken.map Prod.fst := by
        have hentry := List.find?_some hf
        rw [decide_eq_true_eq] at hentry
        exact hentry ▸ List.mem_map_of_mem (List.mem_of_find?_eq_some hf)
      simp only [reduceCtorEq, false_iff]
      rintro ⟨rfl, _, hfree⟩
      exact hfree _ List.mem_cons_self hmem
    | none =>
      have hfree := find?_key_eq_none_iff.1 hf
      simp only [map_eq_ok_iff, ih, List.map_cons]
      constructor
      · rintro ⟨_, ⟨rfl, hrest⟩, rfl⟩
        exact ⟨rfl, nodup_cons_and_free_iff.2 ⟨hfree, hrest⟩⟩
      · rintro ⟨rfl, hall⟩
        exact ⟨_, ⟨rfl, (nodup_cons_and_free_iff.1 hall).2⟩, rfl⟩

/-- The constants of methods are found if they differ from each other, from the methods and from the
constants of every binding. -/
theorem constNames_eq_ok_iff {methods consts : List Text} :
    constNames methods = .ok consts ↔
    consts = methods.map (constName methods) ∧ consts.Nodup ∧
      ∀ c ∈ consts, c ∉ reservedConsts ++ methods := by
  rw [constNames, constNamesFrom_eq_ok_iff, List.map_map]
  have hfst : (Prod.fst ∘ fun name : Text => (name, name)) = id := rfl
  rw [hfst, List.map_id]

/-! ## 3. The names of methods -/

/-- The names that stand for a method among the methods of an interface. -/
def namesOf (methods : List Text) (name : Text) : MethodNames :=
  ⟨identOf name, constName methods name⟩

/-- Names are generated exactly if no method's name is reserved and no constant is taken. -/
theorem methodNames_eq_ok_iff {methods : List Text} {names : List MethodNames} :
    methodNames methods = .ok names ↔
    names = methods.map (namesOf methods) ∧ (∀ name ∈ methods, ¬ Reserved name) ∧
      (methods.map (constName methods)).Nodup ∧
      ∀ c ∈ methods.map (constName methods), c ∉ reservedConsts ++ methods := by
  have hzip : ((methods.map identOf).zip (methods.map (constName methods))).map
      (fun names => (⟨names.1, names.2⟩ : MethodNames)) = methods.map (namesOf methods) := by
    rw [List.zip_map', List.map_map]
    rfl
  simp only [methodNames, bind_eq_ok_iff, pure_eq_ok_iff, mapM_methodIdent_eq_ok_iff,
    constNames_eq_ok_iff]
  constructor
  · rintro ⟨_, ⟨hfree, rfl⟩, _, ⟨rfl, hnodup, htaken⟩, rfl⟩
    exact ⟨hzip, hfree, hnodup, htaken⟩
  · rintro ⟨rfl, hfree, hnodup, htaken⟩
    exact ⟨_, ⟨hfree, rfl⟩, _, ⟨rfl, hnodup, htaken⟩, hzip⟩

end ForeignCall
