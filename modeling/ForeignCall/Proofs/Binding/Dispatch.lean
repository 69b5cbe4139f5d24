import ForeignCall.Binding.Generate
import ForeignCall.Proofs.Binding.Names
import ForeignCall.Proofs.Binding.Stub
import ForeignCall.Proofs.Plan.Analysis
import ForeignCall.Table

/-!
# Generated bindings and tables

The code of a typed binding finds methods by its own arms, constants, stubs and fields, a table by
its places. Over one plan the two find the same methods and call them alike.

* `generated_of_typedBinding`: the code of a well-formed plan has one arm, constant, stub and field
  for each method, named apart.
* `Generated.bind_eq`: binding resolves what the table of the plan resolves.
* `Generated.methodId_eq`, `Generated.call_eq`, `Generated.callByName_eq`: the dispatches are those
  of the table.
-/

namespace ForeignCall

/-! ## 1. The code of a plan -/

namespace Plan

def symbols (p : Plan) : List Text := p.methods.map MethodPlan.symbol

/-- The names that stand for a method of the plan. -/
def namesOf (p : Plan) (m : MethodPlan) : MethodNames := ForeignCall.namesOf p.symbols m.symbol

end Plan

/-- The code `b` is that of the well-formed plan `p`, part by part. -/
structure Generated (p : Plan) (b : TypedBinding) : Prop where
  plan : p.WellFormed
  constsNodup : (p.methods.map fun m => (p.namesOf m).const).Nodup
  consts : b.consts = p.methods.map fun m => ⟨(p.namesOf m).const, m.symbol, m.id.index⟩
  resolutions : b.resolutions = p.methods.map fun m => (identOf m.symbol, m.symbol)
  stubs : b.stubs = p.methods.map fun m => Stub.ofMethod m (p.namesOf m)
  nameArms : b.nameArms = p.methods.map fun m => ⟨m.symbol, (p.namesOf m).const⟩
  callArms : b.callArms = p.methods.map fun m =>
    ⟨m.id.index, m.symbol, m.arity, m.params.map Extractor.ofType, identOf m.symbol⟩

theorem map_methods_zip_names {α : Type} (p : Plan) (f : MethodPlan × MethodNames → α) :
    (p.methods.zip (p.symbols.map (namesOf p.symbols))).map f =
      p.methods.map fun m => f (m, p.namesOf m) := by
  have hzip : p.methods.zip (p.symbols.map (namesOf p.symbols)) =
      p.methods.map fun m => (m, p.namesOf m) := by
    calc p.methods.zip (p.symbols.map (namesOf p.symbols))
      _ = (p.methods.map id).zip (p.methods.map p.namesOf) := by
        rw [List.map_id, Plan.symbols, List.map_map]
        rfl
      _ = p.methods.map fun m => (m, p.namesOf m) := List.zip_map'
  rw [hzip, List.map_map]
  rfl

theorem typedBinding_eq_ok_iff {p : Plan} {b : TypedBinding} :
    typedBinding p = .ok b ↔
    ∃ type names, typeIdent p.interface = .ok type ∧ methodNames p.symbols = .ok names ∧
      b = .ofPlan p type names := by
  have hsymbols : p.methods.map MethodPlan.symbol = p.symbols := rfl
  simp only [typedBinding, hsymbols, bind_eq_ok_iff, pure_eq_ok_iff, exists_and_left,
    eq_comm (a := b)]

/-- The code of a plan is made only with names that are apart. -/
theorem generated_of_typedBinding {p : Plan} {b : TypedBinding} (hp : p.WellFormed)
    (h : typedBinding p = .ok b) : Generated p b := by
  obtain ⟨type, names, _, hn, rfl⟩ := typedBinding_eq_ok_iff.1 h
  obtain ⟨rfl, _, hnodup, _⟩ := methodNames_eq_ok_iff.1 hn
  rw [Plan.symbols, List.map_map] at hnodup
  exact {
    plan := hp
    constsNodup := hnodup
    consts := map_methods_zip_names p _
    resolutions := map_methods_zip_names p _
    stubs := map_methods_zip_names p _
    nameArms := map_methods_zip_names p _
    callArms := map_methods_zip_names p _ }

/-! ## 2. Binding -/

/-- A table as a value of the generated type: each field holds the entry point of its method. -/
def BindingTable.toBound (t : BindingTable) : Bound :=
  ⟨t.methods.map fun m => (identOf m.plan.symbol, m.entry)⟩

/-- Fields are resolved as methods are. -/
theorem resolveFields_eq (lookup : SymbolLookup) (methods : List MethodPlan) :
    resolveFields lookup (methods.map fun m => (identOf m.symbol, m.symbol)) =
      ((BindingTable.resolveAll lookup methods).1.map
          (List.map fun m => (identOf m.plan.symbol, m.entry)),
        (BindingTable.resolveAll lookup methods).2) := by
  induction methods with
  | nil => rfl
  | cons m rest ih =>
    rw [List.map_cons, resolveFields, BindingTable.resolveAll]
    cases lookup.resolve m.symbol with
    | error e => rfl
    | ok entry =>
      simp only [ih]
      cases (BindingTable.resolveAll lookup rest).1 <;> rfl

namespace Generated

variable {p : Plan} {b : TypedBinding}

/-- Binding the generated type is building the table of the plan. -/
theorem bind_eq (h : Generated p b) (lookup : SymbolLookup) :
    b.bind lookup =
      ((BindingTable.fromPlan p lookup).1.map BindingTable.toBound,
        (BindingTable.fromPlan p lookup).2) := by
  simp only [TypedBinding.bind, h.resolutions, resolveFields_eq, BindingTable.fromPlan]
  cases (BindingTable.resolveAll lookup p.methods).1 <;> rfl

theorem nodup_symbols (h : Generated p b) : p.symbols.Nodup := Text.nodup_of_before h.plan.ordered

theorem nodup_idents (h : Generated p b) : (p.methods.map fun m => identOf m.symbol).Nodup := by
  have hnodup : (p.symbols.map identOf).Nodup :=
    List.Pairwise.map identOf (fun _ _ hne he => hne (identOf_injective he)) h.nodup_symbols
  rwa [Plan.symbols, List.map_map] at hnodup

end Generated

/-! ## 3. Finding methods -/

/-- The entry point of a method stands in the field of the method. -/
theorem BindingTable.entry?_toBound {t : BindingTable} {m : MethodBinding}
    (nodup : (t.methods.map fun m => identOf m.plan.symbol).Nodup) (h : m ∈ t.methods) :
    t.toBound.entry? (identOf m.plan.symbol) = some m.entry := by
  have hfind := find?_key_of_mem nodup h
  simp only [Bound.entry?, toBound, List.find?_map, Function.comp_def, hfind, Option.map_some]

/-- A table finds a method by its name as one would from the left. -/
theorem BindingTable.methodId?_eq {p : Plan} {t : BindingTable} (hp : p.WellFormed)
    (ht : t.methods.map MethodBinding.plan = p.methods) (name : Text) :
    t.methodId? name = (p.methods.find? (·.symbol = name)).map MethodPlan.id := by
  have hkeys : t.methods.map (·.plan.symbol) = p.symbols := by
    rw [Plan.symbols, ← ht, List.map_map]
    rfl
  have hsearch : ∀ i, Plan.search Text.le p.symbols name 0 p.symbols.length = some i ↔
      p.symbols[i]? = some name := fun i => Plan.search_eq_some_iff hp.ordered
  rw [methodId?, hkeys]
  cases hs : Plan.search Text.le p.symbols name 0 p.symbols.length with
  | none =>
    have hnone : name ∉ p.symbols := fun hmem => by
      obtain ⟨i, hi⟩ := List.getElem?_of_mem hmem
      simp [(hsearch i).2 hi] at hs
    rw [find?_key_eq_none_iff.2 hnone]
    rfl
  | some i =>
    have hi := (hsearch i).1 hs
    rw [Plan.symbols, ← ht, List.map_map, List.getElem?_map, Option.map_eq_some_iff] at hi
    obtain ⟨m, hm, hname⟩ := hi
    have hmem : m.plan ∈ p.methods := ht ▸ List.mem_map_of_mem (List.mem_of_getElem? hm)
    rw [(find?_key_eq_some_iff (Text.nodup_of_before hp.ordered)).2 ⟨hmem, hname⟩]
    simp [hm]

namespace Generated

variable {p : Plan} {b : TypedBinding} {t : BindingTable}

theorem const?_eq (h : Generated p b) {m : MethodPlan} (hm : m ∈ p.methods) :
    b.const? (p.namesOf m).const = some m.id := by
  have hfind := find?_key_of_mem h.constsNodup hm
  rw [TypedBinding.const?, h.consts, List.find?_map]
  exact congrArg (fun found => (Option.map _ found).map _) hfind

theorem methodId_eq (h : Generated p b) (ht : t.methods.map MethodBinding.plan = p.methods)
    (name : Text) :
    b.methodId name = some (orError (.unknownMethod name) (t.methodId? name)) := by
  rw [BindingTable.methodId?_eq h.plan ht, TypedBinding.methodId, h.nameArms, List.find?_map]
  simp only [Function.comp_def]
  cases hm : p.methods.find? (·.symbol = name) with
  | none => rfl
  | some m => exact congrArg (Option.map Except.ok) (h.const?_eq (List.mem_of_find?_eq_some hm))

theorem stub?_eq (h : Generated p b) {m : MethodPlan} (hm : m ∈ p.methods) :
    b.stub? (identOf m.symbol) = some (Stub.ofMethod m (p.namesOf m)) := by
  have hfind := find?_key_of_mem h.nodup_idents hm
  rw [TypedBinding.stub?, h.stubs, List.find?_map]
  exact congrArg (Option.map _) hfind

/-! ## 4. Calls -/

/-- The arm of a method in the dispatch by number. -/
def armOf (m : MethodPlan) : CallArm :=
  ⟨m.id.index, m.symbol, m.arity, m.params.map Extractor.ofType, identOf m.symbol⟩

theorem callArm?_eq (h : Generated p b) (index : Nat) :
    b.callArms.find? (·.index = index) = p.methods[index]?.map armOf := by
  have hplaces : ∀ (i : Nat) (m : MethodPlan), p.methods[i]? = some m → m.id.index = i := by
    intro i m hm
    rw [h.plan.ids i m hm]
  rw [h.callArms, List.find?_map, ← find?_key_eq_getElem? hplaces index]
  rfl

/-- A typed call of a checked method ends as the call through the table. -/
theorem run_stub_eq {σ : Type} (h : Generated p b)
    (ht : t.methods.map MethodBinding.plan = p.methods) (code : NativeCode σ) {m : MethodBinding}
    (hm : m ∈ t.methods) {args : List Value} {managed : List ManagedArg}
    (hc : m.check args = .ok managed) (w : World σ) :
    ∃ stub, b.stub? (identOf m.plan.symbol) = some stub ∧
      (stub.run t.toBound code managed w).map StubResult.outcome = some (m.invoke code args w) := by
  have hfield : t.toBound.entry? (identOf m.plan.symbol) = some m.entry := by
    refine BindingTable.entry?_toBound ?_ hm
    have hidents := h.nodup_idents
    rwa [← ht, List.map_map] at hidents
  exact ⟨_, h.stub?_eq (ht ▸ List.mem_map_of_mem hm),
    Stub.run_ofMethod code w hfield hc (MethodBinding.types_of_check hc)⟩

/-- The dispatch by number calls as the table does. -/
theorem call_eq {σ : Type} (h : Generated p b) (ht : t.methods.map MethodBinding.plan = p.methods)
    (code : NativeCode σ) (id : MethodId) (args : List Value) (w : World σ) :
    b.call t.toBound code id args w = some (t.invoke code id args w) := by
  rw [TypedBinding.call, h.callArm?_eq, ← ht, List.getElem?_map, BindingTable.invoke,
    BindingTable.method?]
  cases hm : t.methods[id.index]? with
  | none => rfl
  | some m =>
    have hmem := List.mem_of_getElem? hm
    have hplan : m.plan ∈ p.methods := ht ▸ List.mem_map_of_mem hmem
    -- The checks of the arm are those of the call, one after the other.
    simp only [Option.map_some, armOf, runExtractors_ofType (h.plan.params m.plan hplan)]
    by_cases hlength : args.length = m.plan.arity
    case neg =>
      rw [checkArity, if_neg hlength,
        MethodBinding.invoke_of_check_error (MethodBinding.check_of_length_ne hlength)]
    rw [checkArity, if_pos hlength, ← MethodBinding.check_of_length_eq hlength]
    cases hc : m.check args with
    | error e =>
      rw [MethodBinding.invoke_of_check_error hc]
    | ok managed =>
      obtain ⟨stub, hstub, hrun⟩ := h.run_stub_eq ht code hmem hc w
      obtain ⟨outcome, hstubRun, hinvoke⟩ := Option.map_eq_some_iff.1 hrun
      simp only [hstub, Option.bind_eq_bind, Option.bind_some, hstubRun]
      exact congrArg some hinvoke

/-- The dispatch by name calls as the table does. -/
theorem callByName_eq {σ : Type} (h : Generated p b)
    (ht : t.methods.map MethodBinding.plan = p.methods) (code : NativeCode σ) (name : Text)
    (args : List Value) (w : World σ) :
    b.callByName t.toBound code name args w =
      some (match t.methodId? name with
        | none => (.error (.unknownMethod name), w)
        | some id => t.invoke code id args w) := by
  rw [TypedBinding.callByName, h.methodId_eq ht]
  cases t.methodId? name with
  | none => rfl
  | some id => exact h.call_eq ht code id args w

end Generated
end ForeignCall
