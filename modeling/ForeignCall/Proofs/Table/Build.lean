import ForeignCall.Proofs.Plan.Analysis
import ForeignCall.Table

/-!
# Building tables

A table may be built in one pass, each method planned and resolved before the next is looked at, or
planned as a whole and resolved afterwards.

* `BindingTable.build_eq`: the one pass is planning, then resolving what was planned, then failing
  if planning failed.
* `BindingTable.build_eq_fromPlan_or_error`: the two ways agree on every description that can be
  planned; on any other, the first missing symbol before the faulty method goes ahead of its fault.
  The symbols asked for are the first methods in order, up to the first that is missing.
-/

namespace ForeignCall

/-! ## 1. Resolving in order -/

namespace SymbolLookup

variable {lookup : SymbolLookup} {symbol : Text}

theorem resolve_of_find_eq_some {entry : EntryPoint} (h : lookup.find symbol = some entry) :
    lookup.resolve symbol = .ok entry := by
  rw [resolve, h, orError]

theorem resolve_of_find_eq_none (h : lookup.find symbol = none) :
    lookup.resolve symbol = .error (.symbolNotBound symbol lookup.origin) := by
  rw [resolve, h, orError]

/-- The first symbol that the lookup does not have. -/
def firstMissing? (lookup : SymbolLookup) (symbols : List Text) : Option Text :=
  symbols.find? fun symbol => (lookup.find symbol).isNone

/-- The symbols asked for when symbols are resolved in order: up to the first that is missing. -/
def askedFor (lookup : SymbolLookup) : List Text → List Text
  | [] => []
  | symbol :: rest =>
    if (lookup.find symbol).isNone then [symbol] else symbol :: lookup.askedFor rest

theorem firstMissing?_cons_of_none (h : lookup.find symbol = none) (rest : List Text) :
    lookup.firstMissing? (symbol :: rest) = some symbol := by
  simp [firstMissing?, h]

theorem firstMissing?_cons_of_some {entry : EntryPoint} (h : lookup.find symbol = some entry)
    (rest : List Text) : lookup.firstMissing? (symbol :: rest) = lookup.firstMissing? rest := by
  simp [firstMissing?, h]

theorem askedFor_cons_of_none (h : lookup.find symbol = none) (rest : List Text) :
    lookup.askedFor (symbol :: rest) = [symbol] := by
  simp [askedFor, h]

theorem askedFor_cons_of_some {entry : EntryPoint} (h : lookup.find symbol = some entry)
    (rest : List Text) : lookup.askedFor (symbol :: rest) = symbol :: lookup.askedFor rest := by
  simp [askedFor, h]

theorem askedFor_prefix (symbols : List Text) : lookup.askedFor symbols <+: symbols := by
  induction symbols with
  | nil => exact List.prefix_rfl
  | cons symbol rest ih =>
    cases h : lookup.find symbol with
    | none =>
      rw [askedFor_cons_of_none h]
      exact ⟨rest, rfl⟩
    | some entry =>
      rw [askedFor_cons_of_some h]
      exact List.cons_prefix_cons.2 ⟨rfl, ih⟩

/-- Only the last symbol asked for can be missing. -/
theorem find_isSome_of_mem_dropLast_askedFor {symbols : List Text}
    (h : symbol ∈ (lookup.askedFor symbols).dropLast) : (lookup.find symbol).isSome = true := by
  induction symbols with
  | nil => simp [askedFor] at h
  | cons first rest ih =>
    cases hf : lookup.find first with
    | none => simp [askedFor_cons_of_none hf] at h
    | some entry =>
      rw [askedFor_cons_of_some hf] at h
      cases hrest : lookup.askedFor rest with
      | nil => simp [hrest] at h
      | cons next more =>
        rw [hrest, List.dropLast_cons_of_ne_nil (by simp)] at h
        rcases List.mem_cons.1 h with rfl | h
        · rw [hf, Option.isSome_some]
        · exact ih (hrest ▸ h)

/-- A missing symbol that was asked for is the first one that is missing. -/
theorem firstMissing?_of_mem_askedFor {symbols : List Text} (h : symbol ∈ lookup.askedFor symbols)
    (missing : lookup.find symbol = none) : lookup.firstMissing? symbols = some symbol := by
  induction symbols with
  | nil => simp [askedFor] at h
  | cons first rest ih =>
    cases hf : lookup.find first with
    | none =>
      rw [askedFor_cons_of_none hf, List.mem_singleton] at h
      rw [firstMissing?_cons_of_none hf, h]
    | some entry =>
      rw [askedFor_cons_of_some hf] at h
      rw [firstMissing?_cons_of_some hf]
      rcases List.mem_cons.1 h with rfl | h
      · simp [missing] at hf
      · exact ih h

end SymbolLookup

namespace BindingTable

variable {lookup : SymbolLookup} {methods : List MethodPlan}

/-- Resolving asks for the symbols of the methods in order, up to the first that is missing. -/
theorem resolveAll_asked (lookup : SymbolLookup) (methods : List MethodPlan) :
    (resolveAll lookup methods).2 = lookup.askedFor (methods.map MethodPlan.symbol) := by
  induction methods with
  | nil => rfl
  | cons m rest ih =>
    rw [List.map_cons, resolveAll]
    cases h : lookup.find m.symbol with
    | none =>
      rw [SymbolLookup.resolve_of_find_eq_none h, SymbolLookup.askedFor_cons_of_none h]
    | some entry =>
      rw [SymbolLookup.resolve_of_find_eq_some h, SymbolLookup.askedFor_cons_of_some h, ← ih]

/-- Resolving fails on the first missing symbol, and only there. -/
theorem resolveAll_eq_error_iff {e : BindError} :
    (resolveAll lookup methods).1 = .error e ↔
    ∃ symbol, lookup.firstMissing? (methods.map MethodPlan.symbol) = some symbol ∧
      e = .symbolNotBound symbol lookup.origin := by
  induction methods with
  | nil => simp [resolveAll, SymbolLookup.firstMissing?]
  | cons m rest ih =>
    rw [List.map_cons, resolveAll]
    cases h : lookup.find m.symbol with
    | none =>
      rw [SymbolLookup.resolve_of_find_eq_none h, SymbolLookup.firstMissing?_cons_of_none h]
      simp [eq_comm]
    | some entry =>
      rw [SymbolLookup.resolve_of_find_eq_some h, SymbolLookup.firstMissing?_cons_of_some h, ← ih]
      exact map_eq_error_iff

/-- What is resolved are the methods in order, each with the entry point of its symbol. -/
theorem resolveAll_ok {bound : List MethodBinding}
    (h : (resolveAll lookup methods).1 = .ok bound) :
    bound.map MethodBinding.plan = methods ∧
    ∀ b ∈ bound, lookup.find b.plan.symbol = some b.entry := by
  induction methods generalizing bound with
  | nil =>
    cases h
    simp
  | cons m rest ih =>
    rw [resolveAll] at h
    cases hf : lookup.find m.symbol with
    | none => simp [SymbolLookup.resolve_of_find_eq_none hf] at h
    | some entry =>
      rw [SymbolLookup.resolve_of_find_eq_some hf] at h
      obtain ⟨more, hr, rfl⟩ := map_eq_ok_iff.1 h
      obtain ⟨hplan, hentry⟩ := ih hr
      exact ⟨by simp [hplan], List.forall_mem_cons.2 ⟨hf, hentry⟩⟩

theorem fromPlan_eq_ok_iff {p : Plan} {lookup : SymbolLookup} {t : BindingTable} :
    (fromPlan p lookup).1 = .ok t ↔
    ∃ bound, (resolveAll lookup p.methods).1 = .ok bound ∧ ⟨p.interface, bound⟩ = t :=
  map_eq_ok_iff

theorem fromPlan_eq_error_iff {p : Plan} {lookup : SymbolLookup} {e : BindError} :
    (fromPlan p lookup).1 = .error e ↔ (resolveAll lookup p.methods).1 = .error e :=
  map_eq_error_iff

/-- A table that was built has the methods of the plan. -/
theorem plans_of_fromPlan {p : Plan} {lookup : SymbolLookup} {t : BindingTable}
    (h : (fromPlan p lookup).1 = .ok t) : t.methods.map MethodBinding.plan = p.methods := by
  obtain ⟨bound, hr, rfl⟩ := fromPlan_eq_ok_iff.1 h
  exact (resolveAll_ok hr).1

/-- A table that was built has the entry points of the symbols. -/
theorem find_of_fromPlan {p : Plan} {lookup : SymbolLookup} {t : BindingTable}
    (h : (fromPlan p lookup).1 = .ok t) :
    ∀ b ∈ t.methods, lookup.find b.plan.symbol = some b.entry := by
  obtain ⟨bound, hr, rfl⟩ := fromPlan_eq_ok_iff.1 h
  exact (resolveAll_ok hr).2

/-! ## 2. One pass -/

/-- The visitor of a build does what resolving does; what it bound before a failure is lost. -/
theorem visitAll_bindMethod (lookup : SymbolLookup) (methods : List MethodPlan)
    (progress : Progress) :
    (visitAll (bindMethod lookup) methods progress).1 =
        (resolveAll lookup methods).1.map (fun _ => ()) ∧
    (visitAll (bindMethod lookup) methods progress).2.asked =
        progress.asked ++ (resolveAll lookup methods).2 ∧
    ∀ bound, (resolveAll lookup methods).1 = .ok bound →
      (visitAll (bindMethod lookup) methods progress).2.bound = progress.bound ++ bound := by
  induction methods generalizing progress with
  | nil => simp [visitAll, resolveAll, Except.map]
  | cons m rest ih =>
    cases h : lookup.find m.symbol with
    | none =>
      simp [visitAll, bindMethod, resolveAll, SymbolLookup.resolve_of_find_eq_none h, Except.map]
    | some entry =>
      obtain ⟨hresult, hasked, hbound⟩ :=
        ih ⟨progress.asked ++ [m.symbol], progress.bound ++ [⟨m, entry⟩]⟩
      simp only [visitAll, bindMethod, resolveAll, SymbolLookup.resolve_of_find_eq_some h]
      refine ⟨?_, ?_, ?_⟩
      · rw [hresult]
        cases (resolveAll lookup rest).1 <;> rfl
      · rw [hasked, List.append_assoc, List.singleton_append]
      · intro bound hb
        obtain ⟨more, hr, rfl⟩ := map_eq_ok_iff.1 hb
        rw [hbound more hr, List.append_assoc, List.singleton_append]

/-- A build resolves the methods that can be planned, then fails if planning failed. -/
theorem build_eq (d : Description) (lookup : SymbolLookup) :
    build d lookup =
      ((resolveAll lookup (planned none 0 d.sorted).1).1.bind fun bound =>
          unlessFailed ⟨d.name, bound⟩ (planned none 0 d.sorted).2,
        (resolveAll lookup (planned none 0 d.sorted).1).2) := by
  obtain ⟨hresult, hasked, hbound⟩ :=
    visitAll_bindMethod lookup (planned none 0 d.sorted).1 ⟨[], []⟩
  simp only [build, Plan.analyzeWith_eq]
  generalize visitAll (bindMethod lookup) (planned none 0 d.sorted).1 ⟨[], []⟩ = visited
    at hresult hasked hbound
  obtain ⟨result, progress⟩ := visited
  cases hr : (resolveAll lookup (planned none 0 d.sorted).1).1 with
  | error e =>
    rw [hr] at hresult
    simp only [Except.map] at hresult
    simp_all [Except.bind, Except.map]
  | ok bound =>
    rw [hr] at hresult
    simp only [Except.map] at hresult
    have hb := hbound bound hr
    cases hf : (planned none 0 d.sorted).2 <;>
      simp_all [Except.bind, Except.map, unlessFailed]

/-! ## 3. One pass or two -/

/-- On a plan, one pass and two are the same. -/
theorem build_eq_fromPlan {d : Description} {p : Plan} (h : Plan.analyze d = .ok p)
    (lookup : SymbolLookup) : build d lookup = fromPlan p lookup := by
  obtain ⟨rfl, hnone⟩ := Plan.analyze_eq_ok_iff.1 h
  rw [build_eq, hnone]
  simp only [fromPlan]
  cases (resolveAll lookup (planned none 0 d.sorted).1).1 <;> rfl

/-- A build asks for the symbols it can plan. -/
theorem build_asked (d : Description) (lookup : SymbolLookup) :
    (build d lookup).2 =
      lookup.askedFor ((planned none 0 d.sorted).1.map MethodPlan.symbol) := by
  rw [build_eq, resolveAll_asked]

/-- A missing symbol that can be planned makes the build fail with its name. -/
theorem build_of_firstMissing {d : Description} {lookup : SymbolLookup} {symbol : Text}
    (h : lookup.firstMissing? ((planned none 0 d.sorted).1.map MethodPlan.symbol) = some symbol) :
    (build d lookup).1 = .error (.symbolNotBound symbol lookup.origin) := by
  rw [build_eq, resolveAll_eq_error_iff.2 ⟨symbol, h, rfl⟩]
  rfl

/-- Without a missing symbol the build fails only if planning does. -/
theorem build_of_noneMissing {d : Description} {lookup : SymbolLookup}
    (h : lookup.firstMissing? ((planned none 0 d.sorted).1.map MethodPlan.symbol) = none) :
    ∃ bound, (build d lookup).1 =
      unlessFailed ⟨d.name, bound⟩ (planned none 0 d.sorted).2 := by
  cases hr : (resolveAll lookup (planned none 0 d.sorted).1).1 with
  | error e =>
    obtain ⟨symbol, hs, _⟩ := resolveAll_eq_error_iff.1 hr
    simp [h] at hs
  | ok bound =>
    refine ⟨bound, ?_⟩
    rw [build_eq, hr]
    rfl

/-- The error of a build: the first missing symbol among those before the fault, or the fault. -/
theorem build_eq_error {d : Description} {e : BindError} {before : List Signature}
    (lookup : SymbolLookup) (h : Plan.analyze d = .error e)
    (hbefore : (planned none 0 d.sorted).1.map MethodPlan.symbol = before.map Signature.name) :
    (build d lookup).1 = .error
      (match lookup.firstMissing? (before.map Signature.name) with
        | some symbol => .symbolNotBound symbol lookup.origin
        | none => e) := by
  rw [← hbefore]
  cases hm : lookup.firstMissing? ((planned none 0 d.sorted).1.map MethodPlan.symbol) with
  | some symbol => exact build_of_firstMissing hm
  | none =>
    obtain ⟨bound, hb⟩ := build_of_noneMissing hm
    rw [hb, Plan.analyze_eq_error_iff.1 h]
    rfl

/-- A table that is built is the one of the plan. -/
theorem exists_plan_of_build {d : Description} {lookup : SymbolLookup} {t : BindingTable}
    (h : (build d lookup).1 = .ok t) :
    ∃ p, Plan.analyze d = .ok p ∧ (fromPlan p lookup).1 = .ok t := by
  cases hp : Plan.analyze d with
  | ok p => exact ⟨p, rfl, build_eq_fromPlan hp lookup ▸ h⟩
  | error e =>
    obtain ⟨before, s, -, hbefore⟩ := Plan.exists_failsAt hp
    rw [build_eq_error lookup hp hbefore] at h
    cases h

/-- Building in one pass against planning and then resolving. Where a description can be planned the
two give the same table or the same missing symbol and ask for the same symbols. Where it fails with
`e` on a method, the build fails too: on the first symbol before that method that is missing, or
else with `e`. The symbols asked for are always the first methods in strict order, and only the last
of them can be missing, which then is the error. -/
theorem build_eq_fromPlan_or_error (d : Description) (lookup : SymbolLookup) :
    (∀ p, Plan.analyze d = .ok p →
      build d lookup = fromPlan p lookup ∧
      (build d lookup).2 = lookup.askedFor (d.sorted.map Signature.name) ∧
      ∀ e, (build d lookup).1 = .error e → ∃ symbol,
        lookup.firstMissing? (d.sorted.map Signature.name) = some symbol ∧
        e = .symbolNotBound symbol lookup.origin) ∧
    (∀ e, Plan.analyze d = .error e → ∃ before s, Plan.FailsAt d before s e ∧
      (build d lookup).1 = .error
        (match lookup.firstMissing? (before.map Signature.name) with
          | some symbol => .symbolNotBound symbol lookup.origin
          | none => e) ∧
      (build d lookup).2 = lookup.askedFor (before.map Signature.name)) ∧
    (build d lookup).2 <+: d.sorted.map Signature.name ∧
    (build d lookup).2.Pairwise Text.Before ∧
    (∀ symbol ∈ (build d lookup).2.dropLast, (lookup.find symbol).isSome = true) ∧
    ∀ symbol ∈ (build d lookup).2, lookup.find symbol = none →
      (build d lookup).1 = .error (.symbolNotBound symbol lookup.origin) := by
  refine ⟨fun p hp => ⟨build_eq_fromPlan hp lookup, ?_, fun e he => ?_⟩, fun e he => ?_, ?_, ?_,
    fun symbol hs => ?_, fun symbol hs hmissing => ?_⟩
  · obtain ⟨_, hnone⟩ := Plan.analyze_eq_ok_iff.1 hp
    rw [build_asked, planned_symbols_of_none hnone]
  · rw [build_eq_fromPlan hp] at he
    rw [← Plan.analyze_symbols hp]
    exact resolveAll_eq_error_iff.1 (fromPlan_eq_error_iff.1 he)
  · obtain ⟨before, s, hfails, hsymbols⟩ := Plan.exists_failsAt he
    exact ⟨before, s, hfails, build_eq_error lookup he hsymbols, by rw [build_asked, hsymbols]⟩
  · rw [build_asked]
    exact (SymbolLookup.askedFor_prefix _).trans planned_symbols_prefix
  · rw [build_asked]
    exact (planned_before d.sorted_pairwise (by simp)).1.sublist
      (SymbolLookup.askedFor_prefix _).sublist
  · rw [build_asked] at hs
    exact SymbolLookup.find_isSome_of_mem_dropLast_askedFor hs
  · rw [build_asked] at hs
    exact build_of_firstMissing (SymbolLookup.firstMissing?_of_mem_askedFor hs hmissing)

end BindingTable
end ForeignCall
