import ForeignCall.Plan
import ForeignCall.Proofs.Fallible
import ForeignCall.Proofs.Text.Order

/-!
# What a plan holds

Planning with a visitor is planning first and visiting afterwards: the methods that can be settled
do not depend on the visitor, and neither does the failure after them.

* `planWalk_eq`: the walk visits the planned methods in order; if the visitor stops no one, the walk
  ends as planning alone does.
* `Plan.analyze_wellFormed`: a plan's methods are numbered by their places, lie in strict order of
  their symbols, are named like symbols and have no void parameters.
* `Plan.exists_failsAt`: a failure belongs to one signature, the first in the order of names that
  cannot be settled.
-/

namespace ForeignCall

/-! ## 1. Settled methods -/

/-- The methods of the signatures up to the first that cannot be settled, and why it cannot. -/
def planned (previous : Option Text) (index : Nat) :
    List Signature → List MethodPlan × Option BindError
  | [] => ([], none)
  | s :: rest =>
    match planMethod previous index s with
    | .error e => ([], some e)
    | .ok m =>
      let (methods, failure) := planned (some s.name) (index + 1) rest
      (m :: methods, failure)

/-- Shows methods to a visitor, up to the first at which it stops. -/
def visitAll {τ : Type} (visit : Visitor τ) : List MethodPlan → τ → Except BindError Unit × τ
  | [], t => (.ok (), t)
  | m :: rest, t =>
    match visit m t with
    | (.error e, t) => (.error e, t)
    | (.ok (), t) => visitAll visit rest t

/-- A value, unless there is a failure. -/
def unlessFailed {α : Type} (a : α) : Option BindError → Except BindError α
  | none => .ok a
  | some e => .error e

theorem planned_cons_of_ok {previous : Option Text} {index : Nat} {s : Signature}
    {m : MethodPlan} (h : planMethod previous index s = .ok m) (rest : List Signature) :
    planned previous index (s :: rest) =
      (m :: (planned (some s.name) (index + 1) rest).1,
        (planned (some s.name) (index + 1) rest).2) := by
  simp [planned, h]

theorem planned_cons_of_error {previous : Option Text} {index : Nat} {s : Signature}
    {e : BindError} (h : planMethod previous index s = .error e) (rest : List Signature) :
    planned previous index (s :: rest) = ([], some e) := by
  simp [planned, h]

/-- The walk is planning, then visiting what was planned. -/
theorem planWalk_eq {τ : Type} (visit : Visitor τ) (previous : Option Text) (index : Nat)
    (signatures : List Signature) (t : τ) :
    planWalk visit previous index signatures t =
      match visitAll visit (planned previous index signatures).1 t with
      | (.error e, t) => (.error e, t)
      | (.ok (), t) =>
        (unlessFailed (planned previous index signatures).1
          (planned previous index signatures).2, t) := by
  induction signatures generalizing previous index t with
  | nil => rfl
  | cons s rest ih =>
    cases h : planMethod previous index s with
    | error e => simp [planWalk, h, planned_cons_of_error h, visitAll, unlessFailed]
    | ok m =>
      simp only [planWalk, h, planned_cons_of_ok h, visitAll]
      rcases visit m t with ⟨e | _, t⟩
      · rfl
      · simp only [ih]
        rcases visitAll visit (planned (some s.name) (index + 1) rest).1 t with ⟨e | _, t⟩
        · rfl
        · cases (planned (some s.name) (index + 1) rest).2 <;> rfl

/-! ## 2. One method -/

theorem planParams_cons_eq_ok_iff {symbol : Text} {position : Nat} {spec : TypeSpec}
    {specs : List TypeSpec} {types : List SemanticType} :
    planParams symbol position (spec :: specs) = .ok types ↔
    ∃ type rest, spec.resolve = some type ∧ type.isParam = true ∧
      planParams symbol (position + 1) specs = .ok rest ∧ types = type :: rest := by
  rw [planParams]
  cases spec.resolve with
  | none => simp
  | some type =>
    by_cases hparam : type.isParam = true
    · simp [hparam, map_eq_ok_iff, eq_comm (b := types)]
    · simp [hparam]

theorem planParams_isParam {symbol : Text} {position : Nat} {specs : List TypeSpec}
    {types : List SemanticType} (h : planParams symbol position specs = .ok types) :
    ∀ t ∈ types, t.isParam = true := by
  induction specs generalizing position types with
  | nil =>
    cases h
    simp
  | cons spec specs ih =>
    obtain ⟨type, rest, -, hparam, hrest, rfl⟩ := planParams_cons_eq_ok_iff.1 h
    exact List.forall_mem_cons.2 ⟨hparam, ih hrest⟩

/-- The types of a signature, those of the parameters and that of the result. -/
def planTypes (s : Signature) : Except BindError (List SemanticType × SemanticType) := do
  let params ← planParams s.name 0 s.params
  let ret ← orError (.unsupportedType s.name .ret s.ret.text) s.ret.resolve
  return (params, ret)

theorem planTypes_eq_ok_iff {s : Signature} {types : List SemanticType × SemanticType} :
    planTypes s = .ok types ↔
    planParams s.name 0 s.params = .ok types.1 ∧ s.ret.resolve = some types.2 := by
  simp only [planTypes, bind_eq_ok_iff, orError_eq_ok_iff, pure_eq_ok_iff]
  constructor
  · rintro ⟨params, hparams, ret, hret, rfl⟩
    exact ⟨hparams, hret⟩
  · rintro ⟨hparams, hret⟩
    exact ⟨_, hparams, _, hret, rfl⟩

section Method

variable {previous : Option Text} {index : Nat} {s : Signature} {m : MethodPlan}

theorem planMethod_of_invalid (h : isSymbolName s.name = false) :
    planMethod previous index s = .error (.invalidSymbolName s.name) := by
  rw [planMethod, h]
  rfl

theorem planMethod_of_duplicate (hvalid : isSymbolName s.name = true)
    (h : previous = some s.name) :
    planMethod previous index s = .error (.duplicateMethod s.name) := by
  simp only [planMethod, hvalid, h]
  rfl

/-- A signature whose name can be used and is new is settled if its types are. -/
theorem planMethod_of_new (hvalid : isSymbolName s.name = true) (h : previous ≠ some s.name) :
    planMethod previous index s =
      (planTypes s).map fun types => ⟨⟨index⟩, s.name, types.1, types.2⟩ := by
  simp only [planMethod, planTypes, hvalid, h]
  cases planParams s.name 0 s.params with
  | error e => rfl
  | ok params => cases s.ret.resolve <;> rfl

theorem planMethod_eq_ok_iff :
    planMethod previous index s = .ok m ↔
    isSymbolName s.name = true ∧ previous ≠ some s.name ∧
      ∃ types, planTypes s = .ok types ∧ m = ⟨⟨index⟩, s.name, types.1, types.2⟩ := by
  cases hvalid : isSymbolName s.name with
  | false => simp [planMethod_of_invalid hvalid]
  | true =>
    by_cases hnew : previous = some s.name
    · rw [planMethod_of_duplicate hvalid hnew]
      simp [hnew]
    · rw [planMethod_of_new hvalid hnew]
      simp [map_eq_ok_iff, hnew, eq_comm (b := m)]

/-- What it takes to settle a signature. -/
structure Settled (previous : Option Text) (index : Nat) (s : Signature) (m : MethodPlan) :
    Prop where
  id : m.id = ⟨index⟩
  symbol : m.symbol = s.name
  named : isSymbolName m.symbol = true
  new : previous ≠ some m.symbol
  params : ∀ t ∈ m.params, t.isParam = true

theorem settled_of_planMethod (h : planMethod previous index s = .ok m) :
    Settled previous index s m := by
  obtain ⟨hvalid, hnew, types, htypes, rfl⟩ := planMethod_eq_ok_iff.1 h
  exact ⟨rfl, rfl, hvalid, hnew, planParams_isParam (planTypes_eq_ok_iff.1 htypes).1⟩

end Method

/-! ## 3. Planned methods -/

variable {previous : Option Text} {index : Nat} {signatures : List Signature}

theorem planned_id {i : Nat} {m : MethodPlan}
    (h : (planned previous index signatures).1[i]? = some m) : m.id = ⟨index + i⟩ := by
  induction signatures generalizing previous index i with
  | nil => simp [planned] at h
  | cons s rest ih =>
    cases hs : planMethod previous index s with
    | error e => simp [planned_cons_of_error hs] at h
    | ok first =>
      rw [planned_cons_of_ok hs] at h
      cases i with
      | zero =>
        simp only [List.getElem?_cons_zero, Option.some.injEq] at h
        exact h ▸ (settled_of_planMethod hs).id
      | succ i =>
        rw [List.getElem?_cons_succ] at h
        rw [ih h, Nat.add_assoc, Nat.add_comm 1 i]

/-- Every planned method is a signature that was settled. -/
theorem exists_settled_of_mem_planned {m : MethodPlan}
    (h : m ∈ (planned previous index signatures).1) :
    ∃ previous index, ∃ s ∈ signatures, Settled previous index s m := by
  induction signatures generalizing previous index with
  | nil => simp [planned] at h
  | cons s rest ih =>
    cases hs : planMethod previous index s with
    | error e => simp [planned_cons_of_error hs] at h
    | ok first =>
      rw [planned_cons_of_ok hs] at h
      cases h with
      | head => exact ⟨previous, index, s, List.mem_cons_self, settled_of_planMethod hs⟩
      | tail _ h =>
        obtain ⟨previous', index', s', hs', settled⟩ := ih h
        exact ⟨previous', index', s', List.mem_cons_of_mem s hs', settled⟩

/-- The symbols planned are the names of the first signatures. -/
theorem planned_symbols_prefix :
    (planned previous index signatures).1.map MethodPlan.symbol <+:
      signatures.map Signature.name := by
  induction signatures generalizing previous index with
  | nil => simp [planned]
  | cons s rest ih =>
    cases hs : planMethod previous index s with
    | error e => simp [planned_cons_of_error hs]
    | ok m =>
      rw [planned_cons_of_ok hs]
      simpa [(settled_of_planMethod hs).symbol] using ih

/-- If nothing fails, every signature is planned. -/
theorem planned_symbols_of_none (h : (planned previous index signatures).2 = none) :
    (planned previous index signatures).1.map MethodPlan.symbol =
      signatures.map Signature.name := by
  induction signatures generalizing previous index with
  | nil => simp [planned]
  | cons s rest ih =>
    cases hs : planMethod previous index s with
    | error e => simp [planned_cons_of_error hs] at h
    | ok m =>
      rw [planned_cons_of_ok hs] at h ⊢
      simp [(settled_of_planMethod hs).symbol, ih h]

/-- Among signatures in the order of their names no symbol is planned twice. -/
theorem planned_before (sorted : signatures.Pairwise fun a b => Text.le a.name b.name = true)
    (first : ∀ a, previous = some a → ∀ s ∈ signatures, Text.le a s.name = true) :
    ((planned previous index signatures).1.map MethodPlan.symbol).Pairwise Text.Before ∧
    ∀ a, previous = some a → ∀ m ∈ (planned previous index signatures).1,
      Text.Before a m.symbol := by
  induction signatures generalizing previous index with
  | nil => simp [planned]
  | cons s rest ih =>
    cases hs : planMethod previous index s with
    | error e => simp [planned_cons_of_error hs]
    | ok m =>
      have settled := settled_of_planMethod hs
      obtain ⟨hhead, htail⟩ := List.pairwise_cons.1 sorted
      obtain ⟨hpair, hafter⟩ := @ih (some s.name) (index + 1) htail
        (fun a ha t ht => by cases ha; exact hhead t ht)
      have hm : ∀ m' ∈ (planned (some s.name) (index + 1) rest).1,
          Text.Before m.symbol m'.symbol := by
        rw [settled.symbol]
        exact hafter s.name rfl
      rw [planned_cons_of_ok hs]
      constructor
      · rw [List.map_cons, List.pairwise_cons]
        exact ⟨List.forall_mem_map.2 hm, hpair⟩
      · intro a ha m' hm'
        -- The name before may be equal in the order, but equal names are not planned.
        have hfirst : Text.Before a m.symbol := by
          refine ⟨settled.symbol ▸ first a ha s List.mem_cons_self, fun he => ?_⟩
          exact settled.new (he ▸ ha)
        rcases List.mem_cons.1 hm' with rfl | hm'
        · exact hfirst
        · exact hfirst.trans (hm m' hm')

/-- A failure belongs to one signature: those before it are planned, and with it planning fails. -/
theorem exists_planned_failure {e : BindError}
    (h : (planned previous index signatures).2 = some e) :
    ∃ before s after, signatures = before ++ s :: after ∧
      planned previous index before = ((planned previous index signatures).1, none) ∧
      (planned previous index (before ++ [s])).2 = some e := by
  induction signatures generalizing previous index with
  | nil => simp [planned] at h
  | cons s rest ih =>
    cases hs : planMethod previous index s with
    | error e' =>
      rw [planned_cons_of_error hs] at h
      cases h
      exact ⟨[], s, rest, rfl, by rw [planned_cons_of_error hs]; rfl,
        by rw [List.nil_append, planned_cons_of_error hs]⟩
    | ok m =>
      rw [planned_cons_of_ok hs] at h
      obtain ⟨before, t, after, hrest, hbefore, hfails⟩ := ih h
      refine ⟨s :: before, t, after, by rw [hrest]; rfl, ?_, ?_⟩
      · rw [planned_cons_of_ok hs, planned_cons_of_ok hs, hbefore]
      · rw [List.cons_append, planned_cons_of_ok hs]
        exact hfails

/-! ## 4. Plans -/

theorem Description.sorted_pairwise (d : Description) :
    d.sorted.Pairwise fun a b => Text.le a.name b.name = true :=
  List.pairwise_mergeSort (fun a b c => Text.le_trans a.name b.name c.name)
    (fun a b => Text.le_total a.name b.name) d.signatures

/-- The first signatures in the order of names are in that order already. -/
theorem Description.sorted_of_prefix {d : Description} {before : List Signature}
    (h : before <+: d.sorted) : ({ d with signatures := before } : Description).sorted = before :=
  List.mergeSort_of_pairwise (d.sorted_pairwise.sublist h.sublist)

namespace Plan

variable {d : Description} {p : Plan}

theorem analyzeWith_eq {τ : Type} (d : Description) (visit : Visitor τ) (t : τ) :
    analyzeWith d visit t =
      match visitAll visit (planned none 0 d.sorted).1 t with
      | (.error e, t) => (.error e, t)
      | (.ok (), t) =>
        (unlessFailed ⟨d.name, (planned none 0 d.sorted).1⟩ (planned none 0 d.sorted).2, t) := by
  simp only [analyzeWith, planWalk_eq]
  rcases visitAll visit (planned none 0 d.sorted).1 t with ⟨e | _, t⟩
  · rfl
  · cases (planned none 0 d.sorted).2 <;> rfl

theorem visitAll_idle (methods : List MethodPlan) :
    visitAll (fun _ t => (.ok (), t)) methods () = (.ok (), ()) := by
  induction methods with
  | nil => rfl
  | cons m rest ih => exact ih

theorem analyze_eq (d : Description) :
    analyze d =
      unlessFailed ⟨d.name, (planned none 0 d.sorted).1⟩ (planned none 0 d.sorted).2 := by
  simp only [analyze, analyzeWith_eq, visitAll_idle]

theorem analyze_eq_ok_iff :
    analyze d = .ok p ↔
    p = ⟨d.name, (planned none 0 d.sorted).1⟩ ∧ (planned none 0 d.sorted).2 = none := by
  rw [analyze_eq]
  cases (planned none 0 d.sorted).2 with
  | none => simp [unlessFailed, eq_comm]
  | some e => simp [unlessFailed]

theorem interface_eq (h : analyze d = .ok p) : p.interface = d.name := by
  obtain ⟨rfl, _⟩ := analyze_eq_ok_iff.1 h
  rfl

theorem analyze_eq_error_iff {e : BindError} :
    analyze d = .error e ↔ (planned none 0 d.sorted).2 = some e := by
  rw [analyze_eq]
  cases (planned none 0 d.sorted).2 with
  | none => simp [unlessFailed]
  | some e' => simp [unlessFailed]

/-- What analysis makes sure of. -/
structure WellFormed (p : Plan) : Prop where
  ids : ∀ (i : Nat) (m : MethodPlan), p.methods[i]? = some m → m.id = ⟨i⟩
  ordered : (p.methods.map MethodPlan.symbol).Pairwise Text.Before
  named : ∀ m ∈ p.methods, isSymbolName m.symbol = true
  params : ∀ m ∈ p.methods, ∀ t ∈ m.params, t.isParam = true

theorem analyze_wellFormed (h : analyze d = .ok p) : p.WellFormed := by
  obtain ⟨rfl, _⟩ := analyze_eq_ok_iff.1 h
  refine ⟨fun i m hi => ?_, ?_, fun m hm => ?_, fun m hm => ?_⟩
  · simpa using planned_id hi
  · exact (planned_before d.sorted_pairwise (by simp)).1
  · obtain ⟨_, _, _, _, settled⟩ := exists_settled_of_mem_planned hm
    exact settled.named
  · obtain ⟨_, _, _, _, settled⟩ := exists_settled_of_mem_planned hm
    exact settled.params

/-- The symbols of a plan are the names of the description in order. -/
theorem analyze_symbols (h : analyze d = .ok p) :
    p.methods.map MethodPlan.symbol = d.sorted.map Signature.name := by
  obtain ⟨rfl, hnone⟩ := analyze_eq_ok_iff.1 h
  exact planned_symbols_of_none hnone

/-- Analysis fails with `e` on the signature `s`: in the order of names `before` comes before it and
can be analyzed, and with `s` the analysis fails. -/
structure FailsAt (d : Description) (before : List Signature) (s : Signature) (e : BindError) :
    Prop where
  sorted : before ++ [s] <+: d.sorted
  settled : ∃ p, analyze { d with signatures := before } = .ok p
  fails : analyze { d with signatures := before ++ [s] } = .error e

/-- A failed analysis fails on one signature, and the methods before it are the planned ones. -/
theorem exists_failsAt {e : BindError} (h : analyze d = .error e) :
    ∃ before s, FailsAt d before s e ∧
      (planned none 0 d.sorted).1.map MethodPlan.symbol = before.map Signature.name := by
  obtain ⟨before, s, after, hsorted, hbefore, hfails⟩ :=
    exists_planned_failure (analyze_eq_error_iff.1 h)
  have hs : before ++ [s] <+: d.sorted := ⟨after, by simp [hsorted]⟩
  have hb : before <+: d.sorted := (List.prefix_append before [s]).trans hs
  refine ⟨before, s, ⟨hs, ⟨_, analyze_eq_ok_iff.2 ⟨rfl, ?_⟩⟩, analyze_eq_error_iff.2 ?_⟩, ?_⟩
  · rw [Description.sorted_of_prefix hb, hbefore]
  · rw [Description.sorted_of_prefix hs, hfails]
  · have hnames := planned_symbols_of_none (congrArg Prod.snd hbefore)
    rwa [hbefore] at hnames

end Plan
end ForeignCall
