import ForeignCall.Proofs.Plan.Faults
import ForeignCall.Proofs.Text.ByteOrder

/-!
# The walk over a description

Analysis with a visitor takes the signatures in the order of their names. A signature is refused for
the first thing wrong with it. The first signature that is refused, or at whose method the visitor
stops, ends the walk.

* `planMethod_eq_error_iff` and `planMethod_eq_ok_iff_settles`: when a signature is refused, and for
  what, and when it becomes a method.
* `Walk` is how a walk ends. `Plan.analyzeWith_recorded_iff`: analysis ends in the one way in which
  the walk does.
* `Plan.analyzeWith_spec`: the order of the walk, its end, and the plan if it ends well.
-/

namespace ForeignCall

/-! ## 1. Parameters -/

/-- No parameter can have this type: it is unknown or void. -/
def TypeSpec.Unfit (spec : TypeSpec) : Prop := spec.resolve = none ∨ spec.resolve = some .void

instance (spec : TypeSpec) : Decidable spec.Unfit := inferInstanceAs (Decidable (_ ∨ _))

section Params

variable {symbol : Text} {position : Nat} {specs : List TypeSpec}

theorem exists_type_of_fit {spec : TypeSpec} (h : ¬ spec.Unfit) :
    ∃ type, spec.resolve = some type ∧ type ≠ .void := by
  rw [TypeSpec.Unfit, not_or] at h
  obtain ⟨type, htype⟩ := Option.ne_none_iff_exists'.1 h.1
  exact ⟨type, htype, fun he => h.2 (he ▸ htype)⟩

theorem exists_types_of_fit (h : ∀ spec ∈ specs, ¬ spec.Unfit) :
    ∃ types : List SemanticType, specs.map TypeSpec.resolve = types.map some ∧ .void ∉ types := by
  induction specs with
  | nil => exact ⟨[], rfl, List.not_mem_nil⟩
  | cons spec specs ih =>
    obtain ⟨hspec, hspecs⟩ := List.forall_mem_cons.1 h
    obtain ⟨type, htype, hne⟩ := exists_type_of_fit hspec
    obtain ⟨types, hresolve, hvoid⟩ := ih hspecs
    refine ⟨type :: types, by simp [htype, hresolve], ?_⟩
    rw [List.mem_cons, not_or]
    exact ⟨hne.symm, hvoid⟩

theorem fit_or_exists_unfit (specs : List TypeSpec) :
    (∀ spec ∈ specs, ¬ spec.Unfit) ∨
    ∃ before spec after, specs = before ++ spec :: after ∧ (∀ b ∈ before, ¬ b.Unfit) ∧
      spec.Unfit := by
  cases h : specs.find? fun spec => decide spec.Unfit with
  | none =>
    left
    simpa using h
  | some spec =>
    obtain ⟨hspec, before, after, hspecs, hbefore⟩ := List.find?_eq_some_iff_append.1 h
    exact .inr ⟨before, spec, after, hspecs, by simpa using hbefore, of_decide_eq_true hspec⟩

theorem planParams_cons_of_fit {spec : TypeSpec} {type : SemanticType}
    (h : spec.resolve = some type) (hne : type ≠ .void) :
    planParams symbol position (spec :: specs) =
      (planParams symbol (position + 1) specs).map (type :: ·) := by
  have hparam : type.isParam = true := by cases type <;> trivial
  simp only [planParams, h, hparam, if_true]

theorem planParams_cons_of_unfit {spec : TypeSpec} (h : spec.Unfit) :
    planParams symbol position (spec :: specs) =
      .error (.unsupportedType symbol (.param position) spec.text) := by
  rcases h with h | h <;> simp [planParams, h, SemanticType.isParam]

theorem planParams_of_resolve {types : List SemanticType}
    (h : specs.map TypeSpec.resolve = types.map some) (hvoid : .void ∉ types) :
    planParams symbol position specs = .ok types := by
  induction specs generalizing position types with
  | nil =>
    obtain rfl : types = [] := List.map_eq_nil_iff.1 h.symm
    rfl
  | cons spec specs ih =>
    obtain ⟨type, types, rfl, htype, hspecs⟩ := List.map_eq_cons_iff.1 h.symm
    rw [List.mem_cons, not_or] at hvoid
    rw [planParams_cons_of_fit htype.symm (Ne.symm hvoid.1), ih hspecs.symm hvoid.2]
    rfl

/-- The leftmost parameter that is unfit decides the error. -/
theorem planParams_of_unfit {before after : List TypeSpec} {spec : TypeSpec}
    (hbefore : ∀ b ∈ before, ¬ b.Unfit) (hspec : spec.Unfit) :
    planParams symbol position (before ++ spec :: after) =
      .error (.unsupportedType symbol (.param (position + before.length)) spec.text) := by
  induction before generalizing position with
  | nil => exact planParams_cons_of_unfit hspec
  | cons b before ih =>
    obtain ⟨hb, hbefore⟩ := List.forall_mem_cons.1 hbefore
    obtain ⟨type, htype, hne⟩ := exists_type_of_fit hb
    rw [List.cons_append, planParams_cons_of_fit htype hne, ih hbefore, List.length_cons,
      Nat.add_right_comm, Nat.add_assoc]
    rfl

end Params

/-! ## 2. One signature -/

/-- Why a signature is refused after one with the name `previous`. The reasons stand in the order in
which they are looked for, and each excludes those before it. -/
inductive Refused (previous : Option Text) (s : Signature) : BindError → Prop
  | name : isSymbolName s.name = false → Refused previous s (.invalidSymbolName s.name)
  | repeated : isSymbolName s.name = true → previous = some s.name →
      Refused previous s (.duplicateMethod s.name)
  | param {before : List TypeSpec} {spec : TypeSpec} {after : List TypeSpec} :
      isSymbolName s.name = true → previous ≠ some s.name →
      s.params = before ++ spec :: after → (∀ b ∈ before, ¬ b.Unfit) → spec.Unfit →
      Refused previous s (.unsupportedType s.name (.param before.length) spec.text)
  | ret : isSymbolName s.name = true → previous ≠ some s.name →
      (∀ spec ∈ s.params, ¬ spec.Unfit) → s.ret.resolve = none →
      Refused previous s (.unsupportedType s.name .ret s.ret.text)

/-- A signature after one with the name `previous` becomes the method `m`, with number `index`. -/
structure Settles (previous : Option Text) (index : Nat) (s : Signature) (m : MethodPlan) :
    Prop where
  named : isSymbolName s.name = true
  new : previous ≠ some s.name
  id : m.id = ⟨index⟩
  symbol : m.symbol = s.name
  params : s.params.map TypeSpec.resolve = m.params.map some
  noVoid : .void ∉ m.params
  ret : s.ret.resolve = some m.ret

section Method

variable {previous : Option Text} {index : Nat} {s : Signature} {m : MethodPlan} {e : BindError}

theorem Refused.planMethod_eq (h : Refused previous s e) :
    planMethod previous index s = .error e := by
  cases h with
  | name hvalid => exact planMethod_of_invalid hvalid
  | repeated hvalid hprevious => exact planMethod_of_duplicate hvalid hprevious
  | param hvalid hnew hparams hbefore hspec =>
    rw [planMethod_of_new hvalid hnew, planTypes, hparams, planParams_of_unfit hbefore hspec,
      Nat.zero_add]
    rfl
  | ret hvalid hnew hfit hret =>
    obtain ⟨types, hresolve, hvoid⟩ := exists_types_of_fit hfit
    rw [planMethod_of_new hvalid hnew, planTypes, planParams_of_resolve hresolve hvoid, hret]
    rfl

theorem Settles.planMethod_eq (h : Settles previous index s m) :
    planMethod previous index s = .ok m := by
  rw [planMethod_of_new h.named h.new, planTypes, planParams_of_resolve h.params h.noVoid, h.ret,
    ← h.symbol, ← h.id]
  rfl

theorem settles_or_refused (previous : Option Text) (index : Nat) (s : Signature) :
    (∃ m, Settles previous index s m) ∨ ∃ e, Refused previous s e := by
  cases hvalid : isSymbolName s.name with
  | false => exact .inr ⟨_, .name hvalid⟩
  | true =>
    by_cases hnew : previous = some s.name
    · exact .inr ⟨_, .repeated hvalid hnew⟩
    rcases fit_or_exists_unfit s.params with hfit | ⟨before, spec, after, hparams, hbefore, hspec⟩
    · cases hret : s.ret.resolve with
      | none => exact .inr ⟨_, .ret hvalid hnew hfit hret⟩
      | some ret =>
        obtain ⟨types, hresolve, hvoid⟩ := exists_types_of_fit hfit
        exact .inl ⟨⟨⟨index⟩, s.name, types, ret⟩, hvalid, hnew, rfl, rfl, hresolve, hvoid, hret⟩
    · exact .inr ⟨_, .param hvalid hnew hparams hbefore hspec⟩

theorem planMethod_eq_ok_iff_settles :
    planMethod previous index s = .ok m ↔ Settles previous index s m := by
  refine ⟨fun h => ?_, Settles.planMethod_eq⟩
  rcases settles_or_refused previous index s with ⟨m', hm⟩ | ⟨e, he⟩
  · rw [hm.planMethod_eq, Except.ok.injEq] at h
    exact h ▸ hm
  · rw [he.planMethod_eq] at h
    cases h

theorem planMethod_eq_error_iff :
    planMethod previous index s = .error e ↔ Refused previous s e := by
  refine ⟨fun h => ?_, Refused.planMethod_eq⟩
  rcases settles_or_refused previous index s with ⟨m, hm⟩ | ⟨e', he⟩
  · rw [hm.planMethod_eq] at h
    cases h
  · rw [he.planMethod_eq, Except.error.injEq] at h
    exact h ▸ he

end Method

/-! ## 3. All signatures -/

/-- The signatures become the methods, the first of them after one with the name `previous`, each
other after the one before it, with numbers from `index` on. -/
inductive AllSettle : Option Text → Nat → List Signature → List MethodPlan → Prop
  | nil {previous : Option Text} {index : Nat} : AllSettle previous index [] []
  | cons {previous : Option Text} {index : Nat} {s : Signature} {m : MethodPlan}
      {signatures : List Signature} {methods : List MethodPlan} :
      Settles previous index s m → AllSettle (some s.name) (index + 1) signatures methods →
      AllSettle previous index (s :: signatures) (m :: methods)

section Settled

variable {previous : Option Text} {index : Nat} {signatures : List Signature}
  {methods : List MethodPlan}

theorem planned_eq_iff_allSettle :
    planned previous index signatures = (methods, none) ↔
    AllSettle previous index signatures methods := by
  constructor
  · intro h
    induction signatures generalizing previous index methods with
    | nil =>
      cases h
      exact .nil
    | cons s signatures ih =>
      cases hs : planMethod previous index s with
      | error e =>
        rw [planned_cons_of_error hs] at h
        cases h
      | ok m =>
        rw [planned_cons_of_ok hs] at h
        obtain ⟨rfl, hnone⟩ := Prod.mk.inj h
        exact .cons (planMethod_eq_ok_iff_settles.1 hs) (ih (Prod.ext rfl hnone))
  · intro h
    induction h with
    | nil => rfl
    | cons hs _ ih => rw [planned_cons_of_ok hs.planMethod_eq, ih]

theorem AllSettle.planned_append (h : AllSettle previous index signatures methods)
    (rest : List Signature) : ∃ more failure,
      planned previous index (signatures ++ rest) = (methods ++ more, failure) ∧
      planned ((signatures.map Signature.name).getLast?.or previous) (index + signatures.length)
        rest = (more, failure) := by
  have hplanned := planned_eq_iff_allSettle.2 h
  refine ⟨_, _, ?_, rfl⟩
  rw [planned_append_of_none (congrArg Prod.snd hplanned), hplanned]

/-- The signature that became a planned method, after those that became the methods before it. -/
theorem exists_allSettle_of_planned {m : MethodPlan} {more : List MethodPlan}
    (h : (planned previous index signatures).1 = methods ++ m :: more) :
    ∃ before s after, signatures = before ++ s :: after ∧
      AllSettle previous index (before ++ [s]) (methods ++ [m]) := by
  induction signatures generalizing previous index methods with
  | nil => simp [planned] at h
  | cons s signatures ih =>
    cases hs : planMethod previous index s with
    | error e => simp [planned_cons_of_error hs] at h
    | ok first =>
      rw [planned_cons_of_ok hs] at h
      have hsettles := planMethod_eq_ok_iff_settles.1 hs
      cases methods with
      | nil =>
        obtain ⟨rfl, _⟩ := List.cons.inj h
        exact ⟨[], s, signatures, rfl, .cons hsettles .nil⟩
      | cons first' methods =>
        obtain ⟨rfl, hrest⟩ := List.cons.inj h
        obtain ⟨before, t, after, rfl, hall⟩ := ih hrest
        exact ⟨s :: before, t, after, rfl, .cons hsettles hall⟩

theorem AllSettle.length_eq (h : AllSettle previous index signatures methods) :
    methods.length = signatures.length := by
  induction h with
  | nil => rfl
  | cons _ _ ih => rw [List.length_cons, List.length_cons, ih]

theorem AllSettle.exists_settles (h : AllSettle previous index signatures methods) {i : Nat}
    {m : MethodPlan} (hm : methods[i]? = some m) :
    ∃ s previous', signatures[i]? = some s ∧ Settles previous' (index + i) s m := by
  induction h generalizing i with
  | nil => cases hm
  | @cons previous index s first _ _ hs _ ih =>
    cases i with
    | zero =>
      cases hm
      exact ⟨s, previous, rfl, hs⟩
    | succ i =>
      obtain ⟨t, previous', ht, hsettles⟩ := ih hm
      rw [Nat.add_assoc, Nat.add_comm 1 i] at hsettles
      exact ⟨t, previous', ht, hsettles⟩

end Settled

/-! ## 4. Visitors -/

/-- The visitor, with a record of the methods that it is shown. -/
def Visitor.recorded {τ : Type} (visit : Visitor τ) : Visitor (τ × List MethodPlan) :=
  fun m (t, shown) => ((visit m t).1, (visit m t).2, shown ++ [m])

section Visitors

variable {τ : Type} {visit : Visitor τ} {methods : List MethodPlan} {t u : τ}

theorem visitAll_cons_of_ok {m : MethodPlan} (hm : visit m t = (.ok (), u)) :
    visitAll visit (m :: methods) t = visitAll visit methods u := by
  rw [visitAll, hm]

theorem visitAll_cons_of_error {m : MethodPlan} {e : BindError} (hm : visit m t = (.error e, u)) :
    visitAll visit (m :: methods) t = (.error e, u) := by
  rw [visitAll, hm]

theorem visitAll_cons_eq_ok_iff {m : MethodPlan} :
    visitAll visit (m :: methods) t = (.ok (), u) ↔
    ∃ v, visit m t = (.ok (), v) ∧ visitAll visit methods v = (.ok (), u) := by
  rw [visitAll]
  rcases visit m t with ⟨e | _, v⟩ <;> simp

theorem recorded_eq (m : MethodPlan) (shown : List MethodPlan) :
    visit.recorded m (t, shown) = ((visit m t).1, (visit m t).2, shown ++ [m]) := rfl

theorem visitAll_append_of_ok (h : visitAll visit methods t = (.ok (), u))
    (more : List MethodPlan) : visitAll visit (methods ++ more) t = visitAll visit more u := by
  induction methods generalizing t with
  | nil =>
    cases h
    rfl
  | cons m methods ih =>
    obtain ⟨v, hm, h⟩ := visitAll_cons_eq_ok_iff.1 h
    rw [List.cons_append, visitAll_cons_of_ok hm, ih h]

/-- Recording changes nothing else, and what is recorded is what was shown. -/
theorem visitAll_recorded_of_ok (h : visitAll visit methods t = (.ok (), u))
    (shown : List MethodPlan) :
    visitAll visit.recorded methods (t, shown) = (.ok (), u, shown ++ methods) := by
  induction methods generalizing t shown with
  | nil =>
    cases h
    rw [List.append_nil]
    rfl
  | cons m methods ih =>
    obtain ⟨v, hm, h⟩ := visitAll_cons_eq_ok_iff.1 h
    have hrecorded : visit.recorded m (t, shown) = (.ok (), v, shown ++ [m]) := by
      rw [recorded_eq, hm]
    rw [visitAll_cons_of_ok hrecorded, ih h, List.append_assoc, List.singleton_append]

theorem visitAll_of_stop {m : MethodPlan} {last : τ} {e : BindError}
    (h : visitAll visit methods t = (.ok (), u)) (hm : visit m u = (.error e, last))
    (more : List MethodPlan) :
    visitAll visit (methods ++ m :: more) t = (.error e, last) := by
  rw [visitAll_append_of_ok h, visitAll_cons_of_error hm]

theorem exists_stop {last : τ} {e : BindError}
    (h : visitAll visit methods t = (.error e, last)) :
    ∃ before m after u, methods = before ++ m :: after ∧
      visitAll visit before t = (.ok (), u) ∧ visit m u = (.error e, last) := by
  induction methods generalizing t with
  | nil => cases h
  | cons m methods ih =>
    rcases hm : visit m t with ⟨e' | _, v⟩
    · rw [visitAll_cons_of_error hm] at h
      cases h
      exact ⟨[], m, methods, t, rfl, rfl, hm⟩
    · rw [visitAll_cons_of_ok hm] at h
      obtain ⟨before, m', after, u, rfl, hbefore, hstop⟩ := ih h
      refine ⟨m :: before, m', after, u, rfl, ?_, hstop⟩
      rw [visitAll_cons_of_ok hm, hbefore]

end Visitors

/-! ## 5. The walk -/

/-- How the walk over a description ends: what it returns, the last state of the visitor, and the
methods that the visitor was shown. -/
inductive Walk {τ : Type} (visit : Visitor τ) (d : Description) (t : τ) :
    Except BindError Plan → τ → List MethodPlan → Prop
  | finished {methods : List MethodPlan} {last : τ} :
      AllSettle none 0 d.sorted methods → visitAll visit methods t = (.ok (), last) →
      Walk visit d t (.ok ⟨d.name, methods⟩) last methods
  | refused {before : List Signature} {s : Signature} {after : List Signature}
      {methods : List MethodPlan} {last : τ} {e : BindError} :
      d.sorted = before ++ s :: after → AllSettle none 0 before methods →
      visitAll visit methods t = (.ok (), last) →
      Refused (before.map Signature.name).getLast? s e →
      Walk visit d t (.error e) last methods
  | stopped {before : List Signature} {s : Signature} {after : List Signature}
      {methods : List MethodPlan} {m : MethodPlan} {u last : τ} {e : BindError} :
      d.sorted = before ++ s :: after → AllSettle none 0 (before ++ [s]) (methods ++ [m]) →
      visitAll visit methods t = (.ok (), u) → visit m u = (.error e, last) →
      Walk visit d t (.error e) last (methods ++ [m])

namespace Plan

section Analysis

variable {τ : Type} {visit : Visitor τ} {d : Description} {t last : τ}
  {result : Except BindError Plan} {shown : List MethodPlan}

theorem exists_walk (visit : Visitor τ) (d : Description) (t : τ) :
    ∃ result last shown, Walk visit d t result last shown := by
  rcases hvisit : visitAll visit (planned none 0 d.sorted).1 t with ⟨e | _, last⟩
  · obtain ⟨before, m, after, u, hplanned, hbefore, hstop⟩ := exists_stop hvisit
    obtain ⟨_, _, _, hsorted, hall⟩ := exists_allSettle_of_planned hplanned
    exact ⟨_, _, _, .stopped hsorted hall hbefore hstop⟩
  · cases hfailure : (planned none 0 d.sorted).2 with
    | none =>
      have hall := planned_eq_iff_allSettle.1 (Prod.ext rfl hfailure)
      exact ⟨_, _, _, .finished hall hvisit⟩
    | some e =>
      obtain ⟨before, s, after, hsorted, hbefore, hfails⟩ := exists_planned_failure hfailure
      have hmethod := planMethod_error_of_planned (congrArg Prod.snd hbefore) hfails
      rw [Option.or_none] at hmethod
      exact ⟨_, _, _, .refused hsorted (planned_eq_iff_allSettle.1 hbefore) hvisit
        (planMethod_eq_error_iff.1 hmethod)⟩

/-- Analysis ends as the walk does. -/
theorem analyzeWith_of_walk (h : Walk visit d t result last shown) :
    analyzeWith d visit t = (result, last) := by
  cases h with
  | finished hall hvisit =>
    rw [analyzeWith_eq, planned_eq_iff_allSettle.2 hall, hvisit]
    rfl
  | refused hsorted hall hvisit hrefused =>
    obtain ⟨more, failure, hplanned, hrest⟩ := hall.planned_append (_ :: _)
    rw [Option.or_none, planned_cons_of_error hrefused.planMethod_eq] at hrest
    cases hrest
    rw [List.append_nil, ← hsorted] at hplanned
    rw [analyzeWith_eq, hplanned, hvisit]
    rfl
  | @stopped _ _ after _ _ _ _ _ hsorted hall hvisit hstop =>
    obtain ⟨more, failure, hplanned, _⟩ := hall.planned_append after
    rw [List.append_assoc, List.singleton_append, ← hsorted, List.append_assoc,
      List.singleton_append] at hplanned
    rw [analyzeWith_eq, hplanned, visitAll_of_stop hvisit hstop]

/-- A recorded walk ends in the same way, and the record is what the walk shows. -/
theorem walk_recorded (h : Walk visit d t result last shown) :
    ∃ shown', Walk visit.recorded d (t, []) result (last, shown) shown' := by
  cases h with
  | finished hall hvisit => exact ⟨_, .finished hall (visitAll_recorded_of_ok hvisit [])⟩
  | refused hsorted hall hvisit hrefused =>
    exact ⟨_, .refused hsorted hall (visitAll_recorded_of_ok hvisit []) hrefused⟩
  | stopped hsorted hall hvisit hstop =>
    refine ⟨_, .stopped hsorted hall (visitAll_recorded_of_ok hvisit []) ?_⟩
    rw [recorded_eq, hstop]
    rfl

theorem analyzeWith_recorded_iff :
    analyzeWith d visit.recorded (t, []) = (result, last, shown) ↔
    Walk visit d t result last shown := by
  constructor
  · intro h
    obtain ⟨result', last', shown', hwalk⟩ := exists_walk visit d t
    obtain ⟨_, hrecorded⟩ := walk_recorded hwalk
    rw [analyzeWith_of_walk hrecorded] at h
    cases h
    exact hwalk
  · intro h
    obtain ⟨_, hrecorded⟩ := walk_recorded h
    exact analyzeWith_of_walk hrecorded

theorem analyzeWith_eq_iff_walk :
    analyzeWith d visit t = (result, last) ↔ ∃ shown, Walk visit d t result last shown := by
  refine ⟨fun h => ?_, fun ⟨_, h⟩ => analyzeWith_of_walk h⟩
  obtain ⟨result', last', shown, hwalk⟩ := exists_walk visit d t
  rw [analyzeWith_of_walk hwalk] at h
  cases h
  exact ⟨shown, hwalk⟩

end Analysis

/-- Methods of signatures in the order of their names are in strict order of their symbols. -/
theorem pairwise_of_allSettle {signatures : List Signature} {methods : List MethodPlan}
    (sorted : signatures.Pairwise fun a b => Text.le a.name b.name = true)
    (h : AllSettle none 0 signatures methods) :
    methods.Pairwise fun a b => Text.Before a.symbol b.symbol := by
  have hordered : ((planned none 0 signatures).1.map MethodPlan.symbol).Pairwise Text.Before :=
    (planned_before sorted (by simp)).1
  rw [planned_eq_iff_allSettle.2 h] at hordered
  exact List.pairwise_map.1 hordered

/-- The walk goes through the signatures in the byte order of their names, equal names in the order
of the description, and ends at the first that is refused or at whose method the visitor stops. The
visitor has then been shown the methods before it, and that method if it stopped there. A walk that
ends well gives a plan with a method for each signature. -/
theorem analyzeWith_spec {τ : Type} (d : Description) (visit : Visitor τ) (t : τ) :
    (d.sorted.Perm d.signatures ∧
      d.sorted.Pairwise (fun a b => Utf8.encode a.name ≤ Utf8.encode b.name) ∧
      ∀ name, d.sorted.filter (·.name = name) = d.signatures.filter (·.name = name)) ∧
    (∀ result last shown, analyzeWith d visit.recorded (t, []) = (result, last, shown) ↔
      Walk visit d t result last shown) ∧
    (∀ result last, analyzeWith d visit t = (result, last) ↔
      ∃ shown, Walk visit d t result last shown) ∧
    ∀ p last, analyzeWith d visit t = (.ok p, last) →
      p.interface = d.name ∧ p.methods.length = d.signatures.length ∧
      p.methods.Pairwise (fun a b => Utf8.encode a.symbol < Utf8.encode b.symbol) ∧
      ∀ (i : Nat) (m : MethodPlan), p.methods[i]? = some m →
        m.id = ⟨i⟩ ∧ .void ∉ m.params ∧
        ∃ s, d.sorted[i]? = some s ∧ m.symbol = s.name ∧
          s.params.map TypeSpec.resolve = m.params.map some ∧ s.ret.resolve = some m.ret := by
  refine ⟨⟨d.sorted_perm, ?_, d.filter_sorted⟩, fun _ _ _ => analyzeWith_recorded_iff,
    fun _ _ => analyzeWith_eq_iff_walk, fun p last h => ?_⟩
  · exact d.sorted_pairwise.imp fun hle => Text.le_iff_encode_le.1 hle
  · obtain ⟨shown, hwalk⟩ := analyzeWith_eq_iff_walk.1 h
    cases hwalk with
    | finished hall _ =>
      refine ⟨rfl, hall.length_eq.trans d.sorted_perm.length_eq, ?_, fun i m hm => ?_⟩
      · exact (pairwise_of_allSettle d.sorted_pairwise hall).imp Text.before_iff_encode_lt.1
      · obtain ⟨s, previous, hs, hsettles⟩ := hall.exists_settles hm
        rw [Nat.zero_add] at hsettles
        exact ⟨hsettles.id, hsettles.noVoid, s, hs, hsettles.symbol, hsettles.params, hsettles.ret⟩

end Plan
end ForeignCall
