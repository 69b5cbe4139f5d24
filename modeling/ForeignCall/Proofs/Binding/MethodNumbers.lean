import ForeignCall.Proofs.Binding.Session
import ForeignCall.Proofs.Plan.Walk

/-!
# Numbers of methods

The number of a method is how many names come before its own in byte order. Plans and tables find it
by halves, generated code by an arm for each name, and calls by number look at a place; all of them
mean the same number.

* `Description.number?` is the number of a name, from the signatures alone.
* `Plan.methodId?_eq` and `BindingTable.methodId?_eq_number?`: searching gives this number.
* `BindingTable.answersByNumber`: a table answers by these numbers.
* `Generated.number?_of_mem_consts`: so do the constants of generated code.
-/

namespace ForeignCall

/-! ## 1. Places in order -/

/-- In strict order, the place of a text is the number of texts before it. -/
theorem countP_encode_lt {keys : List Text} (ordered : keys.Pairwise Text.Before) {i : Nat}
    {name : Text} (h : keys[i]? = some name) :
    keys.countP (fun key => Utf8.encode key < Utf8.encode name) = i := by
  induction keys generalizing i with
  | nil => cases h
  | cons first keys ih =>
    obtain ⟨hfirst, ordered⟩ := List.pairwise_cons.1 ordered
    cases i with
    | zero =>
      cases h
      rw [List.countP_eq_zero]
      intro key hkey
      have hle : Text.le name key = true := by
        rcases List.mem_cons.1 hkey with rfl | hkey
        · simpa using Text.le_total key key
        · exact (hfirst key hkey).1
      simpa using Text.le_iff_encode_le.1 hle
    | succ i =>
      rw [List.getElem?_cons_succ] at h
      have hlt := Text.before_iff_encode_lt.1 (hfirst name (List.mem_of_getElem? h))
      rw [List.countP_cons_of_pos (by simpa using hlt), ih ordered h]

/-- The number of a name: how many names of signatures have smaller bytes. -/
def Description.number? (d : Description) (name : Text) : Option MethodId :=
  if name ∈ d.signatures.map Signature.name then
    some ⟨(d.signatures.map Signature.name).countP
      fun other => Utf8.encode other < Utf8.encode name⟩
  else none

namespace Plan

variable {d : Description} {p : Plan} {name : Text} {id : MethodId}

/-- The methods of a plan have the names of the description. -/
theorem symbols_perm (h : analyze d = .ok p) :
    p.symbols.Perm (d.signatures.map Signature.name) := by
  rw [symbols, analyze_symbols h]
  exact d.sorted_perm.map Signature.name

theorem number?_eq_some_iff (h : analyze d = .ok p) :
    d.number? name = some id ↔ p.symbols[id.index]? = some name := by
  have hperm := symbols_perm h
  have ordered := (analyze_wellFormed h).ordered
  have hcount : ∀ i, p.symbols[i]? = some name →
      (d.signatures.map Signature.name).countP
        (fun other => Utf8.encode other < Utf8.encode name) = i := by
    intro i hi
    rw [← hperm.countP_eq]
    exact countP_encode_lt ordered hi
  rw [Description.number?]
  by_cases hmem : name ∈ p.symbols
  · obtain ⟨i, hi⟩ := List.getElem?_of_mem hmem
    rw [if_pos (hperm.mem_iff.1 hmem), hcount i hi, Option.some.injEq]
    constructor
    · rintro rfl
      exact hi
    · intro hid
      rw [← hcount i hi, hcount id.index hid]
  · rw [if_neg (hperm.mem_iff.not.1 hmem)]
    constructor
    · intro hnone
      cases hnone
    · intro hid
      exact absurd (List.mem_of_getElem? hid) hmem

theorem methodId?_eq_some_iff (hp : p.WellFormed) :
    p.methodId? name = some id ↔ p.symbols[id.index]? = some name := by
  have hsearch : ∀ i, search Text.le p.symbols name 0 p.symbols.length = some i ↔
      p.symbols[i]? = some name := fun i => search_eq_some_iff hp.ordered
  have hsymbols : p.methods.map MethodPlan.symbol = p.symbols := rfl
  rw [methodId?, hsymbols, ← hsearch]
  cases hs : search Text.le p.symbols name 0 p.symbols.length with
  | none => simp
  | some i =>
    have hi := (hsearch i).1 hs
    rw [← hsymbols, List.getElem?_map, Option.map_eq_some_iff] at hi
    obtain ⟨m, hm, _⟩ := hi
    simp only [Option.bind_eq_bind, Option.bind_some, hm, hp.ids i m hm, Option.pure_def,
      Option.some.injEq]
    exact ⟨fun h => h ▸ rfl, fun h => h ▸ rfl⟩

theorem methodId?_eq (h : analyze d = .ok p) (name : Text) : p.methodId? name = d.number? name :=
  Option.ext fun _ =>
    (methodId?_eq_some_iff (analyze_wellFormed h)).trans (number?_eq_some_iff h).symm

/-- The method with a number is the one with the name. -/
theorem number?_eq_some_iff_method? (h : analyze d = .ok p) :
    d.number? name = some id ↔ ∃ m, p.method? id = some m ∧ m.id = id ∧ m.symbol = name := by
  rw [number?_eq_some_iff h, symbols, List.getElem?_map, Option.map_eq_some_iff]
  constructor
  · rintro ⟨m, hm, hname⟩
    exact ⟨m, hm, (analyze_wellFormed h).ids id.index m hm, hname⟩
  · rintro ⟨m, hm, _, hname⟩
    exact ⟨m, hm, hname⟩

end Plan

/-- A table finds the numbers of its plan. -/
theorem BindingTable.methodId?_eq_plan {p : Plan} {t : BindingTable}
    (ht : t.methods.map MethodBinding.plan = p.methods) (name : Text) :
    t.methodId? name = p.methodId? name := by
  have hkeys : t.methods.map (·.plan.symbol) = p.methods.map MethodPlan.symbol := by
    rw [← ht, List.map_map]
    rfl
  rw [methodId?, Plan.methodId?, hkeys]
  refine Option.bind_congr fun i _ => ?_
  rw [← ht, List.getElem?_map]
  cases t.methods[i]? <;> rfl

/-! ## 2. Answers -/

/-- The operations on methods are answered by number: a name stands for its number, and a call by
name runs what `lookup` has under that name. A number that no method has is unknown. -/
structure AnswersByNumber {σ : Type} (d : Description) (p : Plan) (lookup : SymbolLookup)
    (code : NativeCode σ) (w : World σ) (answer : Operation → Reply × World σ) : Prop where
  methodId : ∀ name,
    answer (.methodId name) = (.id (orError (.unknownMethod name) (d.number? name)), w)
  unnamed : ∀ name, d.number? name = none → ∀ args,
    answer (.callByName name args) = (.value (.error (.unknownMethod name)), w)
  named : ∀ name id, d.number? name = some id → ∀ args, ∃ m entry result pool native calls,
    p.method? id = some m ∧ m.symbol = name ∧ lookup.find name = some entry ∧
    answer (.callByName name args) = (.value result, ⟨pool, native⟩) ∧
    CallOutcome ⟨m, entry⟩ code args w.native result native calls
  unnumbered : ∀ id, p.methods.length ≤ id.index → ∀ args,
    answer (.call id args) = (.value (.error (.unknownMethod ('#' :: Text.ofNat id.index))), w)

namespace BindingTable

variable {d : Description} {p : Plan} {lookup : SymbolLookup} {t : BindingTable}

theorem methodId?_eq_number? (hp : Plan.analyze d = .ok p)
    (ht : t.methods.map MethodBinding.plan = p.methods) (name : Text) :
    t.methodId? name = d.number? name := by
  rw [methodId?_eq_plan ht, Plan.methodId?_eq hp]

theorem answersByNumber {σ : Type} (hp : Plan.analyze d = .ok p)
    (ht : (fromPlan p lookup).1 = .ok t) (code : NativeCode σ) (w : World σ) :
    AnswersByNumber d p lookup code w (t.answer code w) where
  methodId name := by
    rw [answer, methodId?_eq_number? hp (plans_of_fromPlan ht)]
  unnamed name hnone args := by
    rw [answer, methodId?_eq_number? hp (plans_of_fromPlan ht), hnone]
  named name id hid args := by
    have hplans := plans_of_fromPlan ht
    obtain ⟨m, hm, _, hname⟩ := (Plan.number?_eq_some_iff_method? hp).1 hid
    have hplan := hm
    rw [Plan.method?, ← hplans, List.getElem?_map, Option.map_eq_some_iff] at hplan
    obtain ⟨b, hb, rfl⟩ := hplan
    obtain ⟨result, pool, native, calls, _, hinvoke, houtcome, _⟩ := b.invoke_outcome code args w
    refine ⟨b.plan, b.entry, result, pool, native, calls, hm, hname, ?_, ?_, houtcome⟩
    · rw [← hname]
      exact find_of_fromPlan ht b (List.mem_of_getElem? hb)
    · have hcall : t.invoke code id args w = (result, ⟨pool, native⟩) := by
        rw [invoke, method?, hb]
        exact hinvoke
      rw [answer, methodId?_eq_number? hp hplans, hid]
      simp only [hcall]
  unnumbered id hid args := by
    have hlength : t.methods.length = p.methods.length := by
      rw [← plans_of_fromPlan ht, List.length_map]
    have hnone : t.method? id = none := List.getElem?_eq_none (hlength ▸ hid)
    rw [answer, invoke, hnone]
    rfl

end BindingTable

/-! ## 3. Constants -/

namespace Generated

variable {d : Description} {p : Plan} {b : TypedBinding}

theorem symbols_eq (h : Generated p b) : b.consts.map IdConst.symbol = p.symbols := by
  rw [h.consts, List.map_map]
  rfl

/-- The constant of a name has its number. -/
theorem number?_of_mem_consts (h : Generated p b) (hp : Plan.analyze d = .ok p) {c : IdConst}
    (hc : c ∈ b.consts) :
    d.number? c.symbol = some ⟨c.index⟩ ∧ b.const? c.name = some ⟨c.index⟩ := by
  rw [h.consts] at hc
  obtain ⟨m, hm, rfl⟩ := List.mem_map.1 hc
  obtain ⟨i, hi⟩ := List.getElem?_of_mem hm
  have hid := h.plan.ids i m hi
  refine ⟨(Plan.number?_eq_some_iff_method? hp).2 ⟨m, ?_, rfl, rfl⟩, h.const?_eq hm⟩
  rw [Plan.method?, hid, hi]

end Generated

end ForeignCall
