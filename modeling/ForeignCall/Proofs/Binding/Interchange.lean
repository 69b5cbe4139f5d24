import ForeignCall.Proofs.Binding.BindingReader
import ForeignCall.Proofs.Binding.Client
import ForeignCall.Proofs.Binding.MethodNumbers

/-!
# Generated source files

The code in a source file that was generated from a description is that of a binding, which is read
off its text. Sessions with this binding are sessions with the dynamic interface, and both go by the
same numbers of methods.

* `generate_interchangeable`: the two are bound alike and answer alike over every session.
* `BindingTable.numbersAgree`: once a table can be built, the plan, the table, dynamic interfaces
  and the generated code all go by the same numbers.
* `Client.start_generated_iff_source`: the generated type that a program uses is that of the file.
-/

namespace ForeignCall

/-! ## 1. Sessions -/

/-- The code that is generated from a description is interchangeable with its dynamic interface. -/
theorem generate_interchangeable {d : Description} {text : Text} (h : generate d = .ok text) :
    ∃ p b, Plan.analyze d = .ok p ∧ typedBinding p = .ok b ∧
      text = renderFile p.interface b.items ∧ TypedBinding.ofSource? text = some b ∧
      ∀ lookup, Interchangeable d b lookup := by
  obtain ⟨p, b, hp, hb, htext, hsource⟩ := TypedBinding.ofSource?_generate h
  have hgen := generated_of_typedBinding (Plan.analyze_wellFormed hp) hb
  exact ⟨p, b, hp, hb, htext, hsource, interchangeable_of_generated hp hgen⟩

theorem generate_interchangeable_upper :
    ∃ text, generate Sample.upper = .ok text ∧
    ∃ p b, Plan.analyze Sample.upper = .ok p ∧ typedBinding p = .ok b ∧
      text = renderFile p.interface b.items ∧ TypedBinding.ofSource? text = some b ∧
      ∀ lookup, Interchangeable Sample.upper b lookup := by
  obtain ⟨text, h⟩ := generate_upper
  exact ⟨text, h, generate_interchangeable h⟩

/-! ## 2. Numbers of methods -/

/-- The plan `p` and the table `t` of a description, its dynamic interfaces over `lookup` and the
code that is generated from it go by the numbers of the description. -/
structure NumbersAgree (d : Description) (lookup : SymbolLookup) (p : Plan) (t : BindingTable) :
    Prop where
  plan : ∀ name, p.methodId? name = d.number? name
  table : ∀ name, t.methodId? name = d.number? name
  planMethod : ∀ name id, d.number? name = some id ↔
    ∃ m, p.method? id = some m ∧ m.id = id ∧ m.symbol = name
  tableMethod : ∀ name id, d.number? name = some id ↔
    ∃ b, t.method? id = some b ∧ b.plan.id = id ∧ b.plan.symbol = name
  /-- The interface builds its table now, or has built it before and is used with any lookup. -/
  dynamic : ∀ i lookup', i = DynamicInterface.bind d lookup ∧ lookup' = lookup ∨
      i.memo = some (.ok t) →
    ∀ {σ : Type} (code : NativeCode σ) (w : World σ),
      AnswersByNumber d p lookup code w fun operation =>
        ((i.answer lookup' code w operation).1, (i.answer lookup' code w operation).2.2)
  /-- The binding is what the generated code says: the list of methods, the constants and the arms
  for the names are read off its text. -/
  generated : ∀ text, generate d = .ok text → ∃ b self, typedBinding p = .ok b ∧
    text = renderFile p.interface b.items ∧ TypedBinding.ofSource? text = some b ∧
    (b.bind lookup).1 = .ok self ∧
    (∀ {σ : Type} (code : NativeCode σ) (w : World σ), ∃ answer,
      (∀ operation, b.answer self code w operation = some (answer operation)) ∧
      AnswersByNumber d p lookup code w answer) ∧
    (∀ name i, b.symbols[i]? = some name ↔ d.number? name = some ⟨i⟩) ∧
    b.consts.map IdConst.symbol = b.symbols ∧
    ∀ c ∈ b.consts, d.number? c.symbol = some ⟨c.index⟩ ∧ b.const? c.name = some ⟨c.index⟩

/-- Once a table can be built, everything goes by the same numbers. -/
theorem BindingTable.numbersAgree {d : Description} {lookup : SymbolLookup} {t : BindingTable}
    (h : (build d lookup).1 = .ok t) :
    ∃ p, Plan.analyze d = .ok p ∧ NumbersAgree d lookup p t := by
  obtain ⟨p, hp, ht⟩ := exists_plan_of_build h
  have hplans := plans_of_fromPlan ht
  refine ⟨p, hp, Plan.methodId?_eq hp, methodId?_eq_number? hp hplans,
    fun _ _ => Plan.number?_eq_some_iff_method? hp, fun name id => ?_,
    fun i lookup' hi σ code w => ?_, fun text htext => ?_⟩
  · rw [Plan.number?_eq_some_iff_method? hp, Plan.method?, ← hplans, List.getElem?_map, method?]
    constructor
    · rintro ⟨m, hm, hid, hname⟩
      obtain ⟨b, hb, rfl⟩ := Option.map_eq_some_iff.1 hm
      exact ⟨b, hb, hid, hname⟩
    · rintro ⟨b, hb, hid, hname⟩
      exact ⟨b.plan, by rw [hb]; rfl, hid, hname⟩
  · have hbound : (i.ensureBound lookup').result = .ok t := by
      rcases hi with ⟨rfl, rfl⟩ | hmemo
      · exact h
      · rw [DynamicInterface.ensureBound, hmemo]
    have hanswer : ∀ operation, ((i.answer lookup' code w operation).1,
        (i.answer lookup' code w operation).2.2) = t.answer code w operation := by
      intro operation
      obtain ⟨j, heq, _⟩ := DynamicInterface.answer_eq hbound code w operation
      rw [heq]
    rw [funext hanswer]
    exact answersByNumber hp ht code w
  · obtain ⟨p', b, hp', hb, htext, hsource⟩ := TypedBinding.ofSource?_generate htext
    obtain rfl : p = p' := Except.ok.inj (hp.symm.trans hp')
    have hgen := generated_of_typedBinding (Plan.analyze_wellFormed hp) hb
    obtain ⟨type, names, _, _, rfl⟩ := typedBinding_eq_ok_iff.1 hb
    refine ⟨_, t.toBound, hb, htext, hsource, ?_, fun code w => ?_, fun name i => ?_,
      hgen.symbols_eq, fun c hc => hgen.number?_of_mem_consts hp hc⟩
    · rw [hgen.bind_eq, ht]
      rfl
    · exact ⟨t.answer code w, hgen.answer_eq hplans code w, answersByNumber hp ht code w⟩
    · exact (Plan.number?_eq_some_iff hp).symm

/-- A lookup that has every symbol, its length being the address. -/
def lengthLookup : SymbolLookup := ⟨"lengths", fun symbol => some ⟨.ofNat symbol.length⟩⟩

/-- Bytes are compared, so capitals come first. -/
theorem numbersAgree_upper :
    ∃ t, (BindingTable.build Sample.upper lengthLookup).1 = .ok t ∧
    (∃ p, Plan.analyze Sample.upper = .ok p ∧ NumbersAgree Sample.upper lengthLookup p t) ∧
    Sample.upper.number? "X" = some ⟨1⟩ ∧ Sample.upper.number? "abcDef" = some ⟨2⟩ ∧
    Sample.upper.number? "x" = none := by
  obtain ⟨t, ht⟩ : ∃ t, (BindingTable.build Sample.upper lengthLookup).1 = .ok t := by
    rw [BindingTable.build_eq_fromPlan analyze_upper]
    exact ⟨_, rfl⟩
  exact ⟨t, ht, BindingTable.numbersAgree ht, by decide, by decide, by decide⟩

/-! ## 3. Programs -/

/-- A program that uses an interface in all ways has the generated type of the source file. -/
theorem Client.start_generated_iff_source {d : Description} {lookup : SymbolLookup}
    {b : TypedBinding} {self : Bound} :
    (Client.start d lookup).generated = some (b, self) ↔
      ∃ text, generate d = .ok text ∧ TypedBinding.ofSource? text = some b ∧
        (b.bind lookup).1 = .ok self := by
  rw [start_generated_eq_some_iff]
  constructor
  · rintro ⟨p, t, hp, hb, ht, rfl⟩
    have hwell := Plan.analyze_wellFormed hp
    refine ⟨_, generate_eq_ok_iff.2 ⟨p, b, hp, hb, rfl⟩,
      TypedBinding.ofSource?_typedBinding hwell hb, ?_⟩
    rw [(generated_of_typedBinding hwell hb).bind_eq lookup, ht]
    rfl
  · rintro ⟨text, hgenerate, hsource, hself⟩
    obtain ⟨p, b', hp, hb, -, hsource'⟩ := TypedBinding.ofSource?_generate hgenerate
    obtain rfl : b = b' := Option.some.inj (hsource.symm.trans hsource')
    rw [(generated_of_typedBinding (Plan.analyze_wellFormed hp) hb).bind_eq lookup] at hself
    obtain ⟨t, ht, rfl⟩ := map_eq_ok_iff.1 hself
    exact ⟨p, t, hp, hb, ht, rfl⟩

end ForeignCall
