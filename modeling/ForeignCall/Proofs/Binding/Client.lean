import ForeignCall.Proofs.Binding.Lazy
import ForeignCall.Proofs.Call.Buffers

/-!
# Clients

A program uses an interface in three ways: through its dynamic interface, through the generated
dispatch, and through typed stubs.

* `Client.access` is one use, `Client.run` a run of uses of all three kinds in any order.
* `Client.Of.access_effect`: each use makes one call of a method or none, and which one is decided
  by the description and the lookup alone.
* `Effect.Resolved`: the call goes to the entry point that the lookup has for the method's symbol,
  and only a call returns a value.
-/

namespace ForeignCall

/-! ## 1. Clients -/

/-- What a program does with an interface. -/
inductive Access where
  | dynamic (use : Use)
  | generated (operation : Operation)
  | stub (ident : Ident) (args : List ManagedArg)

/-- What a program has: a dynamic interface, and a bound value of the generated type if there is
one. -/
structure Client where
  interface : DynamicInterface
  generated : Option (TypedBinding × Bound)

namespace Client

/-- The interface of a description, bound to a lookup in both ways. -/
def start (d : Description) (lookup : SymbolLookup) : Client where
  interface := .bind d lookup
  generated := do
    let p ← (planFor d).toOption
    let b ← (typedBinding p).toOption
    let self ← (b.bind lookup).1.toOption
    return (b, self)

/-- The access can be written: there is a generated type with this stub, for arguments of these
types. -/
def Admits (c : Client) : Access → Prop
  | .dynamic _ => True
  | .generated _ => ∃ b self, c.generated = some (b, self)
  | .stub ident args => ∃ b self stub, c.generated = some (b, self) ∧ b.stub? ident = some stub ∧
      args.map ManagedArg.type = stub.params

section Access

variable {σ : Type}

/-- What is seen of an access, and what it leaves. -/
def access (c : Client) (lookup : SymbolLookup) (code : NativeCode σ) (w : World σ) :
    Access → Option (Seen × Client × World σ)
  | .dynamic use =>
    let event := c.interface.use lookup code w use
    some (event.seen, { c with interface := event.interface }, event.world)
  | .generated operation => do
    let (b, self) ← c.generated
    let (reply, w) ← b.answer self code w operation
    return (.reply reply, c, w)
  | .stub ident args => do
    let (b, self) ← c.generated
    let stub ← b.stub? ident
    let (result, w) ← stub.run self code args w
    return (.reply (.value (result.map StubResult.toValue)), c, w)

def run (c : Client) (lookup : SymbolLookup) (code : NativeCode σ) :
    List Access → World σ → Option (List Seen × Client × World σ)
  | [], w => some ([], c, w)
  | a :: rest, w => do
    let (seen, c, w) ← c.access lookup code w a
    let (more, c, w) ← c.run lookup code rest w
    return (seen :: more, c, w)

end Access
end Client

def Operation.args : Operation → List Value
  | .methodId _ => []
  | .call _ args => args
  | .callByName _ args => args

def Operation.method? (p : Plan) : Operation → Option MethodPlan
  | .methodId _ => none
  | .call id _ => p.method? id
  | .callByName name _ => p.methods.find? (·.symbol = name)

theorem Operation.mem_of_method? {p : Plan} {o : Operation} {m : MethodPlan}
    (h : o.method? p = some m) : m ∈ p.methods := by
  cases o with
  | methodId name => cases h
  | call id args => exact List.mem_of_getElem? h
  | callByName name args => exact List.mem_of_find?_eq_some h

namespace Access

def args : Access → List Value
  | .dynamic (.need (.operation o)) => o.args
  | .dynamic _ => []
  | .generated o => o.args
  | .stub _ managed => managed.map ManagedArg.value

def method? (p : Plan) : Access → Option MethodPlan
  | .dynamic (.need (.operation o)) => o.method? p
  | .dynamic _ => none
  | .generated o => o.method? p
  | .stub ident _ => p.methods.find? (identOf ·.symbol = ident)

theorem mem_of_method? {p : Plan} {a : Access} {m : MethodPlan} (h : a.method? p = some m) :
    m ∈ p.methods := by
  cases a with
  | dynamic use =>
    cases use with
    | look l => cases h
    | need n =>
      cases n with
      | ensureBound => cases h
      | operation o => exact o.mem_of_method? h
  | generated o => exact o.mem_of_method? h
  | stub ident args => exact List.mem_of_find?_eq_some h

end Access

/-! ## 2. Effects -/

/-- What an access comes down to: the caller sees something, or a method is called. -/
inductive Effect where
  | idle (seen : Seen)
  | call (b : MethodBinding) (args : List Value)

def Effect.run {σ : Type} (code : NativeCode σ) (w : World σ) : Effect → Seen × World σ
  | .idle seen => (seen, w)
  | .call b args =>
    let (result, w) := b.invoke code args w
    (.reply (.value result), w)

/-- If a method is called, it is the one of `a`, on the arguments of `a`. -/
def Effect.Serves (d : Description) (a : Access) (e : Effect) : Prop :=
  ∀ b args, e = .call b args →
    args = a.args ∧ ∃ p, Plan.analyze d = .ok p ∧ a.method? p = some b.plan

/-- A method is called at the entry point of its symbol, and no value comes without a call. -/
structure Effect.Resolved (lookup : SymbolLookup) (e : Effect) : Prop where
  entry : ∀ b args, e = .call b args → lookup.find b.plan.symbol = some b.entry
  idle : ∀ seen, e = .idle seen → ∀ v, seen ≠ .reply (.value (.ok v))

theorem Effect.serves_idle (d : Description) (a : Access) (seen : Seen) :
    (Effect.idle seen).Serves d a := by
  intro b args h
  cases h

theorem Effect.resolved_idle (lookup : SymbolLookup) {seen : Seen}
    (h : ∀ v, seen ≠ .reply (.value (.ok v))) : (Effect.idle seen).Resolved lookup where
  entry _ _ hcall := by cases hcall
  idle _ hidle := by
    cases hidle
    exact h

theorem Effect.resolved_call {lookup : SymbolLookup} {b : MethodBinding} (args : List Value)
    (h : lookup.find b.plan.symbol = some b.entry) : (Effect.call b args).Resolved lookup where
  entry _ _ hcall := by
    cases hcall
    exact h
  idle _ hidle := by cases hidle

namespace BindingTable

variable {σ : Type} {p : Plan} {t : BindingTable}

/-- What the table does when it is asked. -/
def effect (t : BindingTable) : Operation → Effect
  | .methodId name => .idle (.reply (.id (orError (.unknownMethod name) (t.methodId? name))))
  | .call id args =>
    match t.method? id with
    | none => .idle (.reply (.value (.error (.unknownMethod id.text))))
    | some b => .call b args
  | .callByName name args =>
    match t.methodId? name with
    | none => .idle (.reply (.value (.error (.unknownMethod name))))
    | some id =>
      match t.method? id with
      | none => .idle (.reply (.value (.error (.unknownMethod id.text))))
      | some b => .call b args

theorem answer_eq_effect (t : BindingTable) (code : NativeCode σ) (w : World σ) (o : Operation) :
    (t.effect o).run code w = (.reply (t.answer code w o).1, (t.answer code w o).2) := by
  cases o with
  | methodId name => rfl
  | call id args =>
    rw [effect, answer, invoke]
    cases t.method? id <;> rfl
  | callByName name args =>
    rw [effect, answer]
    cases t.methodId? name with
    | none => rfl
    | some id =>
      simp only [invoke]
      cases t.method? id <;> rfl

theorem plan_of_method? (ht : t.methods.map MethodBinding.plan = p.methods) {id : MethodId}
    {b : MethodBinding} (h : t.method? id = some b) : p.method? id = some b.plan := by
  rw [Plan.method?, ← ht, List.getElem?_map]
  exact congrArg (Option.map MethodBinding.plan) h

/-- The method called is the one that is asked for. -/
theorem effect_eq_call (hp : p.WellFormed) (ht : t.methods.map MethodBinding.plan = p.methods)
    {o : Operation} {b : MethodBinding} {args : List Value} (h : t.effect o = .call b args) :
    args = o.args ∧ o.method? p = some b.plan := by
  cases o with
  | methodId name => cases h
  | call id args' =>
    rw [effect] at h
    cases hm : t.method? id with
    | none => simp [hm] at h
    | some b' =>
      rw [hm] at h
      cases h
      exact ⟨rfl, plan_of_method? ht hm⟩
  | callByName name args' =>
    rw [effect] at h
    cases hid : t.methodId? name with
    | none => simp [hid] at h
    | some id =>
      rw [hid] at h
      cases hm : t.method? id with
      | none => simp [hm] at h
      | some b' =>
        simp only [hm] at h
        cases h
        refine ⟨rfl, ?_⟩
        rw [methodId?_eq hp ht, Option.map_eq_some_iff] at hid
        obtain ⟨m, hfind, rfl⟩ := hid
        obtain ⟨i, hi⟩ := List.getElem?_of_mem (List.mem_of_find?_eq_some hfind)
        have hplan := plan_of_method? ht hm
        rw [hp.ids i m hi] at hplan
        exact hfind.trans (hi.symm.trans hplan)

theorem effect_resolved {lookup : SymbolLookup}
    (h : ∀ b ∈ t.methods, lookup.find b.plan.symbol = some b.entry) (o : Operation) :
    (t.effect o).Resolved lookup := by
  have hcall : ∀ id args,
      (match t.method? id with
        | none => Effect.idle (.reply (.value (.error (.unknownMethod id.text))))
        | some b => .call b args).Resolved lookup := by
    intro id args
    cases hm : t.method? id with
    | none => exact Effect.resolved_idle lookup (by simp)
    | some b => exact Effect.resolved_call args (h b (List.mem_of_getElem? hm))
  cases o with
  | methodId name => exact Effect.resolved_idle lookup (by simp)
  | call id args => exact hcall id args
  | callByName name args =>
    rw [effect]
    cases t.methodId? name with
    | none => exact Effect.resolved_idle lookup (by simp)
    | some id => exact hcall id args

end BindingTable

/-! ## 3. What accesses come down to -/

namespace Client

variable {d : Description} {lookup : SymbolLookup} {c : Client}

theorem start_generated_eq_some_iff {b : TypedBinding} {self : Bound} :
    (start d lookup).generated = some (b, self) ↔
    ∃ p t, Plan.analyze d = .ok p ∧ typedBinding p = .ok b ∧
      (BindingTable.fromPlan p lookup).1 = .ok t ∧ self = t.toBound := by
  rw [start, planFor]
  cases hp : Plan.analyze d with
  | error e => simp [mapError_error, Except.toOption]
  | ok p =>
    cases hb : typedBinding p with
    | error e => simp [mapError_ok, Except.toOption, hb]
    | ok b' =>
      have hbind := (generated_of_typedBinding (Plan.analyze_wellFormed hp) hb).bind_eq lookup
      cases ht : (BindingTable.fromPlan p lookup).1 with
      | error e => simp [mapError_ok, Except.toOption, hb, hbind, ht, Except.map]
      | ok t =>
        simp [mapError_ok, Except.toOption, hb, hbind, ht, Except.map, eq_comm]

/-- If an interface can be planned and written and all its symbols are found, there is a bound value
of its generated type. -/
theorem exists_start_generated {p : Plan} {type : Ident} {names : List MethodNames}
    {t : BindingTable} (hp : Plan.analyze d = .ok p) (htype : typeIdent p.interface = .ok type)
    (hnames : methodNames p.symbols = .ok names) (ht : (BindingTable.fromPlan p lookup).1 = .ok t) :
    ∃ b, Generated p b ∧ (start d lookup).generated = some (b, t.toBound) := by
  have hb := typedBinding_eq_ok_iff.2 ⟨type, names, htype, hnames, rfl⟩
  exact ⟨_, generated_of_typedBinding (Plan.analyze_wellFormed hp) hb,
    start_generated_eq_some_iff.2 ⟨p, t, hp, hb, ht, rfl⟩⟩

/-- The interface is unbuilt or has the outcome of the one build, and nothing else has changed since
the start. -/
structure Of (d : Description) (lookup : SymbolLookup) (c : Client) : Prop where
  interface : c.interface = .bind d lookup ∨
    c.interface = (DynamicInterface.bind d lookup).built (BindingTable.build d lookup).1
  generated : c.generated = (start d lookup).generated

theorem start_of (d : Description) (lookup : SymbolLookup) : (start d lookup).Of d lookup :=
  ⟨.inl rfl, rfl⟩

theorem Of.admits_iff (h : c.Of d lookup) {a : Access} :
    c.Admits a ↔ (start d lookup).Admits a := by
  cases a with
  | dynamic use => exact Iff.rfl
  | generated o => rw [Admits, Admits, h.generated]
  | stub ident args => rw [Admits, Admits, h.generated]

theorem Of.ensureBound_eq (h : c.Of d lookup) :
    ∃ asked, c.interface.ensureBound lookup =
      ⟨(BindingTable.build d lookup).1, c.interface.built (BindingTable.build d lookup).1,
        asked⟩ := by
  rcases h.interface with hi | hi
  · rw [hi]
    exact ⟨_, DynamicInterface.ensureBound_of_new rfl lookup⟩
  · rw [hi]
    exact ⟨[], DynamicInterface.ensureBound_built _ _ lookup⟩

theorem Of.built (h : c.Of d lookup) :
    ({ c with interface := c.interface.built (BindingTable.build d lookup).1 } : Client).Of
      d lookup := by
  refine ⟨.inr ?_, h.generated⟩
  rcases h.interface with hi | hi
  · rw [hi]
  · rw [hi]
    rfl

end Client

/-- What is done once the build has this outcome. -/
def Need.effect (outcome : Except BindError BindingTable) : Need → Effect
  | .operation o =>
    match outcome with
    | .ok t => t.effect o
    | .error e => .idle (.reply (o.failed e))
  | .ensureBound => .idle (.bound outcome)

theorem Need.answer_eq_effect {σ : Type} (outcome : Except BindError BindingTable)
    (code : NativeCode σ) (w : World σ) (n : Need) :
    (n.effect outcome).run code w = n.answer outcome code w := by
  cases n with
  | ensureBound => rfl
  | operation o =>
    cases outcome with
    | error e => rfl
    | ok t => exact t.answer_eq_effect code w o

theorem Need.effect_serves (d : Description) (lookup : SymbolLookup) (n : Need) :
    (n.effect (BindingTable.build d lookup).1).Serves d (.dynamic (.need n)) := by
  cases n with
  | ensureBound => exact Effect.serves_idle d _ _
  | operation o =>
    intro b args h
    cases ht : (BindingTable.build d lookup).1 with
    | error e =>
      rw [ht] at h
      cases h
    | ok t =>
      rw [ht] at h
      obtain ⟨p, hp, hplan⟩ := BindingTable.exists_plan_of_build ht
      obtain ⟨hargs, hm⟩ := BindingTable.effect_eq_call (Plan.analyze_wellFormed hp)
        (BindingTable.plans_of_fromPlan hplan) h
      exact ⟨hargs, p, hp, hm⟩

theorem Need.effect_resolved (d : Description) (lookup : SymbolLookup) (n : Need) :
    (n.effect (BindingTable.build d lookup).1).Resolved lookup := by
  cases n with
  | ensureBound => exact Effect.resolved_idle lookup (by simp)
  | operation o =>
    cases ht : (BindingTable.build d lookup).1 with
    | error e => cases o <;> exact Effect.resolved_idle lookup (by simp [Operation.failed])
    | ok t =>
      obtain ⟨p, -, hplan⟩ := BindingTable.exists_plan_of_build ht
      exact t.effect_resolved (BindingTable.find_of_fromPlan hplan) o

namespace Client

variable {d : Description} {lookup : SymbolLookup} {c : Client}

/-- A stub is that of a method of the table, and its typed arguments pass the method's check. -/
theorem exists_method_of_stub? {p : Plan} {b : TypedBinding} {t : BindingTable} {ident : Ident}
    {stub : Stub} {managed : List ManagedArg} (hgen : Generated p b)
    (ht : t.methods.map MethodBinding.plan = p.methods) (hstub : b.stub? ident = some stub)
    (htypes : managed.map ManagedArg.type = stub.params) :
    ∃ m ∈ t.methods, identOf m.plan.symbol = ident ∧
      p.methods.find? (identOf ·.symbol = ident) = some m.plan ∧
      m.check (managed.map ManagedArg.value) = .ok managed := by
  rw [TypedBinding.stub?, hgen.stubs, List.find?_map, Option.map_eq_some_iff] at hstub
  obtain ⟨plan, hfind, rfl⟩ := hstub
  have hmem : plan ∈ t.methods.map MethodBinding.plan := ht ▸ List.mem_of_find?_eq_some hfind
  obtain ⟨m, hm, rfl⟩ := List.mem_map.1 hmem
  have hident := List.find?_some hfind
  exact ⟨m, hm, of_decide_eq_true hident, hfind, MethodBinding.check_eq_ok_iff.2 ⟨rfl, htypes⟩⟩

/-- A stub that is given arguments of its types ends as a call of its method. -/
theorem exists_invoke_of_stub? {p : Plan} {b : TypedBinding} {t : BindingTable} {ident : Ident}
    {stub : Stub} {managed : List ManagedArg} (hgen : Generated p b)
    (ht : t.methods.map MethodBinding.plan = p.methods) (hstub : b.stub? ident = some stub)
    (htypes : managed.map ManagedArg.type = stub.params) :
    ∃ m ∈ t.methods, p.methods.find? (identOf ·.symbol = ident) = some m.plan ∧
      ∀ {σ : Type} (code : NativeCode σ) (w : World σ),
        ∃ outcome, stub.run t.toBound code managed w = some outcome ∧
          StubResult.outcome outcome = m.invoke code (managed.map ManagedArg.value) w := by
  obtain ⟨m, hm, rfl, hfind, hc⟩ := exists_method_of_stub? hgen ht hstub htypes
  refine ⟨m, hm, hfind, fun code w => ?_⟩
  obtain ⟨stub', hstub', hrun⟩ := hgen.run_stub_eq ht code hm hc w
  cases hstub.symm.trans hstub'
  exact Option.map_eq_some_iff.1 hrun

/-- Each access makes one call of a method or none. Native code and the world play no part in which
call it is, and the client goes on with the outcome of the one build. -/
theorem Of.access_effect (h : c.Of d lookup) {a : Access} (ha : c.Admits a) :
    ∃ (e : Effect) (c' : Client), e.Serves d a ∧ e.Resolved lookup ∧ c'.Of d lookup ∧
      ∀ {σ : Type} (code : NativeCode σ) (w : World σ),
        c.access lookup code w a = some ((e.run code w).1, c', (e.run code w).2) := by
  cases a with
  | dynamic use =>
    cases use with
    | look l =>
      refine ⟨.idle (c.interface.look l), c, Effect.serves_idle d _ _,
        Effect.resolved_idle lookup ?_, h, fun code w => rfl⟩
      cases l <;> simp [DynamicInterface.look]
    | need n =>
      -- Built before or built now, the interface has the same outcome, and it decides the effect.
      obtain ⟨asked, hbound⟩ := h.ensureBound_eq
      refine ⟨n.effect (BindingTable.build d lookup).1, _, n.effect_serves d lookup,
        n.effect_resolved d lookup, h.built, fun code w => ?_⟩
      rw [access, DynamicInterface.use_need_eq hbound, Need.answer_eq_effect]
      rfl
  | generated o =>
    obtain ⟨b, self, hgenerated⟩ := ha
    obtain ⟨p, t, hp, hb, hplan, rfl⟩ := start_generated_eq_some_iff.1 (h.generated ▸ hgenerated)
    have hgen := generated_of_typedBinding (Plan.analyze_wellFormed hp) hb
    have ht := BindingTable.plans_of_fromPlan hplan
    refine ⟨t.effect o, c, fun m args hcall => ?_,
      t.effect_resolved (BindingTable.find_of_fromPlan hplan) o, h, fun code w => ?_⟩
    · obtain ⟨hargs, hm⟩ := BindingTable.effect_eq_call hgen.plan ht hcall
      exact ⟨hargs, p, hp, hm⟩
    · simp only [access, hgenerated, Option.bind_eq_bind, Option.bind_some, hgen.answer_eq ht,
        t.answer_eq_effect]
      rfl
  | stub ident managed =>
    obtain ⟨b, self, stub, hgenerated, hstub, htypes⟩ := ha
    obtain ⟨p, t, hp, hb, hplan, rfl⟩ := start_generated_eq_some_iff.1 (h.generated ▸ hgenerated)
    have hgen := generated_of_typedBinding (Plan.analyze_wellFormed hp) hb
    have ht := BindingTable.plans_of_fromPlan hplan
    obtain ⟨m, hm, hfind, hrun⟩ := exists_invoke_of_stub? hgen ht hstub htypes
    refine ⟨.call m (managed.map ManagedArg.value), c, fun m' args hcall => ?_,
      Effect.resolved_call _ (BindingTable.find_of_fromPlan hplan m hm), h, fun code w => ?_⟩
    · cases hcall
      exact ⟨rfl, p, hp, hfind⟩
    · obtain ⟨outcome, hout, hinvoke⟩ := hrun code w
      simp only [access, hgenerated, hstub, Option.bind_eq_bind, Option.bind_some, hout,
        Effect.run, ← hinvoke]
      rfl

end Client
end ForeignCall
