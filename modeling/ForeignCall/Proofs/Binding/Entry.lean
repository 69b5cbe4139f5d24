import ForeignCall.Proofs.Binding.Client
import ForeignCall.Proofs.Binding.Resolver

/-!
# Entry-point modules

A program calls the functions of an entry-point module and asks for its binding, in any order. The
first use decides: its outcome is kept, and the resolver is never evaluated again.

* `EntryModule.Beside.binding_first`: the first use runs the function that makes the binding, which
  evaluates the resolver and binds the sibling type; `EntryModule.Beside.binding_kept` is a later
  use.
* `EntryModule.Beside.run_first`: all uses are decided by the first one.
* `EntryModule.Beside.binding_bindNow`: with the resolver of libraries the first use comes out as
  the dynamic interface that is bound to them at once.
-/

namespace ForeignCall

/-! ## 1. Uses -/

/-- What a program does with an entry-point module. -/
inductive EntryUse where
  | binding
  | call (function : Ident) (args : List ManagedArg)

inductive EntryReply where
  | binding (result : Except BindError Bound)
  | value (result : Except BindError StubResult)

/-- What comes of a use: the reply, what the module asked for, and the state of the resolver
afterwards. -/
structure EntryEvent (ρ : Type) where
  reply : EntryReply
  use : EntryModule.Use
  resolver : ρ

/-- The reply if there is no binding. -/
def EntryUse.failed (e : BindError) : EntryUse → EntryReply
  | .binding => .binding (.error e)
  | .call _ _ => .value (.error e)

section Uses

variable {ρ σ : Type}

namespace EntryModule

/-- The use can be written: there is a function of this name for arguments of these types. -/
def Admits (m : EntryModule) : EntryUse → Prop
  | .binding => True
  | .call function args =>
    ∃ f ∈ m.functions, f.ident = function ∧ args.map ManagedArg.type = f.params

/-- Replies, the binding being as it is. -/
def reply (m : EntryModule) (b : TypedBinding) (bound : Except BindError Bound)
    (code : NativeCode σ) (w : World σ) : EntryUse → Option (EntryReply × World σ)
  | .binding => some (.binding bound, w)
  | .call function args => do
    let (result, w) ← m.call b bound code function args w
    return (.value result, w)

/-- Uses the module one time after another. Each use finds the resolver in a state of its own, which
may have changed since the use before. -/
def run (m : EntryModule) (b : TypedBinding) (resolve : ρ → Except BindError SymbolLookup × ρ)
    (code : NativeCode σ) :
    List (ρ × EntryUse) → Memo → World σ → Option (List (EntryEvent ρ) × Memo × World σ)
  | [], memo, w => some ([], memo, w)
  | (r, u) :: rest, memo, w => do
    let (bound, memo, r, use) ← m.binding b resolve memo r
    let (reply, w) ← m.reply b bound code w u
    let (events, memo, w) ← m.run b resolve code rest memo w
    return (⟨reply, use, r⟩ :: events, memo, w)

end EntryModule

/-- The stubs of a bound type, called one after another in place of the module's functions. -/
def TypedBinding.replies (b : TypedBinding) (self : Bound) (code : NativeCode σ) :
    List EntryUse → World σ → Option (List EntryReply × World σ)
  | [], w => some ([], w)
  | .binding :: rest, w => do
    let (replies, w) ← b.replies self code rest w
    return (.binding (.ok self) :: replies, w)
  | .call function args :: rest, w => do
    let stub ← b.stub? function
    let (result, w) ← stub.run self code args w
    let (replies, w) ← b.replies self code rest w
    return (.value result :: replies, w)

end Uses

/-! ## 2. The module of a plan -/

theorem entryModule_eq_ok_iff {p : Plan} {resolver : Text} {m : EntryModule} :
    entryModule p resolver = .ok m ↔
    ∃ type module names tokens, typeIdent p.interface = .ok type ∧
      moduleIdent p.interface = .ok module ∧ methodNames p.symbols = .ok names ∧
      resolverTokens resolver = .ok tokens ∧ snakeCase p.interface ≠ p.interface ∧
      p.methods.find? (·.symbol ∈ reservedEntry) = none ∧
      m = .ofPlan p module type names tokens := by
  have hsymbols : p.methods.map MethodPlan.symbol = p.symbols := rfl
  simp only [entryModule, hsymbols, bind_eq_ok_iff, guard_eq_ok_iff]
  cases p.methods.find? (·.symbol ∈ reservedEntry) with
  | some found => simp [throw_ne_ok]
  | none =>
    simp only [bind_eq_ok_iff, pure_eq_ok_iff, true_and]
    constructor
    · rintro ⟨type, htype, hsnake, tokens, htokens, names, hnames, module, hmodule, rfl⟩
      exact ⟨type, module, names, tokens, htype, hmodule, hnames, htokens, hsnake, rfl⟩
    · rintro ⟨type, module, names, tokens, htype, hmodule, hnames, htokens, hsnake, rfl⟩
      exact ⟨type, htype, hsnake, tokens, htokens, names, hnames, module, hmodule, rfl⟩

theorem resolver_of_entryModule {p : Plan} {resolver : Text} {m : EntryModule}
    (h : entryModule p resolver = .ok m) : resolverTokens resolver = .ok m.resolver := by
  obtain ⟨_, _, _, tokens, _, _, _, htokens, _, _, rfl⟩ := entryModule_eq_ok_iff.1 h
  exact htokens

theorem generateEntry_eq_ok_iff {d : Description} {resolver text : Text} :
    generateEntry d resolver = .ok text ↔
    ∃ p m, Plan.analyze d = .ok p ∧ entryModule p resolver = .ok m ∧
      text = renderFile p.interface [m.item] := by
  simp only [generateEntry, planFor_eq_ok_iff, bind_eq_ok_iff, pure_eq_ok_iff, exists_and_left,
    eq_comm (a := text)]

theorem generateBoth_eq_ok_iff {d : Description} {resolver text : Text} :
    generateBoth d resolver = .ok text ↔
    ∃ p b m, Plan.analyze d = .ok p ∧ typedBinding p = .ok b ∧ entryModule p resolver = .ok m ∧
      text = renderFile p.interface (b.items ++ [m.item]) := by
  simp only [generateBoth, planFor_eq_ok_iff, bind_eq_ok_iff, pure_eq_ok_iff, exists_and_left,
    eq_comm (a := text)]

/-- The module has the type that `b` is the code of, a function for each method of the plan, and the
code that every module has. -/
structure EntryModule.Beside (p : Plan) (m : EntryModule) (b : TypedBinding) : Prop where
  generated : Generated p b
  type : m.type = b.type
  once : m.once = .standard
  functions : m.functions = p.methods.map fun m => .ofMethod m (identOf m.symbol)

theorem exists_beside_of_entryModule {p : Plan} (hp : p.WellFormed) {resolver : Text}
    {m : EntryModule} (h : entryModule p resolver = .ok m) :
    ∃ b, typedBinding p = .ok b ∧ m.Beside p b := by
  obtain ⟨type, module, names, tokens, htype, _, hnames, _, _, _, rfl⟩ := entryModule_eq_ok_iff.1 h
  have hb := typedBinding_eq_ok_iff.2 ⟨type, names, htype, hnames, rfl⟩
  obtain ⟨rfl, _⟩ := methodNames_eq_ok_iff.1 hnames
  exact ⟨_, hb, generated_of_typedBinding hp hb, rfl, rfl, map_methods_zip_names p _⟩

/-! ## 3. The static -/

namespace EntryModule

variable {ρ σ : Type} {p : Plan} {m : EntryModule} {b : TypedBinding}

/-- What the first use keeps, given what the resolver gave. -/
def firstOutcome (b : TypedBinding) (library : Except BindError SymbolLookup) :
    Except BindError Loaded :=
  library.bind fun lookup => (b.bind lookup).1.map (Loaded.mk lookup)

/-- The symbols that are asked for at the first use. -/
def firstAsked (b : TypedBinding) : Except BindError SymbolLookup → List Text
  | .error _ => []
  | .ok lookup => (b.bind lookup).2

/-- The function that makes the binding evaluates the resolver once and binds the type once. -/
theorem runInit_standard (htype : m.type = b.type)
    (resolve : ρ → Except BindError SymbolLookup × ρ) (r : ρ) :
    m.runInit b resolve OnceCode.standard.init.body (.start r) =
      some (firstOutcome b (resolve r).1, (resolve r).2, ⟨1, firstAsked b (resolve r).1⟩) := by
  change m.runInit b resolve [.resolve, .bind, .giveLoaded] (.start r) = _
  rcases hresolve : resolve r with ⟨e | library, r'⟩
  · simp [runInit, InitState.start, hresolve, Use.none, firstOutcome, firstAsked, Except.bind]
  · rcases hbind : b.bind library with ⟨e | bound, asked⟩ <;>
      simp [runInit, InitState.start, hresolve, hbind, htype, Use.none, firstOutcome, firstAsked,
        Except.bind, Except.map]

/-- The arms of the access function match every outcome. -/
theorem take?_standard (outcome : Except BindError Loaded) :
    OnceCode.standard.access.arms.findSome? (·.take? outcome) =
      some (outcome.map Loaded.binding) := by
  cases outcome <;> rfl

/-- The first use keeps its outcome. -/
theorem Beside.binding_first (h : m.Beside p b) (resolve : ρ → Except BindError SymbolLookup × ρ)
    (r : ρ) : m.binding b resolve none r =
      some ((firstOutcome b (resolve r).1).map Loaded.binding,
        some (firstOutcome b (resolve r).1), (resolve r).2, ⟨1, firstAsked b (resolve r).1⟩) := by
  rw [binding, h.once, if_pos ⟨rfl, rfl⟩]
  simp only [runInit_standard h.type, take?_standard, Option.bind_eq_bind, Option.bind_some]
  rfl

/-- A later use finds the outcome and asks for nothing. -/
theorem Beside.binding_kept (h : m.Beside p b) (resolve : ρ → Except BindError SymbolLookup × ρ)
    (outcome : Except BindError Loaded) (r : ρ) :
    m.binding b resolve (some outcome) r =
      some (outcome.map Loaded.binding, some outcome, r, .none) := by
  rw [binding, h.once, if_pos ⟨rfl, rfl⟩]
  simp only [take?_standard, Option.bind_eq_bind, Option.bind_some]
  rfl

end EntryModule

/-! ## 4. Settled modules -/

/-- With this binding the uses give the replies and lead from one world to the other. If there is no
binding, every use gives the error and the world stays as it is, whatever native code there is;
otherwise the replies are those of the stubs. -/
structure EntryModule.Settled {σ : Type} (b : TypedBinding) (bound : Except BindError Bound)
    (code : NativeCode σ) (uses : List EntryUse) (w : World σ) (replies : List EntryReply)
    (w' : World σ) : Prop where
  failed : ∀ e, bound = .error e → replies = uses.map (EntryUse.failed e) ∧ w' = w
  bound : ∀ self, bound = .ok self → b.replies self code uses w = some (replies, w')

namespace EntryModule

variable {ρ σ : Type} {p : Plan} {m : EntryModule} {b : TypedBinding}
  {bound : Except BindError Bound} {code : NativeCode σ} {w : World σ}

theorem settled_nil : Settled b bound code [] w [] w :=
  ⟨fun _ _ => ⟨rfl, rfl⟩, fun _ _ => rfl⟩

theorem Beside.find_function (h : m.Beside p b) {f : EntryFunction} (hf : f ∈ m.functions) :
    m.functions.find? (·.ident = f.ident) = some f := by
  refine find?_key_of_mem ?_ hf
  rw [h.functions, List.map_map]
  exact h.generated.nodup_idents

/-- There is no binding, or one to the entry points of a table of the plan. -/
def FromTable (p : Plan) (bound : Except BindError Bound) : Prop :=
  ∀ self, bound = .ok self →
    ∃ t : BindingTable, t.methods.map MethodBinding.plan = p.methods ∧ self = t.toBound

/-- A function calls the stub of its name with all its arguments, if the binding was made. -/
theorem Beside.call_eq (h : m.Beside p b) {f : EntryFunction} (hf : f ∈ m.functions)
    {args : List ManagedArg} (htypes : args.map ManagedArg.type = f.params)
    (bound : Except BindError Bound) (code : NativeCode σ) (w : World σ) :
    m.call b bound code f.ident args w =
      match bound with
      | .error e => some (.error e, w)
      | .ok self => (b.stub? f.ident).bind fun stub => stub.run self code args w := by
  obtain ⟨plan, -, rfl⟩ := List.mem_map.1 (h.functions ▸ hf)
  have hpassed : args.take plan.arity = args := by
    have hlength := congrArg List.length htypes
    rw [List.length_map] at hlength
    exact List.take_of_length_le (Nat.le_of_eq hlength)
  rw [call, h.find_function hf, h.once]
  simp only [EntryFunction.ofMethod, Option.bind_eq_bind, Option.bind_some, if_true, hpassed]
  cases bound <;> rfl

/-- A function has a stub of its name, which runs on the arguments the function admits. -/
theorem Beside.exists_stub_run (h : m.Beside p b) {t : BindingTable}
    (ht : t.methods.map MethodBinding.plan = p.methods) {f : EntryFunction} (hf : f ∈ m.functions)
    {args : List ManagedArg} (htypes : args.map ManagedArg.type = f.params) (code : NativeCode σ)
    (w : World σ) : ∃ stub result w', b.stub? f.ident = some stub ∧
      stub.run t.toBound code args w = some (result, w') := by
  obtain ⟨plan, hplan, rfl⟩ := List.mem_map.1 (h.functions ▸ hf)
  have hstub := h.generated.stub?_eq hplan
  obtain ⟨_, _, _, hrun⟩ := Client.exists_invoke_of_stub? h.generated ht hstub htypes
  obtain ⟨⟨result, w'⟩, hout, _⟩ := hrun code w
  exact ⟨_, result, w', hstub, hout⟩

/-- One use of a settled module. -/
theorem Beside.exists_reply (h : m.Beside p b) (hbound : FromTable p bound) {u : EntryUse}
    (hu : m.Admits u) (code : NativeCode σ) (w : World σ) :
    ∃ reply w', m.reply b bound code w u = some (reply, w') ∧ ∀ uses replies w'',
      Settled b bound code uses w' replies w'' →
        Settled b bound code (u :: uses) w (reply :: replies) w'' := by
  cases u with
  | binding =>
    refine ⟨_, _, rfl, fun uses replies w'' hs => ⟨fun e he => ?_, fun self hself => ?_⟩⟩
    · obtain ⟨hreplies, hw⟩ := hs.failed e he
      exact ⟨by rw [hreplies, he]; rfl, hw⟩
    · rw [TypedBinding.replies, hs.bound self hself, hself]
      rfl
  | call function args =>
    obtain ⟨f, hf, rfl, htypes⟩ := hu
    have hcall := h.call_eq hf htypes bound code w
    cases bound with
    | error e =>
      refine ⟨.value (.error e), w, ?_, fun uses replies w'' hs => ⟨fun e' he => ?_, nofun⟩⟩
      · simp [reply, hcall]
      · obtain ⟨hreplies, hw⟩ := hs.failed e' he
        cases he
        exact ⟨by rw [hreplies]; rfl, hw⟩
    | ok self =>
      obtain ⟨t, ht, rfl⟩ := hbound self rfl
      obtain ⟨stub, result, w', hstub, hrun⟩ := h.exists_stub_run ht hf htypes code w
      refine ⟨.value result, w', ?_, fun uses replies w'' hs => ⟨nofun, fun self hself => ?_⟩⟩
      · simp [reply, hcall, hstub, hrun]
      · cases hself
        simp [TypedBinding.replies, hstub, hrun, hs.bound _ rfl]

/-- Once an outcome is kept, the resolver is left alone. -/
theorem Beside.run_settled (h : m.Beside p b) {outcome : Except BindError Loaded}
    (houtcome : FromTable p (outcome.map Loaded.binding))
    (resolve : ρ → Except BindError SymbolLookup × ρ) (code : NativeCode σ)
    {uses : List (ρ × EntryUse)} (huses : ∀ u ∈ uses.map Prod.snd, m.Admits u) (w : World σ) :
    ∃ events w', m.run b resolve code uses (some outcome) w = some (events, some outcome, w') ∧
      events.map EntryEvent.use = uses.map (fun _ => .none) ∧
      events.map EntryEvent.resolver = uses.map Prod.fst ∧
      Settled b (outcome.map Loaded.binding) code (uses.map Prod.snd) w
        (events.map EntryEvent.reply) w' := by
  induction uses generalizing w with
  | nil => exact ⟨[], w, rfl, rfl, rfl, settled_nil⟩
  | cons u uses ih =>
    obtain ⟨hu, huses⟩ := List.forall_mem_cons.1 huses
    obtain ⟨reply, w', hreply, hsettled⟩ := h.exists_reply houtcome hu code w
    obtain ⟨events, w'', hrun, huse, hresolver, hmore⟩ := ih huses w'
    refine ⟨⟨reply, .none, u.1⟩ :: events, w'', ?_, ?_, ?_, hsettled _ _ _ hmore⟩
    · simp [run, h.binding_kept, hreply, hrun]
    · rw [List.map_cons, huse, List.map_cons]
    · rw [List.map_cons, hresolver, List.map_cons]

theorem Beside.fromTable_first (h : m.Beside p b) (library : Except BindError SymbolLookup) :
    FromTable p ((firstOutcome b library).map Loaded.binding) := by
  intro self hself
  obtain ⟨loaded, hloaded, rfl⟩ := map_eq_ok_iff.1 hself
  obtain ⟨lookup, -, hmap⟩ := bind_eq_ok_iff.1 hloaded
  obtain ⟨self, hbind, rfl⟩ := map_eq_ok_iff.1 hmap
  rw [h.generated.bind_eq] at hbind
  obtain ⟨t, ht, rfl⟩ := map_eq_ok_iff.1 hbind
  exact ⟨t, BindingTable.plans_of_fromPlan ht, rfl⟩

/-- The first use decides, and its outcome is kept. -/
theorem Beside.run_first (h : m.Beside p b) (resolve : ρ → Except BindError SymbolLookup × ρ)
    (code : NativeCode σ) (r : ρ) {u : EntryUse} {rest : List (ρ × EntryUse)}
    (huses : ∀ v ∈ u :: rest.map Prod.snd, m.Admits v) (w : World σ) :
    ∃ events w', m.run b resolve code ((r, u) :: rest) none w =
        some (events, some (firstOutcome b (resolve r).1), w') ∧
      events.map EntryEvent.use =
        ⟨1, firstAsked b (resolve r).1⟩ :: rest.map (fun _ => .none) ∧
      events.map EntryEvent.resolver = (resolve r).2 :: rest.map Prod.fst ∧
      Settled b ((firstOutcome b (resolve r).1).map Loaded.binding) code
        (u :: rest.map Prod.snd) w (events.map EntryEvent.reply) w' := by
  have houtcome := h.fromTable_first (resolve r).1
  obtain ⟨hu, hrest⟩ := List.forall_mem_cons.1 huses
  obtain ⟨reply, w', hreply, hsettled⟩ := h.exists_reply houtcome hu code w
  obtain ⟨events, w'', hrun, huse, hresolver, hmore⟩ :=
    h.run_settled houtcome resolve code hrest w'
  refine ⟨⟨reply, ⟨1, firstAsked b (resolve r).1⟩, (resolve r).2⟩ :: events, w'', ?_, ?_, ?_,
    hsettled _ _ _ hmore⟩
  · simp [run, h.binding_first, hreply, hrun]
  · rw [List.map_cons, huse]
  · rw [List.map_cons, hresolver]

end EntryModule

/-! ## 5. The dynamic interface -/

/-- Resolves a library and builds the table at once: the outcome, the symbols that were asked for
and the registry afterwards. -/
def bindNow (d : Description) (spec : LibrarySpec) (loader : Loader Library)
    (r : Registry Library) : Except BindError BindingTable × List Text × Registry Library :=
  match bindLibrary d spec r loader with
  | (.error e, r) => (.error e, [], r)
  | (.ok (interface, library), r) =>
    let built := interface.ensureBound library.lookup
    (built.result, built.asked, r)

/-- The error says that there is no library, or that a symbol is not in it. -/
def BindError.IsUnbound (e : BindError) : Prop :=
  (∃ library reason, e = .libraryNotFound library reason) ∨
    ∃ symbol origin, e = .symbolNotBound symbol origin

theorem Registry.libraryNotFound_of_resolve {L : Type} {r : Registry L} {loader : Loader L}
    {spec : LibrarySpec} {e : BindError} (h : (r.resolve loader spec).1 = .error e) :
    ∃ library reason, e = .libraryNotFound library reason := by
  cases spec with
  | currentProcess =>
    rw [resolve] at h
    rcases hopen : r.openOnce loader processKey .process with ⟨reason | library, r'⟩
    · simp only [hopen] at h
      exact ⟨processKey, reason, (Except.error.inj h).symm⟩
    · simp only [hopen] at h
      cases h
  | candidates names =>
    rw [resolve] at h
    rcases hopen : openFirst loader none names r with ⟨(_ | ⟨name, reason⟩) | library, r'⟩
    · simp only [hopen] at h
      exact ⟨_, _, (Except.error.inj h).symm⟩
    · simp only [hopen] at h
      exact ⟨name, reason, (Except.error.inj h).symm⟩
    · simp only [hopen] at h
      cases h

section Dynamic

variable {d : Description} {p : Plan} {spec : LibrarySpec} {loader : Loader Library}
  {r : Registry Library}

/-- A table that is built at once is that of the plan. -/
theorem bindNow_eq (hp : Plan.analyze d = .ok p) (spec : LibrarySpec) (loader : Loader Library)
    (r : Registry Library) : bindNow d spec loader r =
      match r.resolve loader spec with
      | (.error e, r) => (.error e, [], r)
      | (.ok library, r) => ((BindingTable.fromPlan p library.lookup).1,
          (BindingTable.fromPlan p library.lookup).2, r) := by
  rw [bindNow, bindLibrary]
  rcases r.resolve loader spec with ⟨e | library, r'⟩
  · rfl
  · simp only [← BindingTable.build_eq_fromPlan hp library.lookup]
    rfl

theorem isUnbound_of_bindNow (hp : Plan.analyze d = .ok p) {e : BindError}
    (h : (bindNow d spec loader r).1 = .error e) : e.IsUnbound := by
  rw [bindNow_eq hp] at h
  rcases hr : r.resolve loader spec with ⟨e' | library, r'⟩
  · rw [hr] at h
    cases h
    exact .inl (Registry.libraryNotFound_of_resolve (congrArg Prod.fst hr))
  · rw [hr] at h
    cases hmethods : (BindingTable.resolveAll library.lookup p.methods).1 with
    | error e' =>
      obtain ⟨symbol, _, rfl⟩ := BindingTable.resolveAll_eq_error_iff.1 hmethods
      simp only [BindingTable.fromPlan, hmethods] at h
      exact .inr ⟨symbol, library.lookup.origin, (Except.error.inj h).symm⟩
    | ok methods =>
      simp only [BindingTable.fromPlan, hmethods] at h
      cases h

/-- The first use comes out as the dynamic interface that is bound at once, and asks for the same
symbols. -/
theorem EntryModule.Beside.binding_bindNow {m : EntryModule} {b : TypedBinding}
    (h : m.Beside p b) (hp : Plan.analyze d = .ok p) (spec : LibrarySpec) (loader : Loader Library)
    (r : Registry Library) :
    ∃ kept, m.binding b (fun r => let (library, r) := r.resolve loader spec
        (library.map Library.lookup, r)) none r =
      some ((bindNow d spec loader r).1.map BindingTable.toBound, some kept,
        (bindNow d spec loader r).2.2, ⟨1, (bindNow d spec loader r).2.1⟩) := by
  refine ⟨firstOutcome b ((r.resolve loader spec).1.map Library.lookup),
    (h.binding_first _ r).trans ?_⟩
  rw [bindNow_eq hp]
  rcases r.resolve loader spec with ⟨e | library, r'⟩
  · rfl
  · simp only [Except.map, firstOutcome, firstAsked, Except.bind, h.generated.bind_eq]
    cases (BindingTable.fromPlan p library.lookup).1 <;> rfl

end Dynamic

end ForeignCall
