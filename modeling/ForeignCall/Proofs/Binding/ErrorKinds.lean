import ForeignCall.Proofs.Binding.Entry
import ForeignCall.Proofs.Plan.Walk

/-!
# Two kinds of errors

An error belongs to building a binding or to calling a method, and its constructor tells which. No
step of a build gives an error of a call, and no step of a call gives one of a build; an interface
that keeps the error of its build goes on to show it.

* `planWalk_errors`: a walk over signatures gives errors of a build if its visitor does.
* `MethodBinding.invoke_errors`: a call gives errors of a call.
* `DynamicInterface.KeepsBuild.run`: in a run of a dynamic interface an error belongs to the build
  exactly if the interface has failed.
* `errors_tell_phase` puts these together.
-/

namespace ForeignCall

/-- Every error of the result belongs to building a binding, or every one to calling a method. -/
def ErrorsAre {α : Type} (bindTime : Bool) (r : Except BindError α) : Prop :=
  ∀ e, r = .error e → e.isBindTime = bindTime

/-! ## 1. Steps -/

namespace ErrorsAre

variable {α β : Type} {bindTime : Bool} {r : Except BindError α}

theorem ok (a : α) : ErrorsAre bindTime (.ok a : Except BindError α) := by
  intro e h
  cases h

theorem error {e : BindError} (h : e.isBindTime = bindTime) :
    ErrorsAre bindTime (.error e : Except BindError α) := by
  intro e' he
  cases he
  exact h

theorem map (h : ErrorsAre bindTime r) (f : α → β) : ErrorsAre bindTime (r.map f) :=
  fun e he => h e (map_eq_error_iff.1 he)

theorem bind (h : ErrorsAre bindTime r) {next : α → Except BindError β}
    (hnext : ∀ a, ErrorsAre bindTime (next a)) : ErrorsAre bindTime (r >>= next) := by
  intro e he
  rcases bind_eq_error_iff.1 he with hr | ⟨a, -, ha⟩
  · exact h e hr
  · exact hnext a e ha

theorem orError {e : BindError} (h : e.isBindTime = bindTime) (o : Option α) :
    ErrorsAre bindTime (orError e o) := by
  intro e' he
  obtain ⟨-, rfl⟩ := orError_eq_error_iff.1 he
  exact h

end ErrorsAre

/-! ## 2. Building -/

/-- A walk over signatures gives errors of a build if its visitor does. -/
theorem planWalk_errors {τ : Type} {visit : Visitor τ} (h : ∀ m t, ErrorsAre true (visit m t).1)
    (previous : Option Text) (index : Nat) (signatures : List Signature) (t : τ) :
    ErrorsAre true (planWalk visit previous index signatures t).1 := by
  induction signatures generalizing previous index t with
  | nil => exact .ok []
  | cons s rest ih =>
    cases hm : planMethod previous index s with
    | error e =>
      simp only [planWalk, hm]
      refine .error ?_
      cases planMethod_eq_error_iff.1 hm <;> rfl
    | ok m =>
      rcases hv : visit m t with ⟨e | _, t'⟩ <;> simp only [planWalk, hm, hv]
      · exact .error (h m t e (congrArg Prod.fst hv))
      · exact (ih (some s.name) (index + 1) t').map _

theorem Plan.analyze_errors (d : Description) : ErrorsAre true (analyze d) :=
  (planWalk_errors (fun _ _ => .ok ()) none 0 d.sorted ()).map _

theorem SymbolLookup.resolve_errors (l : SymbolLookup) (symbol : Text) :
    ErrorsAre true (l.resolve symbol) :=
  .orError rfl _

namespace BindingTable

theorem build_errors (d : Description) (lookup : SymbolLookup) :
    ErrorsAre true (build d lookup).1 := by
  refine (ErrorsAre.map (planWalk_errors (fun m progress => ?_) none 0 d.sorted _) _).map _
  rw [bindMethod]
  cases h : lookup.resolve m.symbol with
  | error e => exact .error (lookup.resolve_errors m.symbol e h)
  | ok entry => exact .ok ()

theorem fromPlan_errors (p : Plan) (lookup : SymbolLookup) :
    ErrorsAre true (fromPlan p lookup).1 := by
  refine ErrorsAre.map (fun e h => ?_) _
  obtain ⟨symbol, _, rfl⟩ := resolveAll_eq_error_iff.1 h
  rfl

end BindingTable

theorem Registry.resolve_errors {L : Type} (r : Registry L) (loader : Loader L)
    (spec : LibrarySpec) : ErrorsAre true (r.resolve loader spec).1 := by
  intro e h
  obtain ⟨library, reason, rfl⟩ := libraryNotFound_of_resolve h
  rfl

theorem bindLibrary_errors (d : Description) (spec : LibrarySpec) (r : Registry Library)
    (loader : Loader Library) : ErrorsAre true (bindLibrary d spec r loader).1 :=
  (r.resolve_errors loader spec).map _

theorem resolveFields_errors (lookup : SymbolLookup) (fields : List (Ident × Text)) :
    ErrorsAre true (resolveFields lookup fields).1 := by
  induction fields with
  | nil => exact .ok []
  | cons field rest ih =>
    rw [resolveFields]
    cases h : lookup.resolve field.2 with
    | error e => exact .error (lookup.resolve_errors field.2 e h)
    | ok entry => exact ih.map _

theorem TypedBinding.bind_errors (b : TypedBinding) (lookup : SymbolLookup) :
    ErrorsAre true (b.bind lookup).1 :=
  (resolveFields_errors lookup b.resolutions).map _

/-! ## 3. Calling -/

section Arguments

variable (symbol : Text) (args : List Value) (position : Nat)

theorem argAt_errors : ErrorsAre false (argAt symbol args position) := .orError rfl _

theorem extract_errors (type : SemanticType) :
    ErrorsAre false (extract symbol args position type) := by
  have harg := argAt_errors symbol args position
  cases type with
  | int32 => exact (harg.bind fun v => .orError (by rfl) v.int32?).map _
  | int64 => exact (harg.bind fun v => .orError (by rfl) v.int64?).map _
  | string =>
    refine (harg.bind fun v => ?_).map _
    cases v <;> first | exact .ok _ | exact .error rfl
  | handle =>
    refine (harg.bind fun v => ?_).map _
    cases v <;> first | exact .ok _ | exact .error rfl
  | void => exact harg.bind fun v => .error rfl

theorem extractAll_errors (types : List SemanticType) :
    ErrorsAre false (extractAll symbol args position types) := by
  induction types generalizing position with
  | nil => exact .ok []
  | cons type rest ih =>
    exact (extract_errors symbol args position type).bind fun a =>
      (ih (position + 1)).bind fun more => .ok _

end Arguments

theorem lower_errors (a : ManagedArg) (f : Frame) : ErrorsAre false (lower a f).1 := by
  cases a with
  | int32 v => exact .ok _
  | int64 v => exact .ok _
  | handle h => exact .ok _
  | string t =>
    cases t with
    | none => exact .ok _
    | some t =>
      rw [lower, downString, Frame.allocate]
      cases (Utf8.encode t).findIdx? (· == 0) with
      | some offset => exact .error rfl
      | none => exact .ok _

theorem lowerAll_errors (managed : List ManagedArg) (f : Frame) :
    ErrorsAre false (lowerAll managed f).1 := by
  induction managed generalizing f with
  | nil => exact .ok []
  | cons a rest ih =>
    rw [lowerAll]
    rcases hl : lower a f with ⟨e | v, f'⟩
    · exact .error (lower_errors a f e (congrArg Prod.fst hl))
    · exact (ih f').map _

theorem EntryPoint.callable_errors (e : EntryPoint) (symbol : Text) :
    ErrorsAre false (e.callable symbol) := by
  rw [callable]
  split
  · exact .error rfl
  · exact .ok _

section Calls

variable {σ : Type} (code : NativeCode σ)

theorem MethodBinding.check_errors (b : MethodBinding) (args : List Value) :
    ErrorsAre false (b.check args) := by
  refine ErrorsAre.bind ?_ fun _ => extractAll_errors _ args 0 _
  rw [checkArity]
  split
  · exact .ok _
  · exact .error rfl

/-- A call gives errors of a call. -/
theorem MethodBinding.invoke_errors (b : MethodBinding) (args : List Value) (w : World σ) :
    ErrorsAre false (b.invoke code args w).1 := by
  cases hc : b.check args with
  | error e =>
    rw [invoke_of_check_error hc]
    exact .error (b.check_errors args e hc)
  | ok managed =>
    rcases hl : lowerAll managed (.start w.pool) with ⟨e | natives, frame⟩
    · rw [invoke_of_lowerAll_error hc hl]
      exact .error (lowerAll_errors managed _ e (congrArg Prod.fst hl))
    cases he : b.entry.callable b.plan.symbol with
    | error e =>
      rw [invoke_of_callable_error hc hl he]
      exact .error (b.entry.callable_errors _ e he)
    | ok address =>
      obtain ⟨value, hv⟩ := raise_ofRegister b.plan.symbol b.plan.ret
        (code.run address natives frame w.native).1
        (code.read frame.arena (code.run address natives frame w.native).2)
      rw [invoke_of_run code w hc hl he rfl, hv]
      exact .ok value

/-- Every error of the reply is of this kind. -/
def Reply.ErrorsAre (bindTime : Bool) : Reply → Prop
  | .id result => ForeignCall.ErrorsAre bindTime result
  | .value result => ForeignCall.ErrorsAre bindTime result

theorem BindingTable.invoke_errors (t : BindingTable) (id : MethodId) (args : List Value)
    (w : World σ) : ErrorsAre false (t.invoke code id args w).1 := by
  rw [invoke]
  cases t.method? id with
  | none => exact .error rfl
  | some b => exact b.invoke_errors code args w

theorem BindingTable.answer_errors (t : BindingTable) (w : World σ) (operation : Operation) :
    (t.answer code w operation).1.ErrorsAre false := by
  cases operation with
  | methodId name => exact ErrorsAre.orError rfl _
  | call id args => exact t.invoke_errors code id args w
  | callByName name args =>
    rw [answer]
    cases t.methodId? name with
    | none => exact ErrorsAre.error rfl
    | some id => exact t.invoke_errors code id args w

/-- Each use of an emitted binding comes out, with no errors but those of calls. -/
structure TypedBinding.AnswersCalls (b : TypedBinding) (self : Bound) (w : World σ) : Prop where
  operation : ∀ o, ∃ reply w', b.answer self code w o = some (reply, w') ∧ reply.ErrorsAre false
  stub : ∀ ident stub args, b.stub? ident = some stub →
    args.map ManagedArg.type = stub.params →
    ∃ result w', stub.run self code args w = some (result, w') ∧ ErrorsAre false result

/-- An emitted binding answers as the table of the plan does. -/
theorem TypedBinding.answersCalls {d : Description} {lookup : SymbolLookup} {p : Plan}
    {b : TypedBinding} {self : Bound} (hp : Plan.analyze d = .ok p) (hb : typedBinding p = .ok b)
    (hself : (b.bind lookup).1 = .ok self) (w : World σ) : b.AnswersCalls code self w := by
  have hgen := generated_of_typedBinding (Plan.analyze_wellFormed hp) hb
  rw [hgen.bind_eq] at hself
  cases hplan : (BindingTable.fromPlan p lookup).1 with
  | error e =>
    rw [hplan] at hself
    cases hself
  | ok t =>
    rw [hplan] at hself
    cases hself
    have ht := BindingTable.plans_of_fromPlan hplan
    refine ⟨fun o => ⟨_, _, hgen.answer_eq ht code w o, t.answer_errors code w o⟩,
      fun ident stub args hstub htypes => ?_⟩
    obtain ⟨m, _, _, hrun⟩ := Client.exists_invoke_of_stub? hgen ht hstub htypes
    obtain ⟨⟨result, w'⟩, hresult, hinvoke⟩ := hrun code w
    refine ⟨result, w', hresult, fun e he => m.invoke_errors code _ w e (?_ : (m.invoke code
      (args.map ManagedArg.value) w).1 = .error e)⟩
    rw [← hinvoke, he]
    rfl

end Calls

/-! ## 4. Runs of a dynamic interface -/

section Runs

variable {σ : Type} {code : NativeCode σ}

/-- The caller gets this error. -/
def Seen.Shows (e : BindError) : Seen → Prop
  | .reply (.id result) => result = .error e
  | .reply (.value result) => result = .error e
  | .bound result => result = .error e
  | .table _ => False
  | .debug _ => False

theorem Seen.Shows.isBindTime_eq {e : BindError} {reply : Reply} {bindTime : Bool}
    (he : (Seen.reply reply).Shows e) (h : reply.ErrorsAre bindTime) : e.isBindTime = bindTime := by
  cases reply with
  | id result => exact h e he
  | value result => exact h e he

/-- An error that the caller gets belongs to the build exactly if the interface has failed. -/
def Event.TellsPhase (event : Event σ) : Prop :=
  ∀ e, event.seen.Shows e → (e.isBindTime = true ↔ event.interface.state = "failed")

namespace DynamicInterface

variable {i : DynamicInterface} {outcome : Except BindError BindingTable}

/-- If the interface is built, the errors of the build belong to a build. -/
def KeepsBuild (i : DynamicInterface) : Prop :=
  ∀ outcome, i.memo = some outcome → ErrorsAre true outcome

theorem keepsBuild_built (i : DynamicInterface) (h : ErrorsAre true outcome) :
    (i.built outcome).KeepsBuild := by
  intro outcome' h'
  cases h'
  exact h

theorem KeepsBuild.exists_ensureBound_eq (h : i.KeepsBuild) (lookup : SymbolLookup) :
    ∃ outcome asked, ErrorsAre true outcome ∧
      i.ensureBound lookup = ⟨outcome, i.built outcome, asked⟩ := by
  cases hmemo : i.memo with
  | none =>
    exact ⟨_, _, BindingTable.build_errors _ lookup, ensureBound_of_new hmemo lookup⟩
  | some outcome =>
    have hi : i = i.built outcome := by rw [built, ← hmemo]
    refine ⟨outcome, [], h outcome hmemo, ?_⟩
    rw [hi]
    exact ensureBound_built _ outcome lookup

/-- What needs a table shows the error of the build if there is none, and else errors of calls. -/
theorem settled_tellsPhase (i : DynamicInterface) (h : ErrorsAre true outcome) (w : World σ)
    (n : Need) : (i.settled outcome code w (.need n)).TellsPhase := by
  intro e he
  rw [settled_interface, state_built]
  cases outcome with
  | error e' =>
    have hshown : e = e' := by
      rcases n with (_ | _ | _) | _ <;> exact (Except.error.inj he).symm
    rw [hshown]
    exact iff_of_true (h e' rfl) rfl
  | ok t =>
    have hcall : e.isBindTime = false := by
      cases n with
      | ensureBound => cases he
      | operation o => exact he.isBindTime_eq (t.answer_errors code w o)
    have hbound : ("bound" : Text) ≠ "failed" := by decide
    rw [hcall]
    exact iff_of_false Bool.false_ne_true hbound

/-- A use tells the two kinds of errors apart, and keeps what the build came to. -/
theorem KeepsBuild.use (h : i.KeepsBuild) (lookup : SymbolLookup) (w : World σ) (use : Use) :
    (i.use lookup code w use).interface.KeepsBuild ∧ (i.use lookup code w use).TellsPhase := by
  cases use with
  | look l =>
    refine ⟨h, fun e he => ?_⟩
    cases l <;> cases he
  | need n =>
    obtain ⟨outcome, asked, houtcome, hbound⟩ := h.exists_ensureBound_eq lookup
    rw [use_need_eq hbound]
    exact ⟨i.keepsBuild_built houtcome, i.settled_tellsPhase houtcome w n⟩

/-- In every run of a dynamic interface an error belongs to the build exactly if the interface has
failed. -/
theorem KeepsBuild.run (h : i.KeepsBuild) (steps : List (SymbolLookup × Use)) (w : World σ) :
    ∀ event ∈ i.run code steps w, event.TellsPhase := by
  induction steps generalizing i w with
  | nil => exact fun event hevent => absurd hevent List.not_mem_nil
  | cons step rest ih =>
    obtain ⟨lookup, use⟩ := step
    obtain ⟨hkeeps, htells⟩ := h.use lookup w use
    exact List.forall_mem_cons.2 ⟨htells, ih hkeeps _⟩

theorem keepsBuild_bind (d : Description) (lookup : SymbolLookup) : (bind d lookup).KeepsBuild := by
  intro outcome h
  cases h

end DynamicInterface
end Runs

/-! ## 5. Both kinds -/

/-- Whatever is planned, opened or bound, every error belongs to a build; whatever is called through
a table or an emitted binding, every error belongs to a call. So every error that a dynamic
interface gives in a run, with a lookup that may change all the time, tells whether the interface
has failed. -/
theorem errors_tell_phase {σ : Type} (d : Description) (lookup : SymbolLookup)
    (code : NativeCode σ) (w : World σ) :
    (ErrorsAre true (Plan.analyze d) ∧ ErrorsAre true (BindingTable.build d lookup).1 ∧
      (∀ p, ErrorsAre true (BindingTable.fromPlan p lookup).1) ∧
      (∀ {L : Type} (r : Registry L) loader spec, ErrorsAre true (r.resolve loader spec).1) ∧
      (∀ spec r loader, ErrorsAre true (bindLibrary d spec r loader).1) ∧
      ∀ b : TypedBinding, ErrorsAre true (b.bind lookup).1) ∧
    ((∀ (b : MethodBinding) args, ErrorsAre false (b.invoke code args w).1) ∧
      (∀ (t : BindingTable) o, (t.answer code w o).1.ErrorsAre false) ∧
      ∀ p b self, Plan.analyze d = .ok p → typedBinding p = .ok b →
        (b.bind lookup).1 = .ok self → b.AnswersCalls code self w) ∧
    ∀ steps, ∀ event ∈ (DynamicInterface.bind d lookup).run code steps w, event.TellsPhase :=
  ⟨⟨Plan.analyze_errors d, BindingTable.build_errors d lookup,
      fun p => BindingTable.fromPlan_errors p lookup, fun r => r.resolve_errors,
      bindLibrary_errors d, fun b => b.bind_errors lookup⟩,
    ⟨fun b args => b.invoke_errors code args w, fun t o => t.answer_errors code w o,
      fun _ _ _ hp hb hself => TypedBinding.answersCalls code hp hb hself w⟩,
    fun steps => (DynamicInterface.keepsBuild_bind d lookup).run steps w⟩

end ForeignCall
