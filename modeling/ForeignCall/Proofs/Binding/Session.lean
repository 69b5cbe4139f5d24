import ForeignCall.Dynamic
import ForeignCall.Proofs.Binding.Dispatch
import ForeignCall.Proofs.Table.Build
import ForeignCall.Sample.Interfaces

/-!
# Sessions

A caller asks a native interface one thing after another. A dynamic interface and the generated
binding of the same description cannot be told apart by what they answer, by the native functions
they run, or by the state they leave.

* `DynamicInterface.session_eq` and `Generated.session_eq`: both answer as the table of the plan.
* `BindingTable.session_recorded`: keeping a list of native calls changes no answer.
* `interchangeable_of_generated`: the two are bound alike and answer alike over every session.
-/

namespace ForeignCall

/-! ## 1. Requests and answers -/

/-- What a caller asks of a native interface. -/
inductive Operation where
  | methodId (name : Text)
  | call (id : MethodId) (args : List Value)
  | callByName (name : Text) (args : List Value)

/-- What the caller gets. -/
inductive Reply where
  | id (result : Except BindError MethodId)
  | value (result : Except BindError Value)

section Answers

variable {σ : Type}

def BindingTable.answer (t : BindingTable) (code : NativeCode σ) (w : World σ) :
    Operation → Reply × World σ
  | .methodId name => (.id (orError (.unknownMethod name) (t.methodId? name)), w)
  | .call id args =>
    let (result, w) := t.invoke code id args w
    (.value result, w)
  | .callByName name args =>
    match t.methodId? name with
    | none => (.value (.error (.unknownMethod name)), w)
    | some id =>
      let (result, w) := t.invoke code id args w
      (.value result, w)

def DynamicInterface.answer (i : DynamicInterface) (lookup : SymbolLookup) (code : NativeCode σ)
    (w : World σ) : Operation → Reply × DynamicInterface × World σ
  | .methodId name =>
    let a := i.methodId lookup name
    (.id a.result, a.interface, w)
  | .call id args =>
    let (a, w) := i.call lookup code id args w
    (.value a.result, a.interface, w)
  | .callByName name args =>
    let (a, w) := i.callByName lookup code name args w
    (.value a.result, a.interface, w)

def TypedBinding.answer (b : TypedBinding) (self : Bound) (code : NativeCode σ) (w : World σ) :
    Operation → Option (Reply × World σ)
  | .methodId name => (b.methodId name).map fun result => (.id result, w)
  | .call id args => (b.call self code id args w).map fun (result, w) => (.value result, w)
  | .callByName name args =>
    (b.callByName self code name args w).map fun (result, w) => (.value result, w)

def BindingTable.session (t : BindingTable) (code : NativeCode σ) :
    List Operation → World σ → List Reply × World σ
  | [], w => ([], w)
  | operation :: rest, w =>
    let (reply, w) := t.answer code w operation
    let (replies, w) := t.session code rest w
    (reply :: replies, w)

def DynamicInterface.session (i : DynamicInterface) (lookup : SymbolLookup) (code : NativeCode σ) :
    List Operation → World σ → List Reply × World σ
  | [], w => ([], w)
  | operation :: rest, w =>
    let (reply, i, w) := i.answer lookup code w operation
    let (replies, w) := i.session lookup code rest w
    (reply :: replies, w)

def TypedBinding.session (b : TypedBinding) (self : Bound) (code : NativeCode σ) :
    List Operation → World σ → Option (List Reply × World σ)
  | [], w => some ([], w)
  | operation :: rest, w => do
    let (reply, w) ← b.answer self code w operation
    let (replies, w) ← b.session self code rest w
    return (reply :: replies, w)

end Answers

/-! ## 2. Dynamic interfaces -/

namespace DynamicInterface

variable {σ : Type} {i : DynamicInterface} {lookup : SymbolLookup} {t : BindingTable}

/-- Once an interface is bound, it stays bound. -/
theorem ensureBound_again (i : DynamicInterface) (lookup : SymbolLookup) :
    ((i.ensureBound lookup).interface.ensureBound lookup).result =
      (i.ensureBound lookup).result := by
  cases h : i.memo with
  | none => simp [ensureBound, h]
  | some outcome => simp [ensureBound, h]

/-- An interface that can be bound answers as its table, and can be bound afterwards. -/
theorem answer_eq (hbound : (i.ensureBound lookup).result = .ok t) (code : NativeCode σ)
    (w : World σ) (operation : Operation) :
    ∃ j, i.answer lookup code w operation =
        ((t.answer code w operation).1, j, (t.answer code w operation).2) ∧
      (j.ensureBound lookup).result = .ok t := by
  have hagain : ((i.ensureBound lookup).interface.ensureBound lookup).result = .ok t := by
    rw [ensureBound_again, hbound]
  cases operation with
  | methodId name =>
    refine ⟨_, ?_, hagain⟩
    simp [answer, methodId, BindingTable.answer, hbound, Except.bind]
  | call id args =>
    refine ⟨_, ?_, hagain⟩
    simp [answer, call, BindingTable.answer, hbound]
  | callByName name args =>
    cases hname : t.methodId? name with
    | none =>
      refine ⟨_, ?_, hagain⟩
      simp [answer, callByName, methodId, BindingTable.answer, hbound, hname, Except.bind, orError]
    | some id =>
      -- Finding the number binds the interface, so the call after it finds it bound.
      refine ⟨((i.ensureBound lookup).interface.ensureBound lookup).interface, ?_, ?_⟩
      · simp [answer, callByName, methodId, call, BindingTable.answer, hbound, hagain, hname,
          Except.bind, orError]
      · rw [ensureBound_again, hagain]

theorem session_eq (hbound : (i.ensureBound lookup).result = .ok t) (code : NativeCode σ)
    (operations : List Operation) (w : World σ) :
    i.session lookup code operations w = t.session code operations w := by
  induction operations generalizing i w with
  | nil => rfl
  | cons operation rest ih =>
    obtain ⟨j, hanswer, hj⟩ := answer_eq hbound code w operation
    rw [session, hanswer, BindingTable.session]
    simp only [ih hj]

end DynamicInterface

/-! ## 3. Generated bindings -/

namespace Generated

variable {σ : Type} {p : Plan} {b : TypedBinding} {t : BindingTable}

/-- A generated binding answers as the table of its plan. -/
theorem answer_eq (h : Generated p b) (ht : t.methods.map MethodBinding.plan = p.methods)
    (code : NativeCode σ) (w : World σ) (operation : Operation) :
    b.answer t.toBound code w operation = some (t.answer code w operation) := by
  cases operation with
  | methodId name =>
    rw [TypedBinding.answer, h.methodId_eq ht, BindingTable.answer, Option.map_some]
  | call id args => rw [TypedBinding.answer, h.call_eq ht, BindingTable.answer, Option.map_some]
  | callByName name args =>
    rw [TypedBinding.answer, h.callByName_eq ht, BindingTable.answer, Option.map_some]
    cases t.methodId? name <;> rfl

theorem session_eq (h : Generated p b) (ht : t.methods.map MethodBinding.plan = p.methods)
    (code : NativeCode σ) (operations : List Operation) (w : World σ) :
    b.session t.toBound code operations w = some (t.session code operations w) := by
  induction operations generalizing w with
  | nil => rfl
  | cons operation rest ih =>
    rw [TypedBinding.session, h.answer_eq ht, BindingTable.session]
    simp only [Option.bind_eq_bind, Option.bind_some, ih]
    rfl

end Generated

/-! ## 4. Recorded sessions -/

/-- The world in which native calls are recorded, with none so far. -/
def World.recording {σ : Type} (w : World σ) : World (σ × List NativeCall) :=
  ⟨w.pool, (w.native, [])⟩

/-- The world without the record. -/
def World.forget {σ : Type} (w : World (σ × List NativeCall)) : World σ := ⟨w.pool, w.native.1⟩

section Recorded

variable {σ : Type}

/-- Recording does not change a call. -/
theorem MethodBinding.invoke_recorded (b : MethodBinding) (code : NativeCode σ)
    (args : List Value) (w : World (σ × List NativeCall)) :
    b.invoke code args w.forget =
      ((b.invoke code.recorded args w).1, (b.invoke code.recorded args w).2.forget) := by
  cases hc : b.check args with
  | error e => rw [invoke_of_check_error hc, invoke_of_check_error hc]
  | ok managed =>
    rcases hl : lowerAll managed (.start w.pool) with ⟨e | natives, frame⟩
    · rw [invoke_of_lowerAll_error hc hl, invoke_of_lowerAll_error (w := w.forget) hc hl]
      rfl
    · cases he : b.entry.callable b.plan.symbol with
      | error e =>
        rw [invoke_of_callable_error hc hl he, invoke_of_callable_error (w := w.forget) hc hl he]
        rfl
      | ok address =>
        rw [invoke_of_run code.recorded w hc hl he rfl, invoke_of_run code w.forget hc hl he rfl]
        rfl

theorem BindingTable.answer_recorded (t : BindingTable) (code : NativeCode σ)
    (w : World (σ × List NativeCall)) (operation : Operation) :
    t.answer code w.forget operation =
      ((t.answer code.recorded w operation).1, (t.answer code.recorded w operation).2.forget) := by
  have hinvoke : ∀ id args, t.invoke code id args w.forget =
      ((t.invoke code.recorded id args w).1, (t.invoke code.recorded id args w).2.forget) := by
    intro id args
    rw [invoke, invoke]
    cases t.method? id with
    | none => rfl
    | some m => exact m.invoke_recorded code args w
  cases operation with
  | methodId name => rfl
  | call id args => simp only [answer, hinvoke]
  | callByName name args =>
    simp only [answer]
    cases t.methodId? name with
    | none => rfl
    | some id => simp only [hinvoke]

/-- Recording does not change a session. -/
theorem BindingTable.session_recorded (t : BindingTable) (code : NativeCode σ)
    (operations : List Operation) (w : World (σ × List NativeCall)) :
    t.session code operations w.forget =
      ((t.session code.recorded operations w).1,
        (t.session code.recorded operations w).2.forget) := by
  induction operations generalizing w with
  | nil => rfl
  | cons operation rest ih => simp only [session, answer_recorded, ih]

end Recorded

/-! ## 5. Generated and dynamic -/

theorem planFor_eq_ok_iff {d : Description} {p : Plan} :
    planFor d = .ok p ↔ Plan.analyze d = .ok p := mapError_eq_ok_iff

/-- A source file is the text of a binding of a plan. -/
theorem generate_eq_ok_iff {d : Description} {text : Text} :
    generate d = .ok text ↔
    ∃ p b, Plan.analyze d = .ok p ∧ typedBinding p = .ok b ∧
      text = renderFile p.interface b.items := by
  simp only [generate, planFor_eq_ok_iff, bind_eq_ok_iff, pure_eq_ok_iff, exists_and_left,
    eq_comm (a := text)]

/-- The generated binding `b` and the dynamic interface of `d` cannot be told apart over `lookup`:
they are bound alike, and answer every session alike. `replies` and `w'` come from a session in
which native calls are recorded, so the native functions that run, their arguments and their order
are the same too, and so is the state they leave. -/
structure Interchangeable (d : Description) (b : TypedBinding) (lookup : SymbolLookup) : Prop where
  asked : (b.bind lookup).2 = (BindingTable.build d lookup).2
  error_iff : ∀ e, (b.bind lookup).1 = .error e ↔ (BindingTable.build d lookup).1 = .error e
  session : ∀ self, (b.bind lookup).1 = .ok self →
    ∀ {σ : Type} (code : NativeCode σ) (operations : List Operation) (w : World σ),
      ∃ replies w',
        b.session self code.recorded operations w.recording = some (replies, w') ∧
        (DynamicInterface.bind d lookup).session lookup code.recorded operations w.recording =
          (replies, w') ∧
        b.session self code operations w = some (replies, w'.forget) ∧
        (DynamicInterface.bind d lookup).session lookup code operations w = (replies, w'.forget)

theorem interchangeable_of_generated {d : Description} {p : Plan} {b : TypedBinding}
    (hp : Plan.analyze d = .ok p) (h : Generated p b) (lookup : SymbolLookup) :
    Interchangeable d b lookup := by
  -- Both come down to the table of the plan, which is the middle of every equation here.
  have hbuild := BindingTable.build_eq_fromPlan hp lookup
  have hbind := h.bind_eq lookup
  refine ⟨by rw [hbind, hbuild], ?_, ?_⟩
  · intro e
    rw [hbind, hbuild]
    exact map_eq_error_iff
  · intro self hself σ code operations w
    cases ht : (BindingTable.fromPlan p lookup).1 with
    | error e =>
      rw [hbind, ht] at hself
      cases hself
    | ok t =>
      rw [hbind, ht] at hself
      cases hself
      have hplans := BindingTable.plans_of_fromPlan ht
      have hbound : ((DynamicInterface.bind d lookup).ensureBound lookup).result = .ok t := by
        rw [← ht, ← hbuild]
        rfl
      refine ⟨(t.session code.recorded operations w.recording).1,
        (t.session code.recorded operations w.recording).2, ?_, ?_, ?_, ?_⟩
      · exact h.session_eq hplans code.recorded operations w.recording
      · exact DynamicInterface.session_eq hbound code.recorded operations w.recording
      · rw [h.session_eq hplans]
        exact congrArg some (t.session_recorded code operations w.recording)
      · rw [DynamicInterface.session_eq hbound]
        exact t.session_recorded code operations w.recording

/-- The plan of the sample interface whose names are in order. -/
def upperPlan : Plan where
  interface := "Upper"
  methods := [
    ⟨⟨0⟩, "ABC", [], .int32⟩,
    ⟨⟨1⟩, "X", [.int32], .int32⟩,
    ⟨⟨2⟩, "abcDef", [], .int32⟩]

theorem analyze_upper : Plan.analyze Sample.upper = .ok upperPlan := by
  have hsorted : Sample.upper.sorted = Sample.upper.signatures :=
    List.mergeSort_of_pairwise (by decide)
  rw [Plan.analyze_eq_ok_iff, hsorted]
  decide

theorem typeIdent_upper : typeIdent upperPlan.interface = .ok ⟨"Upper", false⟩ :=
  typeIdent_of_capital (by decide) (by decide_cbv) (by decide)

theorem exists_methodNames_upper : ∃ names, methodNames upperPlan.symbols = .ok names :=
  ⟨_, methodNames_eq_ok_iff.2 ⟨rfl, by decide, by decide, by decide⟩⟩

theorem generate_upper : ∃ text, generate Sample.upper = .ok text := by
  obtain ⟨names, hnames⟩ := exists_methodNames_upper
  have hb := typedBinding_eq_ok_iff.2 ⟨_, names, typeIdent_upper, hnames, rfl⟩
  exact ⟨_, generate_eq_ok_iff.2 ⟨upperPlan, _, analyze_upper, hb, rfl⟩⟩

end ForeignCall
