import ForeignCall.Binding.Run
import ForeignCall.Proofs.Call.Outcome

/-!
# Typed stubs

A stub is straight-line code: it takes the arguments down one by one, takes the entry point from its
field, calls it, and takes the result up. On checked arguments it does what a call through a table
does after the check.

* `runStatements_down`: the statements for the arguments lower them in order, and return at the
  first that cannot be lowered.
* `Stub.run_ofMethod`: the stub of a method ends as the call of the method does, in the same world.
-/

namespace ForeignCall

/-! ## 1. Arguments -/

/-- The step for a type takes an argument of that type down as a call does. -/
theorem DownStep.run_ofType (a : ManagedArg) (f : Frame) :
    (DownStep.ofType a.type).run a f = some (lower a f) := by
  cases a <;> rfl

/-- The check for a type of parameters is the check of a call. -/
theorem Extractor.run_ofType {type : SemanticType} (h : type.isParam = true) (symbol : Text)
    (args : List Value) (position : Nat) :
    (Extractor.ofType type).run symbol args position = extract symbol args position type := by
  cases type with
  | void => cases h
  | int32 => rfl
  | int64 => rfl
  | string => rfl
  | handle => rfl

theorem runExtractors_ofType {types : List SemanticType} (h : ∀ t ∈ types, t.isParam = true)
    (symbol : Text) (args : List Value) (position : Nat) :
    runExtractors symbol args position (types.map Extractor.ofType) =
      extractAll symbol args position types := by
  induction types generalizing position with
  | nil => rfl
  | cons type types ih =>
    obtain ⟨htype, htypes⟩ := List.forall_mem_cons.1 h
    rw [List.map_cons, runExtractors, extractAll, Extractor.run_ofType htype, ih htypes]

theorem lowerAll_length {managed : List ManagedArg} {f frame : Frame} {natives : List NativeValue}
    (h : lowerAll managed f = (.ok natives, frame)) : natives.length = managed.length := by
  induction managed generalizing f natives with
  | nil =>
    cases h
    rfl
  | cons a managed ih =>
    obtain ⟨n, f₁, rest, _, hr, rfl⟩ := lowerAll_cons_eq_ok_iff.1 h
    rw [List.length_cons, List.length_cons, ih hr]

section Statements

variable {σ : Type} (self : Bound) (code : NativeCode σ)

/-- The statements for arguments lower them in order, up to the first that fails. The induction is
on the arguments still to come; those before them stand in the list of arguments too. -/
theorem runStatements_down (earlier managed : List ManagedArg) (rest : List Statement) (l : Locals)
    (f : Frame) (w : World σ) :
    runStatements self (earlier ++ managed) code
        (downStatements earlier.length (managed.map ManagedArg.type) ++ rest)
        { l with frame := some f } w =
      match lowerAll managed f with
      | (.error e, frame) => some (.error e, { w with pool := frame.release })
      | (.ok natives, frame) =>
        runStatements self (earlier ++ managed) code rest
          { l with frame := some frame, lowered := l.lowered ++ natives } w := by
  induction managed generalizing earlier l f with
  | nil => simp [downStatements, lowerAll]
  | cons a managed ih =>
    have hat : (earlier ++ a :: managed)[earlier.length]? = some a := by simp
    rw [List.map_cons, downStatements, List.cons_append, runStatements, lowerAll]
    simp only [hat, Option.bind_eq_bind, Option.bind_some, DownStep.run_ofType]
    -- A failed step returns at once and drops the arena with the buffers made so far.
    rcases lower a f with ⟨e | v, f₁⟩
    · simp [returnError, Locals.poolAfter]
    · have hrest := ih (earlier ++ [a]) { l with lowered := l.lowered ++ [v] } f₁
      rw [List.append_assoc, List.singleton_append, List.length_append,
        List.length_singleton] at hrest
      simp only [hrest]
      rcases lowerAll managed f₁ with ⟨e | vs, f₂⟩ <;> simp [Except.map]

/-! ## 2. Entry point and result -/

/-- The step for a type takes up what is read by the type's layout, to the value of the call. -/
theorem UpStep.run_ofType (symbol : Text) (type : SemanticType) (register : Register)
    (read : Handle → Bytes) :
    ∃ result, (UpStep.ofType type).run (.ofRegister type.layout register) read = some result ∧
      raise symbol type (.ofRegister type.layout register) read = .ok result.toValue := by
  cases type <;> exact ⟨_, rfl, rfl⟩

def Stub.finish (m : MethodPlan) (field : Ident) : List Statement :=
  [.takeEntry field m.symbol, .typeEntry m.params m.ret, .callEntry m.arity, .up (.ofType m.ret),
    .dropArena, .giveValue]

/-- The locals once the arguments are down. -/
def Locals.ready (frame : Frame) (natives : List NativeValue) : Locals :=
  { Locals.none with frame := some frame, lowered := natives }

variable {m : MethodPlan} {field : Ident} {entry : EntryPoint} {frame : Frame}
  {natives : List NativeValue}

theorem runStatements_finish_of_callable_error (args : List ManagedArg) (w : World σ)
    {e : BindError} (hfield : self.entry? field = some entry)
    (he : entry.callable m.symbol = .error e) :
    runStatements self args code (Stub.finish m field) (.ready frame natives) w =
      some (.error e, { w with pool := frame.release }) := by
  simp [Stub.finish, runStatements, hfield, he, returnError, Locals.poolAfter, Locals.ready]

theorem runStatements_finish_of_callable_ok (args : List ManagedArg) (w : World σ)
    {address : UInt64} (hfield : self.entry? field = some entry)
    (he : entry.callable m.symbol = .ok address) (hlength : natives.length = m.arity) :
    ∃ result,
      runStatements self args code (Stub.finish m field) (.ready frame natives) w =
        some (.ok result, ⟨frame.release, (code.run address natives frame w.native).2⟩) ∧
      raise m.symbol m.ret (.ofRegister m.ret.layout (code.run address natives frame w.native).1)
        (code.read frame.arena (code.run address natives frame w.native).2) =
          .ok result.toValue := by
  obtain ⟨result, hup, hraise⟩ := UpStep.run_ofType m.symbol m.ret
    (code.run address natives frame w.native).1
    (code.read frame.arena (code.run address natives frame w.native).2)
  refine ⟨result, ?_, hraise⟩
  have hparams : m.params.length = m.arity := rfl
  simp [Stub.finish, runStatements, hfield, he, hlength, hparams, hup, Locals.ready,
    Locals.poolAfter]

end Statements

/-! ## 3. Stubs -/

/-- What comes out of a stub as a call gives it. -/
def StubResult.outcome {σ : Type} (o : Outcome σ StubResult) : Outcome σ Value :=
  (o.1.map StubResult.toValue, o.2)

/-- A stub lowers its arguments and goes on with what it lowered. -/
theorem Stub.run_eq {σ : Type} (self : Bound) (code : NativeCode σ) {m : MethodPlan}
    (names : MethodNames) {managed : List ManagedArg}
    (htypes : managed.map ManagedArg.type = m.params) (w : World σ) :
    (Stub.ofMethod m names).run self code managed w =
      match lowerAll managed (.start w.pool) with
      | (.error e, frame) => some (.error e, { w with pool := frame.release })
      | (.ok natives, frame) =>
        runStatements self managed code (finish m names.ident) (.ready frame natives) w := by
  have hbody : (Stub.ofMethod m names).body = .openArena ::
      (downStatements 0 (managed.map ManagedArg.type) ++ finish m names.ident) := by
    rw [htypes]
    rfl
  rw [Stub.run, hbody]
  exact runStatements_down self code [] managed (finish m names.ident) .none (.start w.pool) w

/-- On checked arguments the stub of a method ends as the call of the method does. -/
theorem Stub.run_ofMethod {σ : Type} {self : Bound} (code : NativeCode σ) {b : MethodBinding}
    {names : MethodNames} {args : List Value} {managed : List ManagedArg} (w : World σ)
    (hfield : self.entry? names.ident = some b.entry) (hc : b.check args = .ok managed)
    (htypes : managed.map ManagedArg.type = b.plan.params) :
    ((Stub.ofMethod b.plan names).run self code managed w).map StubResult.outcome =
      some (b.invoke code args w) := by
  rw [Stub.run_eq self code names htypes]
  rcases hl : lowerAll managed (.start w.pool) with ⟨e | natives, frame⟩
  · rw [MethodBinding.invoke_of_lowerAll_error hc hl]
    rfl
  · have hlength : natives.length = b.plan.arity := by
      rw [lowerAll_length hl, MethodPlan.arity, ← htypes, List.length_map]
    cases he : b.entry.callable b.plan.symbol with
    | error e =>
      rw [MethodBinding.invoke_of_callable_error hc hl he]
      simp only [runStatements_finish_of_callable_error self code managed w hfield he]
      rfl
    | ok address =>
      obtain ⟨result, hrun, hraise⟩ :=
        runStatements_finish_of_callable_ok self code managed w hfield he hlength
      rw [MethodBinding.invoke_of_run code w hc hl he rfl, hraise]
      simp only [hrun]
      rfl

end ForeignCall
