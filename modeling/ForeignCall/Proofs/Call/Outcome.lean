import ForeignCall.Proofs.Call.Arguments
import ForeignCall.Table

/-!
# The outcome of a call

A call has one of five outcomes, decided in a fixed order: the number of arguments, the kind of each
from the left, zero bytes in texts from the left, the entry point, and last the native function.

* `MethodBinding.invoke_outcome`: every call ends in one of them, on the first of the four faults or
  on the native function, which runs once if there is no fault and else not at all.
* `raise_ofRegister`: a register read by the layout of a type is a result of that type, so nothing
  fails once native code has run.
-/

namespace ForeignCall

/-! ## 1. Recorded calls -/

/-- A run of a native function: its address, its arguments and the buffers it could read. -/
structure NativeCall where
  address : UInt64
  args : List NativeValue
  frame : Frame

/-- Native code that keeps a list of its runs, oldest first, beside its own state. -/
def NativeCode.recorded {σ : Type} (code : NativeCode σ) : NativeCode (σ × List NativeCall) where
  run address args frame s :=
    let (register, native) := code.run address args frame s.1
    (register, (native, s.2 ++ [⟨address, args, frame⟩]))
  bytesAt s := code.bytesAt s.1

/-! ## 2. Outcomes -/

/-- What the caller gets from a call of `b`, the native state after it, and the runs of native
functions it made. -/
inductive CallOutcome {σ : Type} (b : MethodBinding) (code : NativeCode σ) (args : List Value)
    (s : σ) : Except BindError Value → σ → List NativeCall → Prop
  /-- There are too few or too many arguments. -/
  | arity : args.length ≠ b.plan.arity →
      CallOutcome b code args s
        (.error (.arityMismatch b.plan.symbol b.plan.arity args.length)) s []
  /-- An argument does not fit, and is the first. -/
  | misfit {position : Nat} {type : SemanticType} {value : Value} :
      args.length = b.plan.arity →
      FirstMisfit b.plan.params args position type value →
      CallOutcome b code args s
        (.error (.argumentMismatch b.plan.symbol position type value.kind)) s []
  /-- All arguments fit, but a text has a zero byte, and is the first. -/
  | nul {t : Text} {offset : Nat} :
      Fits b.plan.params args → FirstNul args t offset →
      CallOutcome b code args s (.error (.interiorNul offset)) s []
  /-- All arguments can be passed, but there is no function. -/
  | nullEntry :
      Fits b.plan.params args → NulFree args → b.entry.isNull = true →
      CallOutcome b code args s
        (.error (.nativeCallFailed b.plan.symbol "entry point resolved to a null address")) s []
  /-- The function runs on the lowered arguments, and its result is raised. -/
  | done {natives : List NativeValue} {frame : Frame} {register : Register} {native : σ}
      {value : Value} :
      Fits b.plan.params args → NulFree args → b.entry.isNull = false →
      List.Forall₂ (Lowered frame.arena) args natives →
      code.run b.entry.address natives frame s = (register, native) →
      raise b.plan.symbol b.plan.ret (.ofRegister b.plan.ret.layout register)
        (code.read frame.arena native) = .ok value →
      CallOutcome b code args s (.ok value) native [⟨b.entry.address, natives, frame⟩]

/-- A call has no error exactly if a native function ran. -/
theorem CallOutcome.error_iff {σ : Type} {b : MethodBinding} {code : NativeCode σ}
    {args : List Value} {s native : σ} {result : Except BindError Value} {calls : List NativeCall}
    (h : CallOutcome b code args s result native calls) :
    (∃ e, result = .error e) ↔ calls = [] := by
  cases h <;> simp

/-- A register read by the layout of a type is a result of the type. -/
theorem raise_ofRegister (symbol : Text) (type : SemanticType) (register : Register)
    (read : Handle → Bytes) :
    ∃ value, raise symbol type (.ofRegister type.layout register) read = .ok value := by
  cases type <;> exact ⟨_, rfl⟩

namespace EntryPoint

variable {entry : EntryPoint} (symbol : Text)

theorem callable_of_isNull (h : entry.isNull = true) :
    entry.callable symbol =
      .error (.nativeCallFailed symbol "entry point resolved to a null address") := by
  rw [callable, if_pos h]

theorem callable_of_not_isNull (h : entry.isNull = false) :
    entry.callable symbol = .ok entry.address := by
  rw [callable, h, if_neg Bool.false_ne_true]

end EntryPoint

namespace MethodBinding

variable {b : MethodBinding} {args : List Value}

theorem check_of_length_ne (h : args.length ≠ b.plan.arity) :
    b.check args = .error (.arityMismatch b.plan.symbol b.plan.arity args.length) := by
  rw [check, checkArity, if_neg h]
  rfl

theorem check_of_length_eq (h : args.length = b.plan.arity) :
    b.check args = extractAll b.plan.symbol args 0 b.plan.params := by
  rw [check, checkArity, if_pos h]
  rfl

/-- Arguments that fit pass the check with their values. -/
theorem check_of_fits (h : Fits b.plan.params args) :
    ∃ managed, b.check args = .ok managed ∧ managed.map ManagedArg.value = args ∧
      managed.map ManagedArg.type = b.plan.params := by
  rw [check_of_length_eq h.length_eq.symm]
  exact extractAll_of_fits b.plan.symbol [] h

theorem check_of_firstMisfit {position : Nat} {type : SemanticType} {value : Value}
    (hlength : args.length = b.plan.arity)
    (h : FirstMisfit b.plan.params args position type value) :
    b.check args = .error (.argumentMismatch b.plan.symbol position type value.kind) := by
  rw [check_of_length_eq hlength]
  simpa using extractAll_of_firstMisfit b.plan.symbol [] h

/-- What passes the check has the types of the parameters. -/
theorem types_of_check {managed : List ManagedArg} (h : b.check args = .ok managed) :
    managed.map ManagedArg.type = b.plan.params := by
  by_cases hlength : args.length = b.plan.arity
  case neg =>
    rw [check_of_length_ne hlength] at h
    cases h
  rcases fits_or_firstMisfit hlength with hfits | ⟨position, type, value, hmisfit⟩
  · obtain ⟨managed', hc, _, htypes⟩ := check_of_fits hfits
    rw [hc, Except.ok.injEq] at h
    exact h ▸ htypes
  · rw [check_of_firstMisfit hlength hmisfit] at h
    cases h

section Invoke

variable {σ : Type} {code : NativeCode σ} {w : World σ} {e : BindError}
  {managed : List ManagedArg} {natives : List NativeValue} {frame : Frame}

theorem invoke_of_check_error (h : b.check args = .error e) :
    b.invoke code args w = (.error e, w) := by
  simp only [invoke, h]

theorem invoke_of_lowerAll_error (hc : b.check args = .ok managed)
    (hl : lowerAll managed (.start w.pool) = (.error e, frame)) :
    b.invoke code args w = (.error e, { w with pool := frame.release }) := by
  simp only [invoke, hc, hl]

theorem invoke_of_callable_error (hc : b.check args = .ok managed)
    (hl : lowerAll managed (.start w.pool) = (.ok natives, frame))
    (he : b.entry.callable b.plan.symbol = .error e) :
    b.invoke code args w = (.error e, { w with pool := frame.release }) := by
  simp only [invoke, hc, hl, he]

theorem invoke_of_run (code : NativeCode σ) (w : World σ) {address : UInt64}
    {register : Register} {native : σ} (hc : b.check args = .ok managed)
    (hl : lowerAll managed (.start w.pool) = (.ok natives, frame))
    (he : b.entry.callable b.plan.symbol = .ok address)
    (hr : code.run address natives frame w.native = (register, native)) :
    b.invoke code args w =
      (raise b.plan.symbol b.plan.ret (.ofRegister b.plan.ret.layout register)
        (code.read frame.arena native), ⟨frame.release, native⟩) := by
  simp only [invoke, hc, hl, he, hr]

end Invoke

/-- Every call has the outcome that the first fault decides, or that of the native function; it is
the same whether runs are recorded or not. An error is returned exactly if no native function ran,
and the result of one that ran can always be raised. -/
theorem invoke_outcome {σ : Type} (b : MethodBinding) (code : NativeCode σ) (args : List Value)
    (w : World σ) :
    ∃ result pool native calls,
      b.invoke code.recorded args ⟨w.pool, (w.native, [])⟩ = (result, ⟨pool, (native, calls)⟩) ∧
      b.invoke code args w = (result, ⟨pool, native⟩) ∧
      CallOutcome b code args w.native result native calls ∧
      ((∃ e, result = .error e) ↔ calls = []) ∧
      ∀ register read, ∃ value,
        raise b.plan.symbol b.plan.ret (.ofRegister b.plan.ret.layout register) read =
          .ok value := by
  suffices h : ∃ result pool native calls,
      b.invoke code.recorded args ⟨w.pool, (w.native, [])⟩ = (result, ⟨pool, (native, calls)⟩) ∧
      b.invoke code args w = (result, ⟨pool, native⟩) ∧
      CallOutcome b code args w.native result native calls by
    obtain ⟨result, pool, native, calls, hrecorded, hplain, houtcome⟩ := h
    exact ⟨result, pool, native, calls, hrecorded, hplain, houtcome, houtcome.error_iff,
      raise_ofRegister b.plan.symbol b.plan.ret⟩
  -- The faults are gone through in the order in which a call looks for them.
  by_cases hlength : args.length = b.plan.arity
  case neg =>
    have hc := check_of_length_ne hlength
    exact ⟨_, _, _, [], invoke_of_check_error hc, invoke_of_check_error hc, .arity hlength⟩
  rcases fits_or_firstMisfit hlength with hfits | ⟨position, type, value, hmisfit⟩
  case inr =>
    have hc := check_of_firstMisfit hlength hmisfit
    exact ⟨_, _, _, [], invoke_of_check_error hc, invoke_of_check_error hc,
      .misfit hlength hmisfit⟩
  obtain ⟨managed, hc, hvalues, _⟩ := check_of_fits hfits
  rcases nulFree_or_firstNul args with hfree | ⟨t, offset, hnul⟩
  case inr =>
    have hl : lowerAll managed (.start w.pool) =
        (.error (.interiorNul offset), (lowerAll managed (.start w.pool)).2) :=
      Prod.ext_iff.2 ⟨lowerAll_of_firstNul (Frame.start_fresh w.pool) (hvalues.symm ▸ hnul), rfl⟩
    exact ⟨_, _, _, [], invoke_of_lowerAll_error hc hl, invoke_of_lowerAll_error hc hl,
      .nul hfits hnul⟩
  obtain ⟨natives, frame, hl, hlowered, _⟩ :=
    lowerAll_of_nulFree (Frame.start_fresh w.pool) (hvalues.symm ▸ hfree)
  rw [hvalues] at hlowered
  cases hnull : b.entry.isNull with
  | true =>
    have he := EntryPoint.callable_of_isNull b.plan.symbol hnull
    exact ⟨_, _, _, [], invoke_of_callable_error hc hl he, invoke_of_callable_error hc hl he,
      .nullEntry hfits hfree hnull⟩
  | false =>
    have he := EntryPoint.callable_of_not_isNull b.plan.symbol hnull
    obtain ⟨value, hv⟩ := raise_ofRegister b.plan.symbol b.plan.ret
      (code.run b.entry.address natives frame w.native).1
      (code.read frame.arena (code.run b.entry.address natives frame w.native).2)
    refine ⟨.ok value, frame.release, (code.run b.entry.address natives frame w.native).2,
      [⟨b.entry.address, natives, frame⟩], ?_, ?_, .done hfits hfree hnull hlowered rfl hv⟩
    · have hrun := invoke_of_run code.recorded ⟨w.pool, (w.native, [])⟩ hc hl he rfl
      exact hrun.trans (Prod.ext_iff.2 ⟨hv, rfl⟩)
    · have hrun := invoke_of_run code w hc hl he rfl
      exact hrun.trans (Prod.ext_iff.2 ⟨hv, rfl⟩)

end MethodBinding
end ForeignCall
