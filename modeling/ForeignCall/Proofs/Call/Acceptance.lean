import ForeignCall.Proofs.Call.Outcome

/-!
# Accepted arguments

`Value.fits` is meant to tell which values a parameter of a type takes. It looks at the kind alone,
as the check of a call does; a text with a zero byte passes both and is refused when it is lowered.

* `accepts_iff`: an argument is extracted and lowered if it fits its type and has no zero byte.
* `MethodPlan.reachesEntry_iff`: a call gets as far as its entry point if this holds of all
  arguments.
* `text_with_zero_refused`: fitting alone is not enough.
-/

namespace ForeignCall

/-! ## 1. One argument -/

/-- The argument at a position is taken as one of the type: it is extracted, and what is extracted
can be lowered into every arena. -/
def Accepts (symbol : Text) (args : List Value) (position : Nat) (type : SemanticType) : Prop :=
  ∃ a, extract symbol args position type = .ok a ∧ ∀ f : Frame, ∃ n f', lower a f = (.ok n, f')

section OneArgument

variable {symbol : Text} {args : List Value} {position : Nat} {type : SemanticType}

theorem extract_of_missing (h : args[position]? = none) :
    extract symbol args position type =
      .error (.arityMismatch symbol (position + 1) args.length) := by
  have hat : argAt symbol args position =
      .error (.arityMismatch symbol (position + 1) args.length) := by rw [argAt, h, orError]
  cases type with
  | int32 => rw [extract, argInt32, hat]; rfl
  | int64 => rw [extract, argInt64, hat]; rfl
  | string => rw [extract, argString, hat]; rfl
  | handle => rw [extract, argHandle, hat]; rfl
  | void => rw [extract, hat]; rfl

/-- What is extracted is the argument at the position, and it fits. -/
theorem fits_of_extract {a : ManagedArg} (h : extract symbol args position type = .ok a) :
    args[position]? = some a.value ∧ a.value.fits type = true := by
  cases hat : args[position]? with
  | none =>
    rw [extract_of_missing hat] at h
    cases h
  | some v =>
    cases hfits : v.fits type with
    | false =>
      rw [extract_of_misfit hat hfits] at h
      cases h
    | true =>
      obtain ⟨a', ha', rfl, _⟩ := extract_of_fits symbol hat hfits
      rw [ha', Except.ok.injEq] at h
      exact h ▸ ⟨rfl, hfits⟩

/-- An argument is lowered if it is no text with a zero byte, whatever the arena holds. -/
theorem lower_isOk_iff {a : ManagedArg} {f : Frame} :
    (∃ n f', lower a f = (.ok n, f')) ↔ NulFree [a.value] := by
  have hmem (t : Text) : Value.string t ∈ [a.value] ↔ a.value = .string t := by
    rw [List.mem_singleton, eq_comm]
  rcases lower_cases a f with ⟨t, offset, ht, hzero, hl⟩ | ⟨t, n, ht, hfree, hl⟩ | ⟨n, hnone, hl⟩
  · refine iff_of_false ?_ fun h => h t ((hmem t).2 ht) (List.mem_of_getElem? hzero.zero_at)
    simp [hl]
  · refine iff_of_true ⟨n, _, hl⟩ fun t' ht' => ?_
    cases ht.symm.trans ((hmem t').1 ht')
    exact hfree
  · refine iff_of_true ⟨n, f, hl⟩ fun t ht => ?_
    rw [(hmem t).1 ht] at hnone
    cases hnone

/-- An argument is accepted if it fits the type and is no text with a zero byte. -/
theorem accepts_iff : Accepts symbol args position type ↔
    ∃ v, args[position]? = some v ∧ v.fits type = true ∧ NulFree [v] := by
  constructor
  · rintro ⟨a, ha, hlower⟩
    obtain ⟨hat, hfits⟩ := fits_of_extract ha
    exact ⟨a.value, hat, hfits, lower_isOk_iff.1 (hlower (.start .empty))⟩
  · rintro ⟨v, hat, hfits, hfree⟩
    obtain ⟨a, ha, rfl, _⟩ := extract_of_fits symbol hat hfits
    exact ⟨a, ha, fun f => lower_isOk_iff.2 hfree⟩

end OneArgument

/-! ## 2. Calls -/

namespace MethodPlan

/-- A call of the method with these arguments gets as far as its entry point: nothing but a null
entry makes it fail. -/
structure ReachesEntry (m : MethodPlan) (args : List Value) : Prop where
  null : ∀ (entry : EntryPoint) {σ : Type} (code : NativeCode σ) (w : World σ),
    entry.isNull = true → ((⟨m, entry⟩ : MethodBinding).invoke code args w).1 =
      .error (.nativeCallFailed m.symbol "entry point resolved to a null address")
  notNull : ∀ (entry : EntryPoint) {σ : Type} (code : NativeCode σ) (w : World σ),
    entry.isNull = false → ∃ v, ((⟨m, entry⟩ : MethodBinding).invoke code args w).1 = .ok v

variable {m : MethodPlan} {args : List Value}

theorem reachesEntry_of_fits (hfits : Fits m.params args) (hfree : NulFree args) :
    m.ReachesEntry args := by
  have hlower (entry : EntryPoint) (pool : Pool) : ∃ managed natives frame,
      (⟨m, entry⟩ : MethodBinding).check args = .ok managed ∧
        lowerAll managed (.start pool) = (.ok natives, frame) := by
    obtain ⟨managed, hc, rfl, _⟩ := MethodBinding.check_of_fits (b := ⟨m, entry⟩) hfits
    obtain ⟨natives, frame, hl, -⟩ := lowerAll_of_nulFree (Frame.start_fresh pool) hfree
    exact ⟨managed, natives, frame, hc, hl⟩
  constructor
  · intro entry σ code w hnull
    obtain ⟨managed, natives, frame, hc, hl⟩ := hlower entry w.pool
    have he := EntryPoint.callable_of_isNull m.symbol hnull
    rw [MethodBinding.invoke_of_callable_error hc hl he]
  · intro entry σ code w hnull
    obtain ⟨managed, natives, frame, hc, hl⟩ := hlower entry w.pool
    have he := EntryPoint.callable_of_not_isNull m.symbol hnull
    rw [MethodBinding.invoke_of_run code w hc hl he rfl]
    exact raise_ofRegister m.symbol m.ret _ _

/-- A call gets as far as its entry point if its arguments fit the parameters and none is a text
with a zero byte. -/
theorem reachesEntry_iff : m.ReachesEntry args ↔ Fits m.params args ∧ NulFree args := by
  refine ⟨fun h => ?_, fun h => reachesEntry_of_fits h.1 h.2⟩
  -- With no function at the entry point, every earlier fault is told in its place.
  let b : MethodBinding := ⟨m, ⟨0⟩⟩
  let code : NativeCode Unit := ⟨fun _ _ _ s => (.bits 0, s), fun _ _ => []⟩
  have hnull := h.null ⟨0⟩ code ⟨.empty, ()⟩ rfl
  by_cases hlength : args.length = m.arity
  case neg =>
    rw [MethodBinding.invoke_of_check_error (b := b) (MethodBinding.check_of_length_ne hlength)]
      at hnull
    cases hnull
  rcases fits_or_firstMisfit hlength with hfits | ⟨position, type, value, hmisfit⟩
  case inr =>
    rw [MethodBinding.invoke_of_check_error (b := b)
      (MethodBinding.check_of_firstMisfit hlength hmisfit)] at hnull
    cases hnull
  refine ⟨hfits, ?_⟩
  rcases nulFree_or_firstNul args with hfree | ⟨t, offset, hnul⟩
  · exact hfree
  · obtain ⟨managed, hc, rfl, _⟩ := MethodBinding.check_of_fits (b := b) hfits
    have hl := lowerAll_of_firstNul (Frame.start_fresh .empty) hnul
    rw [MethodBinding.invoke_of_lowerAll_error hc (Prod.ext hl rfl)] at hnull
    cases hnull

end MethodPlan

/-- An argument is accepted if it fits its type and is no text with a zero byte, so fitting tells
what is accepted just if no text with a zero byte fits. A call gets as far as its entry point if all
its arguments fit and none is a text with a zero byte. -/
theorem accepts_and_reachesEntry_iff (symbol : Text) (before after : List Value) (v : Value)
    (type : SemanticType) (m : MethodPlan) (args : List Value) :
    (Accepts symbol (before ++ v :: after) before.length type ↔
      v.fits type = true ∧ NulFree [v]) ∧
    ((v.fits type = true ↔ Accepts symbol (before ++ v :: after) before.length type) ↔
      (v.fits type = true → NulFree [v])) ∧
    (m.ReachesEntry args ↔ Fits m.params args ∧ NulFree args) := by
  have haccepts : Accepts symbol (before ++ v :: after) before.length type ↔
      v.fits type = true ∧ NulFree [v] := by
    have hat : (before ++ v :: after)[before.length]? = some v := by simp
    rw [accepts_iff, hat]
    simp only [Option.some.injEq, exists_eq_left']
  refine ⟨haccepts, ?_, MethodPlan.reachesEntry_iff⟩
  rw [haccepts]
  exact iff_self_and

/-- A text with a zero byte fits the type of texts and is not accepted. -/
theorem text_with_zero_refused :
    (Value.string "a\x00").fits .string = true ∧ ¬ Accepts "f" [.string "a\x00"] 0 .string ∧
    Fits [.string] [.string "a\x00"] ∧
    ¬ MethodPlan.ReachesEntry ⟨⟨0⟩, "f", [.string], .int32⟩ [.string "a\x00"] := by
  have hnul : ¬ NulFree [.string "a\x00"] := fun h =>
    h "a\x00" (List.mem_singleton.2 rfl) (by decide)
  refine ⟨rfl, fun h => ?_, .cons rfl .nil, fun h => hnul (MethodPlan.reachesEntry_iff.1 h).2⟩
  obtain ⟨v, hv, _, hfree⟩ := accepts_iff.1 h
  cases hv
  exact hnul hfree

end ForeignCall
