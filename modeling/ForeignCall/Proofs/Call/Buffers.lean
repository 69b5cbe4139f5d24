import ForeignCall.Proofs.Call.Outcome
import ForeignCall.Proofs.Call.RoundTrip

/-!
# Buffers of a call

A call takes one buffer for each text it is given and gives all of them back.

* `lowerAll_live`: lowering adds to the pool what it adds to the arena, on success and on failure,
  and `lowerAll_size` says how much that is on success.
* `MethodBinding.check_eq_ok_iff`: what passes the check are the arguments with their types.
* `MethodBinding.invoke_cases`: a call fails before native code runs, or runs it on lowered
  arguments. In both cases as many buffers are alive after it as before.
-/

namespace ForeignCall

/-! ## 1. Lowering -/

/-- The texts among values; null is no text. -/
def textsOf (values : List Value) : List Text := values.filterMap Value.string?

theorem lower_live (a : ManagedArg) (f : Frame) :
    (lower a f).2.pool.live + f.arena.size = f.pool.live + (lower a f).2.arena.size := by
  rcases lower_frame a f with h | ⟨bytes, h⟩
  · rw [h]
  · rw [h]
    simp only [Frame.push, Arena.size, List.length_append, List.length_singleton]
    omega

/-- The pool counts the buffers that lowering adds to the arena, also if it fails half-way. -/
theorem lowerAll_live (managed : List ManagedArg) (f : Frame) :
    (lowerAll managed f).2.pool.live + f.arena.size =
      f.pool.live + (lowerAll managed f).2.arena.size := by
  induction managed generalizing f with
  | nil => rfl
  | cons a managed ih =>
    have hfirst := lower_live a f
    rw [lowerAll]
    rcases hl : lower a f with ⟨e | v, f₁⟩
    · rw [hl] at hfirst
      exact hfirst
    · rw [hl] at hfirst
      have hrest := ih f₁
      simp only at hfirst hrest ⊢
      omega

/-- Whatever was lowered, releasing the arena leaves as many buffers as there were. -/
theorem lowerAll_release (managed : List ManagedArg) (pool : Pool) :
    (lowerAll managed (.start pool)).2.release.live = pool.live := by
  have hlive := lowerAll_live managed (.start pool)
  simp only [Frame.start, Arena.empty, Arena.size, List.length_nil] at hlive
  simp only [Frame.release, Arena.size, Frame.start, Arena.empty]
  omega

theorem lower_size {a : ManagedArg} {f f' : Frame} {n : NativeValue}
    (h : lower a f = (.ok n, f')) :
    f'.arena.size = f.arena.size + (textsOf [a.value]).length := by
  rcases lower_cases a f with ⟨_, _, -, -, hl⟩ | ⟨t, _, ht, -, hl⟩ | ⟨_, hnone, hl⟩
  · cases hl.symm.trans h
  · cases hl.symm.trans h
    rw [ht]
    exact List.length_append
  · cases hl.symm.trans h
    rw [textsOf, List.filterMap_cons_none hnone]
    rfl

/-- If everything is lowered, there is one more buffer for each text. -/
theorem lowerAll_size {managed : List ManagedArg} {f frame : Frame} {natives : List NativeValue}
    (h : lowerAll managed f = (.ok natives, frame)) :
    frame.arena.size = f.arena.size + (textsOf (managed.map ManagedArg.value)).length := by
  induction managed generalizing f natives with
  | nil =>
    cases h
    rfl
  | cons a managed ih =>
    obtain ⟨n, f₁, rest, hl, hr, -⟩ := lowerAll_cons_eq_ok_iff.1 h
    have hcons : textsOf ((a :: managed).map ManagedArg.value) =
        textsOf [a.value] ++ textsOf (managed.map ManagedArg.value) :=
      List.filterMap_append (l := [a.value])
    rw [ih hr, lower_size hl, hcons, List.length_append, Nat.add_assoc]

/-! ## 2. Checking -/

namespace ManagedArg

theorem fits (a : ManagedArg) : a.value.fits a.type = true := by
  cases a with
  | int32 v => rfl
  | int64 v => rfl
  | string t => cases t <;> rfl
  | handle h => cases h <;> rfl

/-- A checked argument is its value with its type. -/
theorem eq_of_value_of_type {a b : ManagedArg} (hvalue : a.value = b.value)
    (htype : a.type = b.type) : a = b := by
  cases a with
  | int32 v =>
    cases b with
    | int32 v' =>
      cases hvalue
      rfl
    | _ => cases htype
  | int64 v =>
    cases b with
    | int64 v' =>
      cases hvalue
      rfl
    | _ => cases htype
  | string t =>
    cases b with
    | string t' => cases t <;> cases t' <;> cases hvalue <;> rfl
    | _ => cases htype
  | handle h =>
    cases b with
    | handle h' => cases h <;> cases h' <;> cases hvalue <;> rfl
    | _ => cases htype

theorem map_eq_of_values_of_types {managed managed' : List ManagedArg}
    (hvalues : managed.map value = managed'.map value)
    (htypes : managed.map type = managed'.map type) : managed = managed' := by
  induction managed generalizing managed' with
  | nil => exact (List.map_eq_nil_iff.1 hvalues.symm).symm
  | cons a managed ih =>
    cases managed' with
    | nil => cases hvalues
    | cons b managed' =>
      obtain ⟨hv, hvs⟩ := List.cons.inj hvalues
      obtain ⟨ht, hts⟩ := List.cons.inj htypes
      rw [eq_of_value_of_type hv ht, ih hvs hts]

end ManagedArg

theorem fits_of_managed (managed : List ManagedArg) :
    Fits (managed.map ManagedArg.type) (managed.map ManagedArg.value) := by
  induction managed with
  | nil => exact .nil
  | cons a managed ih => exact .cons a.fits ih

namespace MethodBinding

/-- What passes the check are the arguments with the types of the parameters. -/
theorem check_eq_ok_iff {b : MethodBinding} {args : List Value} {managed : List ManagedArg} :
    b.check args = .ok managed ↔
    managed.map ManagedArg.value = args ∧ managed.map ManagedArg.type = b.plan.params := by
  constructor
  · intro h
    have htypes := types_of_check h
    have hlength : args.length = b.plan.arity := by
      by_contra hne
      rw [check_of_length_ne hne] at h
      cases h
    rcases fits_or_firstMisfit hlength with hfits | ⟨position, type, value, hmisfit⟩
    · obtain ⟨managed', hc, hvalues, _⟩ := check_of_fits hfits
      rw [hc] at h
      cases h
      exact ⟨hvalues, htypes⟩
    · rw [check_of_firstMisfit hlength hmisfit] at h
      cases h
  · rintro ⟨rfl, htypes⟩
    obtain ⟨managed', hc, hvalues, htypes'⟩ := check_of_fits (htypes ▸ fits_of_managed managed)
    rwa [ManagedArg.map_eq_of_values_of_types hvalues (htypes'.trans htypes.symm)] at hc

end MethodBinding

/-! ## 3. Calls -/

theorem nulFree_of_lowerAll {managed : List ManagedArg} {pool : Pool} {frame : Frame}
    {natives : List NativeValue} (h : lowerAll managed (.start pool) = (.ok natives, frame)) :
    NulFree (managed.map ManagedArg.value) := by
  rcases nulFree_or_firstNul (managed.map ManagedArg.value) with hfree | ⟨t, offset, hnul⟩
  · exact hfree
  · have herror := lowerAll_of_firstNul (Frame.start_fresh pool) hnul
    rw [h] at herror
    cases herror

namespace MethodBinding

/-- A call fails and leaves native code alone, or runs native code on the lowered arguments, with
one buffer more for each text, and raises its result. Native code and its state play no part in
which of the two it is. As many buffers are alive after the call as before. -/
theorem invoke_cases (b : MethodBinding) (args : List Value) (pool : Pool) :
    (∃ e pool', pool'.live = pool.live ∧
      ∀ {σ : Type} (code : NativeCode σ) (s : σ),
        b.invoke code args ⟨pool, s⟩ = (.error e, ⟨pool', s⟩)) ∨
    ∃ natives frame, Fits b.plan.params args ∧ NulFree args ∧ b.entry.isNull = false ∧
      List.Forall₂ (Lowered frame.arena) args natives ∧
      frame.pool.live = pool.live + (textsOf args).length ∧ frame.release.live = pool.live ∧
      ∀ {σ : Type} (code : NativeCode σ) (s s' : σ) (register : Register),
        code.run b.entry.address natives frame s = (register, s') →
        b.invoke code args ⟨pool, s⟩ =
          (raise b.plan.symbol b.plan.ret (.ofRegister b.plan.ret.layout register)
            (code.read frame.arena s'), ⟨frame.release, s'⟩) := by
  cases hc : b.check args with
  | error e => exact .inl ⟨e, pool, rfl, fun code s => invoke_of_check_error hc⟩
  | ok managed =>
    obtain ⟨hvalues, htypes⟩ := check_eq_ok_iff.1 hc
    have hrelease := lowerAll_release managed pool
    rcases hl : lowerAll managed (.start pool) with ⟨e | natives, frame⟩
    · rw [hl] at hrelease
      exact .inl ⟨e, frame.release, hrelease, fun code s => invoke_of_lowerAll_error hc hl⟩
    rw [hl] at hrelease
    cases hnull : b.entry.isNull with
    | true =>
      have he := EntryPoint.callable_of_isNull b.plan.symbol hnull
      exact .inl ⟨_, frame.release, hrelease, fun code s => invoke_of_callable_error hc hl he⟩
    | false =>
      have he := EntryPoint.callable_of_not_isNull b.plan.symbol hnull
      have hfree := nulFree_of_lowerAll hl
      obtain ⟨natives', frame', hl', hlowered, _⟩ :=
        lowerAll_of_nulFree (Frame.start_fresh pool) hfree
      rw [hl] at hl'
      cases hl'
      have hlive := lowerAll_live managed (.start pool)
      have hsize := lowerAll_size hl
      rw [hl] at hlive
      have hfits := fits_of_managed managed
      rw [hvalues] at hfree hlowered hsize hfits
      rw [htypes] at hfits
      refine .inr ⟨natives, frame, hfits, hfree, rfl, hlowered, ?_, hrelease, ?_⟩
      · simp only [Frame.start] at hlive hsize
        omega
      · intro σ code s s' register hr
        exact invoke_of_run code ⟨pool, s⟩ hc hl he hr

end MethodBinding
end ForeignCall
