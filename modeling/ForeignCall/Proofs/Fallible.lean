import ForeignCall.Error

/-!
# Steps that may fail

A chain of steps gives a result exactly if each of its steps gives one, and fails with the error of
the first step that fails.

* `bind_eq_ok_iff` and `bind_eq_error_iff` take a chain apart at its first step.
* The other lemmas say when a single step gives a result and when it fails.
-/

namespace ForeignCall

variable {ε ε' α β : Type}

/-! ## 1. Results -/

theorem pure_eq_ok_iff {a b : α} : (pure a : Except ε α) = .ok b ↔ a = b := by
  simp [pure, Except.pure]

theorem orError_eq_ok_iff {e : ε} {o : Option α} {a : α} : orError e o = .ok a ↔ o = some a := by
  cases o <;> simp [orError]

theorem map_eq_ok_iff {r : Except ε α} {f : α → β} {b : β} :
    r.map f = .ok b ↔ ∃ a, r = .ok a ∧ f a = b := by
  cases r <;> simp [Except.map]

theorem mapError_ok (f : ε → ε') (a : α) : (Except.ok a : Except ε α).mapError f = .ok a := rfl

theorem mapError_error (f : ε → ε') (e : ε) :
    (Except.error e : Except ε α).mapError f = .error (f e) := rfl

theorem mapError_eq_ok_iff {r : Except ε α} {f : ε → ε'} {a : α} :
    r.mapError f = .ok a ↔ r = .ok a := by
  cases r <;> simp [mapError_ok, mapError_error]

theorem bind_eq_ok_iff {r : Except ε α} {next : α → Except ε β} {b : β} :
    (r >>= next) = .ok b ↔ ∃ a, r = .ok a ∧ next a = .ok b := by
  cases r <;> simp [bind, Except.bind]

theorem throw_ne_ok {e : ε} {a : α} : (throw e : Except ε α) ≠ .ok a := by
  simp [throw, throwThe, MonadExceptOf.throw]

/-- A guard that fails with an error. -/
theorem guard_eq_ok_iff {p : Prop} [Decidable p] {e : ε} {next : α → Except ε β}
    {r : Except ε β} {b : β} :
    (if p then throw e >>= next else r) = .ok b ↔ ¬ p ∧ r = .ok b := by
  by_cases h : p <;> simp [h, throw, throwThe, MonadExceptOf.throw, bind, Except.bind]

/-! ## 2. Errors -/

theorem pure_ne_error {a : α} {e : ε} : (pure a : Except ε α) ≠ .error e := by
  simp [pure, Except.pure]

theorem orError_eq_error_iff {e e' : ε} {o : Option α} :
    orError e o = .error e' ↔ o = none ∧ e = e' := by
  cases o <;> simp [orError]

theorem map_eq_error_iff {r : Except ε α} {f : α → β} {e : ε} :
    r.map f = .error e ↔ r = .error e := by
  cases r <;> simp [Except.map]

theorem mapError_eq_error_iff {r : Except ε α} {f : ε → ε'} {e' : ε'} :
    r.mapError f = .error e' ↔ ∃ e, r = .error e ∧ f e = e' := by
  cases r <;> simp [mapError_ok, mapError_error]

theorem bind_eq_error_iff {r : Except ε α} {next : α → Except ε β} {e : ε} :
    (r >>= next) = .error e ↔ r = .error e ∨ ∃ a, r = .ok a ∧ next a = .error e := by
  cases r <;> simp [bind, Except.bind]

theorem throw_eq_error_iff {e e' : ε} : (throw e : Except ε α) = .error e' ↔ e = e' := by
  simp [throw, throwThe, MonadExceptOf.throw]

theorem guard_eq_error_iff {p : Prop} [Decidable p] {e e' : ε} {next : α → Except ε β}
    {r : Except ε β} :
    (if p then throw e >>= next else r) = .error e' ↔ p ∧ e = e' ∨ ¬ p ∧ r = .error e' := by
  by_cases h : p <;> simp [h, throw, throwThe, MonadExceptOf.throw, bind, Except.bind]

end ForeignCall
