import ForeignCall.Source.Reader

/-!
# Running readers

A reader that takes one step after another is run step by step.

* `TokenReader.bind_of_eq` takes a step, `TokenReader.within_of_eq` reads between brackets.
* `TokenReader.Iterates` says how often a step is repeated, and `TokenReader.Iterates.iterate_eq`
  runs a reader that repeats it.
* `TokenReader.commaStep_stop`, `TokenReader.commaStep_last` and `TokenReader.commaStep_more` take
  the steps of a list with commas.
-/

namespace ForeignCall
namespace TokenReader

variable {α β : Type}

/-! ## 1. Single steps -/

theorem bind_of_eq {p : TokenReader α} {f : α → TokenReader β} {s t : Reading} {a : α}
    (h : p s = some (a, t)) : (p >>= f) s = f a t := by
  rw [show (p >>= f) s = (p s).bind fun r => f r.1 r.2 from rfl, h]
  rfl

theorem ahead_run (s : Reading) : ahead s = some (s.rest, s) := rfl

theorem sees_run (condition : List Token → Bool) (s : Reading) :
    sees condition s = some (condition s.rest, s) := rfl

theorem name_run {w : Text} (h : w ∉ strictKeywords) (ts out : List Token) :
    name ⟨.word w :: ts, out⟩ = some ((), ⟨ts, .word w :: out⟩) := by
  have hname : expect atName ⟨.word w :: ts, out⟩ = some ((), ⟨.word w :: ts, out⟩) := by
    rw [expect, bind_of_eq (sees_run _ _), show atName (.word w :: ts) = true from decide_eq_true h]
    rfl
  rw [name, bind_of_eq hname]
  rfl

theorem within_of_eq {p : TokenReader α} {b : Bracket} {ts rest out out' : List Token} {a : α}
    (h : p ⟨ts, .opening b :: out⟩ = some (a, ⟨.closing b :: rest, out'⟩)) :
    within b p ⟨.opening b :: ts, out⟩ = some (a, ⟨rest, .closing b :: out'⟩) := by
  have hopening : opening b ⟨.opening b :: ts, out⟩ = some ((), ⟨ts, .opening b :: out⟩) := by
    cases b <;> rfl
  have hclosing : closing b ⟨.closing b :: rest, out'⟩ = some ((), ⟨rest, .closing b :: out'⟩) := by
    cases b <;> rfl
  exact (bind_of_eq hopening).trans ((bind_of_eq h).trans ((bind_of_eq hclosing).trans rfl))

/-! ## 2. Repeated steps -/

/-- From `a` at `s` the step leads to `c` at `u`, where it gives nothing; before that it gives
something `n` times. -/
inductive Iterates (step : α → TokenReader (Option α)) : Nat → α → Reading → α → Reading → Prop
  | done {a : α} {s t : Reading} : step a s = some (none, t) → Iterates step 0 a s a t
  | more {n : Nat} {a b c : α} {s t u : Reading} :
      step a s = some (some b, t) → Iterates step n b t c u → Iterates step (n + 1) a s c u

theorem Iterates.iterateUpTo_eq {step : α → TokenReader (Option α)} {n : Nat} {a c : α}
    {s u : Reading} (h : Iterates step n a s c u) (k : Nat) :
    iterateUpTo step (n + 1 + k) a s = some (c, u) := by
  induction h with
  | done h =>
    rw [Nat.add_comm, iterateUpTo, bind_of_eq h]
    rfl
  | more h _ ih =>
    rw [Nat.add_right_comm, iterateUpTo, bind_of_eq h]
    exact ih

/-- An iteration that gives something no more often than there are tokens comes to its end. -/
theorem Iterates.iterate_eq {step : α → TokenReader (Option α)} {n : Nat} {a c : α}
    {s u : Reading} (h : Iterates step n a s c u) (hn : n ≤ s.rest.length) :
    iterate step a s = some (c, u) := by
  obtain ⟨k, hk⟩ := Nat.exists_eq_add_of_le hn
  rw [iterate, bind_of_eq (ahead_run s), hk, Nat.add_right_comm]
  exact h.iterateUpTo_eq k

/-- The step of a repetition. -/
def again (step : TokenReader Bool) (_ : Unit) : TokenReader (Option Unit) := do
  return if ← step then some () else none

theorem again_of_false {step : TokenReader Bool} {s t : Reading} (h : step s = some (false, t)) :
    again step () s = some (none, t) :=
  bind_of_eq h

theorem again_of_true {step : TokenReader Bool} {s t : Reading} (h : step s = some (true, t)) :
    again step () s = some (some (), t) :=
  bind_of_eq h

/-! ## 3. Lists -/

/-- One step of a list with commas. -/
def commaStep (stop : List Token → Bool) (item : TokenReader Unit) : TokenReader Bool := do
  if ← sees stop then return false
  item
  if ← sees stop then return false
  op ","
  return true

section Commas

variable {stop : List Token → Bool} {item : TokenReader Unit} {s t : Reading}

theorem commaStep_stop (h : stop s.rest = true) : commaStep stop item s = some (false, s) := by
  refine (bind_of_eq (sees_run _ _)).trans ?_
  rw [h]
  rfl

theorem commaStep_last (hs : stop s.rest = false) (h : item s = some ((), t))
    (ht : stop t.rest = true) : commaStep stop item s = some (false, t) := by
  refine (bind_of_eq (sees_run _ _)).trans ?_
  rw [hs]
  refine (bind_of_eq h).trans ((bind_of_eq (sees_run _ _)).trans ?_)
  rw [ht]
  rfl

theorem commaStep_more {rest out : List Token} (hs : stop s.rest = false)
    (h : item s = some ((), ⟨.mark ',' false :: rest, out⟩))
    (ht : stop (.mark ',' false :: rest) = false) :
    commaStep stop item s = some (true, ⟨rest, .mark ',' false :: out⟩) := by
  refine (bind_of_eq (sees_run _ _)).trans ?_
  rw [hs]
  refine (bind_of_eq h).trans ((bind_of_eq (sees_run _ _)).trans ?_)
  rw [ht]
  rfl

end Commas

end TokenReader
end ForeignCall
