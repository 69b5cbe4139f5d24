import ForeignCall.Plan
import ForeignCall.Proofs.Text.Order

/-!
# Finding by key

A table in strict order of its keys can be searched by halves, from the left, or by place; each way
finds the same.

* `Plan.search_iff`: binary search among keys in strict order finds exactly the place of the target;
  `Plan.search_eq_some_iff` is the case of texts.
* `find?_key_of_mem`, `find?_key_eq_getElem?`: looking from the left finds the one entry with a key,
  and the entry at a place if the keys are the places.
-/

namespace ForeignCall

/-! ## 1. From the left -/

section Keys

variable {α κ : Type} [DecidableEq κ] {key : α → κ} {entries : List α}

/-- If no key stands twice, an entry is found by its key. -/
theorem find?_key_of_mem (nodup : (entries.map key).Nodup) {a : α} (h : a ∈ entries) :
    entries.find? (fun b => key b = key a) = some a := by
  induction entries with
  | nil => cases h
  | cons first rest ih =>
    rw [List.map_cons, List.nodup_cons] at nodup
    rcases List.mem_cons.1 h with rfl | h
    · rw [List.find?_cons_of_pos (by simp)]
    · have hne : key first ≠ key a := fun he => nodup.1 (he ▸ List.mem_map_of_mem h)
      rw [List.find?_cons_of_neg (by simpa using hne), ih nodup.2 h]

/-- An entry is found exactly if it has the key. -/
theorem find?_key_eq_some_iff (nodup : (entries.map key).Nodup) {k : κ} {a : α} :
    entries.find? (fun b => key b = k) = some a ↔ a ∈ entries ∧ key a = k := by
  constructor
  · intro h
    exact ⟨List.mem_of_find?_eq_some h, by simpa using List.find?_some h⟩
  · rintro ⟨h, rfl⟩
    exact find?_key_of_mem nodup h

theorem find?_key_eq_none_iff {k : κ} :
    entries.find? (fun b => key b = k) = none ↔ k ∉ entries.map key := by
  simp [List.find?_eq_none]

/-- If keys are places, an entry is found at its place. -/
theorem find?_key_eq_getElem? {key : α → Nat} (places : ∀ i a, entries[i]? = some a → key a = i)
    (k : Nat) : entries.find? (fun b => key b = k) = entries[k]? := by
  cases hk : entries[k]? with
  | none =>
    rw [List.find?_eq_none]
    intro a ha
    obtain ⟨i, hi⟩ := List.getElem?_of_mem ha
    have hne : i ≠ k := by
      rintro rfl
      simp [hi] at hk
    simpa [places i a hi] using hne
  | some a =>
    have hlt : k < entries.length := (List.getElem?_eq_some_iff.1 hk).1
    rw [List.find?_eq_some_iff_getElem]
    refine ⟨by simpa using places k a hk, k, hlt, (List.getElem?_eq_some_iff.1 hk).2, ?_⟩
    intro i hi
    have hplace := places i _ (List.getElem?_eq_getElem (Nat.lt_trans hi hlt))
    simpa [hplace] using Nat.ne_of_lt hi

end Keys

/-! ## 2. By halves -/

namespace Plan

/-- What a search finds is the target, in whatever order the keys are. -/
theorem search_sound {κ : Type} [DecidableEq κ] {le : κ → κ → Bool} {keys : List κ} {target : κ}
    {low high i : Nat} (h : search le keys target low high = some i) :
    keys[i]? = some target := by
  fun_induction search le keys target low high with
  | case1 => cases h
  | case2 low high _ middle hkey =>
    rw [Option.some.injEq] at h
    exact h ▸ hkey
  | case3 low high _ middle key hkey hne hle ih => exact ih h
  | case4 low high _ middle key hkey hne hle ih => exact ih h
  | case5 => cases h

section Ordered

variable {κ : Type} {le : κ → κ → Bool} {keys : List κ} {target : κ}

/-- `a` comes before `b`, and `b` does not come before `a`. -/
def StrictBefore (le : κ → κ → Bool) (a b : κ) : Prop := le a b = true ∧ le b a = false

theorem not_strictBefore_self (a : κ) : ¬ StrictBefore le a a := by
  rintro ⟨h, hnot⟩
  simp [h] at hnot

theorem strictBefore_of_lt (ordered : keys.Pairwise (StrictBefore le)) {i j : Nat} {a b : κ}
    (hij : i < j) (ha : keys[i]? = some a) (hb : keys[j]? = some b) : StrictBefore le a b := by
  obtain ⟨hi, rfl⟩ := List.getElem?_eq_some_iff.1 ha
  obtain ⟨hj, rfl⟩ := List.getElem?_eq_some_iff.1 hb
  exact List.pairwise_iff_getElem.1 ordered i j hi hj hij

variable [DecidableEq κ]

/-- A search that has the place of the target between its bounds finds it. -/
theorem search_complete (ordered : keys.Pairwise (StrictBefore le)) {low high i : Nat}
    (hlow : low ≤ i) (hhigh : i < high) (hlength : high ≤ keys.length)
    (hi : keys[i]? = some target) : search le keys target low high = some i := by
  fun_induction search le keys target low high with
  | case1 low high hlt middle hkey =>
    have hmiddle : middle < high := by omega
    rw [List.getElem?_eq_none_iff] at hkey
    exact absurd (Nat.lt_of_lt_of_le hmiddle hlength) (Nat.not_lt.2 hkey)
  | case2 low high hlt middle hkey =>
    rcases Nat.lt_trichotomy middle i with h | h | h
    · exact absurd (strictBefore_of_lt ordered h hkey hi) (not_strictBefore_self _)
    · rw [h]
    · exact absurd (strictBefore_of_lt ordered h hi hkey) (not_strictBefore_self _)
  | case3 low high hlt middle key hkey hne hle ih =>
    -- The middle key comes before the target, so the target lies to its right.
    have hmiddle : middle < i := by
      rcases Nat.lt_trichotomy middle i with h | h | h
      · exact h
      · rw [← h, hkey, Option.some.injEq] at hi
        exact absurd hi hne
      · have hnot := (strictBefore_of_lt ordered h hi hkey).2
        rw [hle] at hnot
        cases hnot
    exact ih hmiddle hhigh hlength
  | case4 low high hlt middle key hkey hne hle ih =>
    -- The middle key does not come before the target, so the target lies to its left.
    have hmiddle : i < middle := by
      rcases Nat.lt_trichotomy middle i with h | h | h
      · exact absurd (strictBefore_of_lt ordered h hkey hi).1 hle
      · rw [← h, hkey, Option.some.injEq] at hi
        exact absurd hi hne
      · exact h
    exact ih hlow hmiddle (by omega)
  | case5 low high hlt => exact absurd (Nat.lt_of_le_of_lt hlow hhigh) hlt

/-- A search among keys in strict order finds exactly the place of the target. -/
theorem search_iff (ordered : keys.Pairwise (StrictBefore le)) {i : Nat} :
    search le keys target 0 keys.length = some i ↔ keys[i]? = some target := by
  constructor
  · exact search_sound
  · intro hi
    exact search_complete ordered (Nat.zero_le i) (List.getElem?_eq_some_iff.1 hi).1
      (Nat.le_refl _) hi

end Ordered

theorem search_eq_some_iff {keys : List Text} {target : Text}
    (ordered : keys.Pairwise Text.Before) {i : Nat} :
    search Text.le keys target 0 keys.length = some i ↔ keys[i]? = some target :=
  search_iff (ordered.imp fun h => ⟨h.1, h.not_le⟩)

end Plan
end ForeignCall
