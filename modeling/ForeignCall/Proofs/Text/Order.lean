import ForeignCall.Text

/-!
# The order of texts

The dictionary order is a linear order, so sorting by it has one outcome up to equal keys.

* `Text.le_total`, `Text.le_trans` and `Text.le_antisymm`: any two texts compare, comparisons chain,
  and texts that compare both ways are equal.
* `Text.Before` is the strict order; `Text.pairwise_before`: what is in order and without repetition
  is in strict order.
-/

namespace ForeignCall

/-! ## 1. Dictionaries -/

section Lex

variable {α : Type} {key : α → Nat}

theorem lexLe_cons_iff {a b : α} {s t : List α} :
    lexLe key (a :: s) (b :: t) = true ↔
    key a < key b ∨ (key a = key b ∧ lexLe key s t = true) := by
  simp [lexLe]

theorem lexLe_total (s t : List α) : lexLe key s t = true ∨ lexLe key t s = true := by
  induction s generalizing t with
  | nil => exact .inl rfl
  | cons a s ih =>
    cases t with
    | nil => exact .inr rfl
    | cons b t =>
      rw [lexLe_cons_iff, lexLe_cons_iff]
      rcases Nat.lt_trichotomy (key a) (key b) with h | h | h
      · exact .inl (.inl h)
      · exact (ih t).imp (fun hs => .inr ⟨h, hs⟩) (fun ht => .inr ⟨h.symm, ht⟩)
      · exact .inr (.inl h)

theorem lexLe_trans {s t u : List α} (hst : lexLe key s t = true) (htu : lexLe key t u = true) :
    lexLe key s u = true := by
  induction s generalizing t u with
  | nil => rfl
  | cons a s ih =>
    cases t with
    | nil => cases hst
    | cons b t =>
      cases u with
      | nil => cases htu
      | cons c u =>
        rw [lexLe_cons_iff] at hst htu ⊢
        rcases hst with hab | ⟨hab, hst⟩
        · rcases htu with hbc | ⟨hbc, _⟩
          · exact .inl (Nat.lt_trans hab hbc)
          · exact .inl (hbc ▸ hab)
        · rcases htu with hbc | ⟨hbc, htu⟩
          · exact .inl (hab ▸ hbc)
          · exact .inr ⟨hab.trans hbc, ih hst htu⟩

theorem lexLe_antisymm (hkey : ∀ a b, key a = key b → a = b) {s t : List α}
    (hst : lexLe key s t = true) (hts : lexLe key t s = true) : s = t := by
  induction s generalizing t with
  | nil =>
    cases t with
    | nil => rfl
    | cons b t => cases hts
  | cons a s ih =>
    cases t with
    | nil => cases hst
    | cons b t =>
      rw [lexLe_cons_iff] at hst hts
      rcases hst with hab | ⟨hab, hst⟩
      · rcases hts with hba | ⟨hba, _⟩ <;> omega
      · rcases hts with hba | ⟨_, hts⟩
        · omega
        · rw [hkey a b hab, ih hst hts]

end Lex

/-! ## 2. Texts -/

namespace Text

theorem le_total (a b : Text) : (le a b || le b a) = true := by
  have h : lexLe Char.toNat a b = true ∨ lexLe Char.toNat b a = true := lexLe_total a b
  simpa [le] using h

theorem le_trans (a b c : Text) (hab : le a b = true) (hbc : le b c = true) : le a c = true :=
  lexLe_trans hab hbc

theorem le_antisymm {a b : Text} (hab : le a b = true) (hba : le b a = true) : a = b :=
  lexLe_antisymm (fun _ _ h => Char.toNat_inj.1 h) hab hba

/-- `a` comes before `b` and differs from it. -/
def Before (a b : Text) : Prop := le a b = true ∧ a ≠ b

theorem Before.not_le {a b : Text} (h : Before a b) : le b a = false := by
  rw [Bool.eq_false_iff]
  intro hba
  exact h.2 (le_antisymm h.1 hba)

theorem Before.trans {a b c : Text} (hab : Before a b) (hbc : Before b c) : Before a c := by
  refine ⟨le_trans a b c hab.1 hbc.1, ?_⟩
  rintro rfl
  exact hab.2 (le_antisymm hab.1 hbc.1)

/-- What is in strict order holds nothing twice. -/
theorem nodup_of_before {keys : List Text} (h : keys.Pairwise Before) : keys.Nodup :=
  h.imp And.right

theorem pairwise_before {keys : List Text} (sorted : keys.Pairwise fun a b => le a b = true)
    (nodup : keys.Nodup) : keys.Pairwise Before :=
  List.Pairwise.and sorted nodup

end Text
end ForeignCall
