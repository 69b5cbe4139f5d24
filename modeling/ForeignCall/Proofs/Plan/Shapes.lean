import ForeignCall.Plan
import ForeignCall.Proofs.Text.Order
import ForeignCall.Table
import Mathlib.Data.List.Basic

/-!
# The order of call shapes

Shapes are ordered by their return layout and then by their parameter layouts from the left. A list
in strict order is known by its members, so the shapes of an interface come in one list, whether
they are put in place one by one or sorted at the end and rid of repetitions.

* `CallShape.before_iff`: the order as the comparison has it.
* `Plan.insertShape_before`, `BindingTable.dedup_before`: both ways lead to strict order.
* `Plan.callShapes_before`, `Plan.mem_callShapes_iff`: the shapes of a plan are in strict order, and
  they are those of its methods.
* `BindingTable.callShapes_eq`: a table of the plan has the same list.
-/

namespace ForeignCall

/-! ## 1. Layouts from the left -/

section Lex

variable {α : Type} {key : α → Nat}

/-- A comparison that fails means strict order the other way round. -/
theorem lexLe_eq_false_iff (hkey : ∀ a b, key a = key b → a = b) {s t : List α} :
    lexLe key t s = false ↔ List.Lex (fun a b => key a < key b) s t := by
  induction s generalizing t with
  | nil =>
    cases t with
    | nil => simp [lexLe]
    | cons b t => simp [lexLe]
  | cons a s ih =>
    cases t with
    | nil => simp [lexLe]
    | cons b t =>
      have hne : (key b = key a) ↔ (a = b) := ⟨fun h => (hkey b a h).symm, fun h => h ▸ rfl⟩
      rw [List.cons_lex_cons_iff, ← ih, ← hne, ← Bool.not_eq_true, lexLe_cons_iff,
        ← Bool.not_eq_true]
      by_cases hlt : key a < key b
      · simp [hlt, Nat.lt_asymm hlt, (Nat.ne_of_lt hlt).symm]
      · by_cases heq : key b = key a
        · simp [heq]
        · have hback : key b < key a := by omega
          simp [hlt, heq, hback]

theorem lexLe_map {β : Type} (f : β → α) (s t : List β) :
    lexLe key (s.map f) (t.map f) = lexLe (fun b => key (f b)) s t := by
  induction s generalizing t with
  | nil => rfl
  | cons a s ih =>
    cases t with
    | nil => rfl
    | cons b t => rw [List.map_cons, List.map_cons, lexLe, lexLe, ih]

end Lex

theorem Layout.rank_injective : Function.Injective Layout.rank := by
  intro a b h
  cases a <;> cases b <;> first | rfl | cases h

/-! ## 2. Shapes -/

namespace CallShape

variable {a b c : CallShape}

/-- `a` comes before `b`: its result has the smaller layout, or the same one, and at the first
difference it has the parameter with the smaller layout or none. -/
def Before (a b : CallShape) : Prop :=
  a.ret.rank < b.ret.rank ∨
    a.ret = b.ret ∧ List.Lex (fun p q : Layout => p.rank < q.rank) a.params b.params

theorem key_injective (h : a.key = b.key) : a = b := by
  obtain ⟨ret, params⟩ := a
  obtain ⟨ret', params'⟩ := b
  simp only [key, List.cons.injEq] at h
  have hparams : params = params' := List.map_injective_iff.2 Layout.rank_injective h.2
  rw [Layout.rank_injective h.1, hparams]

theorem le_total (a b : CallShape) : (le a b || le b a) = true := by
  have h : lexLe id a.key b.key = true ∨ lexLe id b.key a.key = true := lexLe_total a.key b.key
  simpa [le] using h

theorem le_trans (a b c : CallShape) (hab : le a b = true) (hbc : le b c = true) :
    le a c = true :=
  lexLe_trans hab hbc

theorem le_antisymm (hab : le a b = true) (hba : le b a = true) : a = b :=
  key_injective (lexLe_antisymm (fun _ _ h => h) hab hba)

theorem le_eq_false_iff : le b a = false ↔ Before a b := by
  have hid : ∀ m n : Nat, id m = id n → m = n := fun _ _ h => h
  have hret : a.ret.rank = b.ret.rank ↔ a.ret = b.ret := Layout.rank_injective.eq_iff
  have hparams : List.Lex (fun m n => id m < id n) (a.params.map Layout.rank)
      (b.params.map Layout.rank) ↔
      List.Lex (fun p q : Layout => p.rank < q.rank) a.params b.params := by
    rw [← lexLe_eq_false_iff hid, lexLe_map]
    exact lexLe_eq_false_iff fun _ _ h => Layout.rank_injective h
  rw [le, lexLe_eq_false_iff hid, key, key, List.cons_lex_cons_iff, hret, hparams]
  rfl

/-- Strict order is the comparison without equality. -/
theorem before_iff : Before a b ↔ le a b = true ∧ a ≠ b := by
  rw [← le_eq_false_iff]
  have htotal := le_total a b
  constructor
  · intro hnot
    rw [hnot, Bool.or_false] at htotal
    refine ⟨htotal, ?_⟩
    rintro rfl
    rw [htotal] at hnot
    cases hnot
  · rintro ⟨hle, hne⟩
    rw [← Bool.not_eq_true]
    exact fun hback => hne (le_antisymm hle hback)

theorem Before.trans (hab : Before a b) (hbc : Before b c) : Before a c := by
  rw [before_iff] at hab hbc ⊢
  refine ⟨le_trans a b c hab.1 hbc.1, ?_⟩
  rintro rfl
  exact hab.2 (le_antisymm hab.1 hbc.1)

/-- Lists in strict order with the same members are equal. -/
theorem eq_of_before {shapes shapes' : List CallShape} (h : shapes.Pairwise Before)
    (h' : shapes'.Pairwise Before) (hmem : ∀ s, s ∈ shapes ↔ s ∈ shapes') : shapes = shapes' := by
  have hnodup : ∀ {l : List CallShape}, l.Pairwise Before → l.Nodup :=
    fun hl => hl.imp fun hab => (before_iff.1 hab).2
  have hperm := (List.perm_ext_iff_of_nodup (hnodup h) (hnodup h')).2 hmem
  refine hperm.eq_of_pairwise (fun a b _ _ hab hba => ?_) h h'
  exact le_antisymm (before_iff.1 hab).1 (before_iff.1 hba).1

end CallShape

/-! ## 3. The shapes of a plan -/

namespace Plan

variable {s t : CallShape} {shapes : List CallShape}

theorem mem_insertShape_iff : t ∈ insertShape s shapes ↔ t = s ∨ t ∈ shapes := by
  induction shapes with
  | nil => simp [insertShape]
  | cons first rest ih =>
    rw [insertShape]
    split
    · next heq =>
      rw [heq, List.mem_cons]
      exact (or_iff_right_of_imp .inl).symm
    · split
      · exact List.mem_cons
      · rw [List.mem_cons, ih, List.mem_cons]
        exact or_left_comm

theorem insertShape_before (h : shapes.Pairwise CallShape.Before) :
    (insertShape s shapes).Pairwise CallShape.Before := by
  induction shapes with
  | nil => exact List.pairwise_singleton _ _
  | cons first rest ih =>
    obtain ⟨hfirst, hrest⟩ := List.pairwise_cons.1 h
    rw [insertShape]
    split
    · exact h
    · next hne =>
      split
      · next hle =>
        have hs : s.Before first := CallShape.before_iff.2 ⟨hle, hne⟩
        refine List.pairwise_cons.2 ⟨fun u hu => ?_, h⟩
        rcases List.mem_cons.1 hu with rfl | hu
        · exact hs
        · exact hs.trans (hfirst u hu)
      · next hle =>
        refine List.pairwise_cons.2 ⟨fun u hu => ?_, ih hrest⟩
        rcases mem_insertShape_iff.1 hu with rfl | hu
        · exact CallShape.le_eq_false_iff.1 (Bool.not_eq_true _ ▸ hle)
        · exact hfirst u hu

/-- Putting the shapes of methods in place keeps the order and adds just these shapes. -/
theorem foldl_insertShape (methods : List MethodPlan) (h : shapes.Pairwise CallShape.Before) :
    (methods.foldl (fun shapes m => insertShape m.shape shapes) shapes).Pairwise
      CallShape.Before ∧
    ∀ t, t ∈ methods.foldl (fun shapes m => insertShape m.shape shapes) shapes ↔
      t ∈ shapes ∨ t ∈ methods.map MethodPlan.shape := by
  induction methods generalizing shapes with
  | nil => exact ⟨h, by simp⟩
  | cons m rest ih =>
    obtain ⟨hbefore, hmem⟩ := ih (insertShape_before (s := m.shape) h)
    refine ⟨hbefore, fun t => ?_⟩
    rw [List.foldl_cons, hmem, mem_insertShape_iff, List.map_cons, List.mem_cons]
    exact or_assoc.trans or_left_comm

variable {p : Plan}

theorem callShapes_before (p : Plan) : p.callShapes.Pairwise CallShape.Before :=
  (foldl_insertShape p.methods List.Pairwise.nil).1

theorem mem_callShapes_iff : t ∈ p.callShapes ↔ t ∈ p.methods.map MethodPlan.shape := by
  rw [callShapes, (foldl_insertShape p.methods List.Pairwise.nil).2]
  simp

end Plan

/-! ## 4. The shapes of a table -/

namespace BindingTable

variable {t : CallShape} {shapes : List CallShape}

theorem mem_dedup_iff : t ∈ dedup shapes ↔ t ∈ shapes := by
  fun_induction dedup shapes with
  | case1 => rfl
  | case2 => rfl
  | case3 first rest ih =>
    rw [ih]
    simp
  | case4 first next rest hne ih => rw [List.mem_cons, ih, ← List.mem_cons]

/-- In order, repetitions stand together, so nothing is left of them. -/
theorem dedup_before (h : shapes.Pairwise fun a b => CallShape.le a b = true) :
    (dedup shapes).Pairwise CallShape.Before := by
  fun_induction dedup shapes with
  | case1 => exact List.Pairwise.nil
  | case2 => exact List.pairwise_singleton _ _
  | case3 first rest ih => exact ih (List.pairwise_cons.1 h).2
  | case4 first next rest hne ih =>
    obtain ⟨hfirst, hrest⟩ := List.pairwise_cons.1 h
    refine List.pairwise_cons.2 ⟨fun u hu => ?_, ih hrest⟩
    have hnext : CallShape.Before first next :=
      CallShape.before_iff.2 ⟨hfirst next List.mem_cons_self, hne⟩
    rcases List.mem_cons.1 (mem_dedup_iff.1 hu) with rfl | hu
    · exact hnext
    · -- A shape further on is no smaller than the next one, so it cannot be the first again.
      refine CallShape.before_iff.2 ⟨hfirst u (List.mem_cons_of_mem _ hu), ?_⟩
      rintro rfl
      have hback := (List.pairwise_cons.1 hrest).1 first hu
      exact hne (CallShape.le_antisymm (hfirst next List.mem_cons_self) hback)

theorem callShapes_eq {p : Plan} {t : BindingTable}
    (ht : t.methods.map MethodBinding.plan = p.methods) : t.callShapes = p.callShapes := by
  have hshapes : t.methods.map (·.plan.shape) = p.methods.map MethodPlan.shape := by
    rw [← ht, List.map_map]
    rfl
  rw [callShapes, hshapes]
  refine CallShape.eq_of_before (dedup_before ?_) p.callShapes_before fun s => ?_
  · exact List.pairwise_mergeSort CallShape.le_trans CallShape.le_total _
  · rw [mem_dedup_iff, List.mem_mergeSort, Plan.mem_callShapes_iff]

end BindingTable
end ForeignCall
