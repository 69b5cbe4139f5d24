import ForeignCall.Proofs.Plan.Analysis
import ForeignCall.Proofs.Text.Blank
import Mathlib.Data.List.Nodup
import Mathlib.Data.List.Perm.Basic

/-!
# What a description means

A description means its methods with the types they have. In which order the signatures stand and by
which names the types go is no part of the meaning.

* `SemanticType.ofName?_eq_some_iff`: a type goes by each of its names, in any letter case and with
  blanks around it.
* `Description.sorted_eq_of_perm`: if no name stands twice, the order of names leaves no choice.
* `Description.SameMeaning.analyzeWith_eq`: descriptions with the same meaning are planned alike if
  one of them can be planned, and no visitor can tell them apart.
-/

namespace ForeignCall

/-! ## 1. Names of a type -/

/-- A blank is no letter, so it is its own lower case. -/
theorem toLower_of_isBlank {c : Char} (h : isBlank c = true) : c.toLower = c := by
  have hupper : ¬ (c.val ≥ 'A'.val ∧ c.val ≤ 'Z'.val) := by
    rintro ⟨hlow, hhigh⟩
    rw [ge_iff_le, UInt32.le_iff_toNat_le] at hlow
    rw [UInt32.le_iff_toNat_le] at hhigh
    have hA : 'A'.val.toNat = 65 := rfl
    have hZ : 'Z'.val.toNat = 90 := rfl
    simp only [isBlank, Bool.or_eq_true, Bool.and_eq_true, decide_eq_true_eq, beq_iff_eq,
      Char.toNat] at h
    omega
  exact dif_neg hupper

theorem Text.solid_of_solid_lower {t : Text} (h : Solid (lower t)) : Solid t := by
  have hblank : ∀ {c : Char}, isBlank c.toLower = false → isBlank c = false := by
    intro c hc
    rw [Bool.eq_false_iff]
    intro hb
    rw [toLower_of_isBlank hb, hb] at hc
    cases hc
  refine ⟨?_, fun c hc => hblank ?_, fun c hc => hblank ?_⟩
  · rintro rfl
    exact h.ne_nil rfl
  · exact h.head _ (by rw [lower, List.head?_map, hc]; rfl)
  · exact h.last _ (by rw [lower, List.getLast?_map, hc]; rfl)

namespace SemanticType

variable {type : SemanticType} {name : Text}

theorem solid_of_mem_names (h : name ∈ type.names) : Text.Solid name := by
  have hall : ∀ name ∈ type.names,
      name ≠ [] ∧ name.head?.any isBlank = false ∧ name.getLast?.any isBlank = false := by
    cases type <;> decide
  obtain ⟨hne, hhead, hlast⟩ := hall name h
  refine ⟨hne, fun c hc => ?_, fun c hc => ?_⟩
  · simpa [hc] using hhead
  · simpa [hc] using hlast

/-- No name is that of two types. -/
theorem find?_names_of_mem (h : name ∈ type.names) :
    all.find? (·.names.contains name) = some type := by
  cases type <;> simp only [names, List.mem_cons, List.not_mem_nil, or_false] at h
  case int32 => rcases h with rfl | rfl | rfl <;> decide
  case int64 => rcases h with rfl | rfl | rfl <;> decide
  case string => rcases h with rfl | rfl | rfl <;> decide
  case handle => rcases h with rfl | rfl | rfl <;> decide
  case void => subst h; decide

/-- A type goes by each of its names, in any letter case and with blanks around it. -/
theorem ofName?_eq_some_iff :
    ofName? name = some type ↔
    ∃ written, Text.Padded written name ∧ Text.lower written ∈ type.names := by
  constructor
  · intro h
    have hmem := List.find?_some h
    exact ⟨Text.trim name, Text.padded_trim name, by simpa using hmem⟩
  · rintro ⟨written, hpadded, hmem⟩
    have hsolid := Text.solid_of_solid_lower (solid_of_mem_names hmem)
    rw [ofName?, hsolid.trim_of_padded hpadded]
    exact find?_names_of_mem hmem

end SemanticType

/-! ## 2. Signatures with the same meaning -/

/-- The two specifications mean the same type, or both mean none. -/
def TypeSpec.SameMeaning (a b : TypeSpec) : Prop := a.resolve = b.resolve

/-- A name means a type exactly if it spells one of the type's names. -/
theorem TypeSpec.sameMeaning_named_iff {type : SemanticType} {name : Text} :
    SameMeaning (.known type) (.named name) ↔
    ∃ written, Text.Padded written name ∧ Text.lower written ∈ type.names := by
  rw [SameMeaning, resolve, resolve, eq_comm]
  exact SemanticType.ofName?_eq_some_iff

/-- The same name, and types that mean the same. -/
structure Signature.SameMeaning (s s' : Signature) : Prop where
  name : s.name = s'.name
  params : List.Forall₂ TypeSpec.SameMeaning s.params s'.params
  ret : s.ret.SameMeaning s'.ret

/-- Parameters that can be planned can be planned under other spellings, to the same types. -/
theorem planParams_of_sameMeaning {symbol : Text} {specs specs' : List TypeSpec}
    (h : List.Forall₂ TypeSpec.SameMeaning specs specs') {position : Nat}
    {types : List SemanticType} (hp : planParams symbol position specs = .ok types) :
    planParams symbol position specs' = .ok types := by
  induction h generalizing position types with
  | nil => exact hp
  | @cons spec spec' specs specs' hspec _ ih =>
    have hr : spec.resolve = spec'.resolve := hspec
    obtain ⟨type, rest, htype, hparam, hrest, rfl⟩ := planParams_cons_eq_ok_iff.1 hp
    exact planParams_cons_eq_ok_iff.2 ⟨type, rest, hr ▸ htype, hparam, ih hrest, rfl⟩

theorem planTypes_of_sameMeaning {s s' : Signature} (h : s.SameMeaning s')
    {types : List SemanticType × SemanticType} (ht : planTypes s = .ok types) :
    planTypes s' = .ok types := by
  have hret : s.ret.resolve = s'.ret.resolve := h.ret
  obtain ⟨hparams, htype⟩ := planTypes_eq_ok_iff.1 ht
  rw [planTypes_eq_ok_iff, ← h.name, ← hret]
  exact ⟨planParams_of_sameMeaning h.params hparams, htype⟩

theorem planMethod_of_sameMeaning {previous : Option Text} {index : Nat} {s s' : Signature}
    {m : MethodPlan} (h : s.SameMeaning s') (hm : planMethod previous index s = .ok m) :
    planMethod previous index s' = .ok m := by
  obtain ⟨hvalid, hnew, types, htypes, rfl⟩ := planMethod_eq_ok_iff.1 hm
  rw [h.name] at hvalid hnew ⊢
  exact planMethod_eq_ok_iff.2 ⟨hvalid, hnew, types, planTypes_of_sameMeaning h htypes, rfl⟩

/-- Signatures that can all be planned can be planned under other spellings, to the same methods. -/
theorem planned_of_sameMeaning {signatures signatures' : List Signature}
    (h : List.Forall₂ Signature.SameMeaning signatures signatures') {previous : Option Text}
    {index : Nat} (hnone : (planned previous index signatures).2 = none) :
    planned previous index signatures' = planned previous index signatures := by
  induction h generalizing previous index with
  | nil => rfl
  | @cons s s' rest rest' hs _ ih =>
    cases hm : planMethod previous index s with
    | error e => simp [planned_cons_of_error hm] at hnone
    | ok m =>
      rw [planned_cons_of_ok hm] at hnone
      rw [planned_cons_of_ok hm, planned_cons_of_ok (planMethod_of_sameMeaning hs hm), ← hs.name,
        ih hnone]

/-! ## 3. The order of a description -/

theorem Description.sorted_perm (d : Description) : d.sorted.Perm d.signatures :=
  List.mergeSort_perm d.signatures _

/-- If no name stands twice, there is one way to put the signatures in order. -/
theorem Description.sorted_eq_of_perm {d : Description} {signatures : List Signature}
    (hperm : signatures.Perm d.signatures)
    (ordered : (signatures.map Signature.name).Pairwise Text.Before) : d.sorted = signatures := by
  rw [List.pairwise_map] at ordered
  have hnodup : (signatures.map Signature.name).Nodup :=
    List.pairwise_map.2 (ordered.imp And.right)
  refine List.Perm.eq_of_pairwise ?_ d.sorted_pairwise (ordered.imp And.left)
    (d.sorted_perm.trans hperm.symm)
  intro a b ha hb hab hba
  have hmem : a ∈ signatures := hperm.symm.subset (d.sorted_perm.subset ha)
  exact List.inj_on_of_nodup_map hnodup hmem hb (Text.le_antisymm hab hba)

/-- The same name, and up to their order signatures that mean the same. -/
structure Description.SameMeaning (d d' : Description) : Prop where
  name : d.name = d'.name
  signatures : ∃ reordered, d.signatures.Perm reordered ∧
    List.Forall₂ Signature.SameMeaning reordered d'.signatures

theorem map_name_of_sameMeaning {signatures signatures' : List Signature}
    (h : List.Forall₂ Signature.SameMeaning signatures signatures') :
    signatures'.map Signature.name = signatures.map Signature.name := by
  induction h with
  | nil => rfl
  | cons hs _ ih => rw [List.map_cons, List.map_cons, hs.name, ih]

namespace Description.SameMeaning

variable {d d' : Description} {p : Plan}

/-- In the order of names the signatures of a description that can be planned stand opposite those
of any description with the same meaning. -/
theorem sorted (h : d.SameMeaning d') (hp : Plan.analyze d = .ok p) :
    List.Forall₂ Signature.SameMeaning d.sorted d'.sorted := by
  obtain ⟨reordered, hperm, hsame⟩ := h.signatures
  -- The other spellings are put into the order of `d` first; no name stands twice, so that is how
  -- they are sorted.
  obtain ⟨signatures, hsignatures, hperm'⟩ :=
    List.perm_comp_forall₂ (d.sorted_perm.trans hperm) hsame
  have hordered : (signatures.map Signature.name).Pairwise Text.Before := by
    rw [map_name_of_sameMeaning hsignatures, ← Plan.analyze_symbols hp]
    exact (Plan.analyze_wellFormed hp).ordered
  rwa [sorted_eq_of_perm hperm' hordered]

theorem planned_eq (h : d.SameMeaning d') (hp : Plan.analyze d = .ok p) :
    planned none 0 d'.sorted = planned none 0 d.sorted :=
  planned_of_sameMeaning (h.sorted hp) (Plan.analyze_eq_ok_iff.1 hp).2

/-- A visitor is shown the same methods, with the same outcome. -/
theorem analyzeWith_eq (h : d.SameMeaning d') (hp : Plan.analyze d = .ok p) {τ : Type}
    (visit : Visitor τ) (t : τ) : Plan.analyzeWith d' visit t = Plan.analyzeWith d visit t := by
  rw [Plan.analyzeWith_eq, Plan.analyzeWith_eq, h.planned_eq hp, h.name]

theorem analyze_eq (h : d.SameMeaning d') (hp : Plan.analyze d = .ok p) :
    Plan.analyze d' = .ok p := by
  rw [← hp, Plan.analyze, Plan.analyze, h.analyzeWith_eq hp]

end Description.SameMeaning
end ForeignCall
