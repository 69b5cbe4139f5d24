import ForeignCall.Proofs.Plan.Meaning

/-!
# Which error a description gives

The first name that cannot be planned does not depend on the order of the description. The error
does: sorting keeps signatures of one name in their order, and the types of the first of them are
looked at before the others are found to repeat its name.

* `Description.filter_sorted`: signatures of one name stay in the order of the description.
* `Plan.analyze_eq_error_iff_named`: the error is that of the first signature of the first name that
  cannot be planned.
* `Description.reordered_analyze`: the errors that the orders of a description give. They are one
  error exactly if the signatures of the first bad name have the same fault, and a name with two
  signatures can have two (`fault_order`).
-/

namespace ForeignCall

/-! ## 1. Faults of a signature -/

/-- Why a signature cannot be planned, whatever comes before it. -/
def Signature.fault? (s : Signature) : Option BindError :=
  match planMethod none 0 s with
  | .error e => some e
  | .ok _ => none

/-- The error if planning fails on the name of this signature and meets this signature first. -/
def Signature.fault (s : Signature) : BindError :=
  s.fault?.getD (.duplicateMethod s.name)

section Method

variable {previous : Option Text} {index : Nat} {s : Signature}

theorem fault?_of_planMethod_ok {m : MethodPlan} (h : planMethod previous index s = .ok m) :
    s.fault? = none := by
  obtain ⟨hvalid, _, types, htypes, _⟩ := planMethod_eq_ok_iff.1 h
  have hfirst : planMethod none 0 s = .ok ⟨⟨0⟩, s.name, types.1, types.2⟩ :=
    planMethod_eq_ok_iff.2 ⟨hvalid, by simp, types, htypes, rfl⟩
  rw [Signature.fault?, hfirst]

/-- Where the number of the method plays no part and the name is new, the fault is the own one. -/
theorem fault?_of_planMethod_error {e : BindError} (hnew : previous ≠ some s.name)
    (h : planMethod previous index s = .error e) : s.fault? = some e := by
  have hfirst : planMethod none 0 s = .error e := by
    cases hvalid : isSymbolName s.name with
    | false => rwa [planMethod_of_invalid hvalid] at h ⊢
    | true =>
      rw [planMethod_of_new hvalid hnew] at h
      rw [planMethod_of_new hvalid (by simp)]
      exact map_eq_error_iff.2 (map_eq_error_iff.1 h)
  rw [Signature.fault?, hfirst]

/-- A signature without a fault fails only by repeating the name before it. -/
theorem eq_duplicateMethod_of_planMethod_error {e : BindError} (hvalid : isSymbolName s.name = true)
    (h : planMethod (some s.name) index s = .error e) : e = .duplicateMethod s.name := by
  rw [planMethod_of_duplicate hvalid rfl] at h
  cases h
  rfl

end Method

section Planned

variable {previous : Option Text} {index : Nat} {signatures : List Signature}

theorem fault?_of_planned (h : (planned previous index signatures).2 = none) :
    ∀ s ∈ signatures, s.fault? = none ∧ isSymbolName s.name = true := by
  induction signatures generalizing previous index with
  | nil => simp
  | cons s rest ih =>
    cases hs : planMethod previous index s with
    | error e => simp [planned_cons_of_error hs] at h
    | ok m =>
      rw [planned_cons_of_ok hs] at h
      have hvalid : isSymbolName s.name = true := (planMethod_eq_ok_iff.1 hs).1
      exact List.forall_mem_cons.2 ⟨⟨fault?_of_planMethod_ok hs, hvalid⟩, ih h⟩

/-- After signatures that are planned, planning goes on with the last of their names. -/
theorem planned_append_of_none (h : (planned previous index signatures).2 = none)
    (rest : List Signature) :
    planned previous index (signatures ++ rest) =
      ((planned previous index signatures).1 ++
        (planned ((signatures.map Signature.name).getLast?.or previous)
          (index + signatures.length) rest).1,
        (planned ((signatures.map Signature.name).getLast?.or previous)
          (index + signatures.length) rest).2) := by
  induction signatures generalizing previous index with
  | nil => rfl
  | cons s signatures ih =>
    cases hs : planMethod previous index s with
    | error e => simp [planned_cons_of_error hs] at h
    | ok m =>
      rw [planned_cons_of_ok hs] at h ⊢
      have hlast : ((s :: signatures).map Signature.name).getLast?.or previous =
          (signatures.map Signature.name).getLast?.or (some s.name) := by
        rw [List.map_cons, List.getLast?_cons]
        cases (signatures.map Signature.name).getLast? <;> rfl
      rw [List.cons_append, planned_cons_of_ok hs, ih h, hlast, List.length_cons, Nat.add_assoc,
        Nat.add_comm 1]
      rfl

theorem planned_singleton_eq_some_iff {s : Signature} {e : BindError} :
    (planned previous index [s]).2 = some e ↔ planMethod previous index s = .error e := by
  cases hs : planMethod previous index s with
  | error e' => simp [planned_cons_of_error hs]
  | ok m =>
    rw [planned_cons_of_ok hs]
    simp [planned]

/-- A signature that fails after those that are planned fails with the last of their names. -/
theorem planMethod_error_of_planned {s : Signature} {e : BindError}
    (h : (planned previous index signatures).2 = none)
    (hs : (planned previous index (signatures ++ [s])).2 = some e) :
    planMethod ((signatures.map Signature.name).getLast?.or previous)
      (index + signatures.length) s = .error e := by
  rw [planned_append_of_none h] at hs
  exact planned_singleton_eq_some_iff.1 hs

end Planned

/-! ## 2. Faults of a name -/

namespace Description

variable {d d' : Description} {name : Text}

/-- The signatures with this name, in the order of the description. -/
def named (d : Description) (name : Text) : List Signature :=
  d.signatures.filter (·.name = name)

theorem mem_named {s : Signature} : s ∈ d.named name ↔ s ∈ d.signatures ∧ s.name = name := by
  simp [named]

/-- Sorting keeps signatures of one name in the order of the description. -/
theorem filter_sorted (d : Description) (name : Text) :
    d.sorted.filter (·.name = name) = d.named name := by
  have hle : ∀ a ∈ d.named name, ∀ b ∈ d.named name, Text.le a.name b.name = true := by
    intro a ha b hb
    rw [(mem_named.1 ha).2, (mem_named.1 hb).2]
    simpa using Text.le_total name name
  -- The signatures of a name are in order as they stand, and a stable sort keeps what is in order.
  have hsub : (d.named name).Sublist d.sorted :=
    List.sublist_mergeSort (fun a b c => Text.le_trans a.name b.name c.name)
      (fun a b => Text.le_total a.name b.name) (List.pairwise_of_forall_mem_list hle)
      List.filter_sublist
  have hfilter : (d.named name).filter (·.name = name) = d.named name := by
    rw [named, List.filter_filter]
    simp
  have hlength : (d.sorted.filter (·.name = name)).length = (d.named name).length :=
    (d.sorted_perm.filter _).length_eq
  have hsub' : (d.named name).Sublist (d.sorted.filter (·.name = name)) :=
    hfilter ▸ hsub.filter _
  exact (hsub'.eq_of_length hlength.symm).symm

theorem named_of_sorted_eq {before rest : List Signature} (h : d.sorted = before ++ rest)
    (name : Text) :
    d.named name = before.filter (·.name = name) ++ rest.filter (·.name = name) := by
  rw [← d.filter_sorted, h, List.filter_append]

def Faulty (d : Description) (name : Text) : Prop :=
  2 ≤ (d.named name).length ∨ ∃ s ∈ d.named name, s.fault? ≠ none

/-- The name is the first in order that cannot be planned. -/
structure FirstFaulty (d : Description) (name : Text) : Prop where
  faulty : d.Faulty name
  before : ∀ earlier, Text.Before earlier name → ¬ d.Faulty earlier

theorem FirstFaulty.unique {name' : Text} (h : d.FirstFaulty name) (h' : d.FirstFaulty name') :
    name = name' := by
  by_contra hne
  have htotal : Text.le name name' = true ∨ Text.le name' name = true := by
    simpa using Text.le_total name name'
  rcases htotal with hle | hle
  · exact h'.before name ⟨hle, hne⟩ h.faulty
  · exact h.before name' ⟨hle, Ne.symm hne⟩ h'.faulty

/-- `d'` is `d` with its signatures in another order. -/
structure Reordered (d d' : Description) : Prop where
  name : d.name = d'.name
  signatures : d.signatures.Perm d'.signatures

namespace Reordered

theorem symm (h : d.Reordered d') : d'.Reordered d := ⟨h.name.symm, h.signatures.symm⟩

theorem sameMeaning (h : d.Reordered d') : d.SameMeaning d' where
  name := h.name
  signatures := by
    have hrefl : ∀ specs : List TypeSpec, List.Forall₂ TypeSpec.SameMeaning specs specs :=
      fun specs => List.forall₂_same.2 fun _ _ => rfl
    exact ⟨d'.signatures, h.signatures, List.forall₂_same.2 fun s _ => ⟨rfl, hrefl s.params, rfl⟩⟩

theorem faulty_iff (h : d.Reordered d') : d.Faulty name ↔ d'.Faulty name := by
  have hnamed : (d.named name).Perm (d'.named name) := h.signatures.filter _
  simp only [Faulty, hnamed.length_eq, hnamed.mem_iff]

theorem firstFaulty (h : d.Reordered d') (hfirst : d.FirstFaulty name) : d'.FirstFaulty name where
  faulty := h.faulty_iff.1 hfirst.faulty
  before earlier hbefore hfaulty := hfirst.before earlier hbefore (h.faulty_iff.2 hfaulty)

theorem exists_head {s : Signature} (hs : s ∈ d.signatures) :
    ∃ d', d.Reordered d' ∧ (d'.named s.name).head? = some s := by
  refine ⟨⟨d.name, s :: d.signatures.erase s⟩, ⟨rfl, List.perm_cons_erase hs⟩, ?_⟩
  simp [named]

end Reordered
end Description

/-! ## 3. The error of a description -/

section Ordered

variable {before : List Signature} {name : Text}

theorem filter_name_of_mem {t : Signature} (nodup : (before.map Signature.name).Nodup)
    (ht : t ∈ before) : before.filter (·.name = t.name) = [t] := by
  induction before with
  | nil => cases ht
  | cons s before ih =>
    obtain ⟨hs, nodup⟩ := List.nodup_cons.1 nodup
    rcases List.mem_cons.1 ht with rfl | ht
    · have hrest : before.filter (·.name = t.name) = [] := by
        refine List.filter_eq_nil_iff.2 fun u hu he => hs ?_
        exact (of_decide_eq_true he) ▸ List.mem_map_of_mem hu
      simp [hrest]
    · have hne : s.name ≠ t.name := fun he => hs (he ▸ List.mem_map_of_mem ht)
      simpa [hne] using ih nodup ht

/-- If a name is not the last of names in order up to it, it is none of them. -/
theorem filter_name_of_getLast?_ne (ordered : (before.map Signature.name).Pairwise Text.Before)
    (hle : ∀ t ∈ before, Text.le t.name name = true)
    (hlast : (before.map Signature.name).getLast? ≠ some name) :
    before.filter (·.name = name) = [] := by
  refine List.filter_eq_nil_iff.2 fun t ht he => ?_
  obtain rfl : t.name = name := of_decide_eq_true he
  rcases List.eq_nil_or_concat' before with rfl | ⟨init, last, rfl⟩
  · cases ht
  · rw [List.map_append, List.pairwise_append] at ordered
    rcases List.mem_append.1 ht with ht | ht
    · have hbefore : Text.Before t.name last.name :=
        ordered.2.2 _ (List.mem_map_of_mem ht) _ (by simp)
      have hback := hle last (by simp)
      rw [hbefore.not_le] at hback
      cases hback
    · obtain rfl := List.mem_singleton.1 ht
      exact hlast (by simp)

/-- From a signature on all names are at least its name, so none is an earlier one. -/
theorem filter_name_of_before {s : Signature} {rest : List Signature}
    (sorted : (s :: rest).Pairwise fun a b => Text.le a.name b.name = true)
    (hbefore : Text.Before name s.name) : (s :: rest).filter (·.name = name) = [] := by
  refine List.filter_eq_nil_iff.2 fun t ht he => ?_
  have hle : Text.le s.name t.name = true := by
    rcases List.mem_cons.1 ht with rfl | ht
    · simpa using Text.le_total t.name t.name
    · exact (List.pairwise_cons.1 sorted).1 t ht
  rw [of_decide_eq_true he, hbefore.not_le] at hle
  cases hle

theorem ordered_of_planned (sorted : before.Pairwise fun a b => Text.le a.name b.name = true)
    (h : (planned none 0 before).2 = none) : (before.map Signature.name).Pairwise Text.Before := by
  rw [← planned_symbols_of_none h]
  exact (planned_before sorted (by simp)).1

/-- A name is not faulty if all signatures with it are among those that are planned. -/
theorem not_faulty_of_planned {d : Description}
    (sorted : before.Pairwise fun a b => Text.le a.name b.name = true)
    (h : (planned none 0 before).2 = none)
    (hnamed : d.named name = before.filter (·.name = name)) : ¬ d.Faulty name := by
  have hnodup := Text.nodup_of_before (ordered_of_planned sorted h)
  rintro (htwice | ⟨s, hs, hfault⟩)
  · obtain ⟨s, hs⟩ := List.exists_mem_of_length_pos (Nat.lt_of_lt_of_le Nat.zero_lt_two htwice)
    obtain ⟨hmem, rfl⟩ : s ∈ before ∧ s.name = name := by simpa [hnamed] using hs
    rw [hnamed, filter_name_of_mem hnodup hmem] at htwice
    simp at htwice
  · rw [hnamed] at hs
    exact hfault (fault?_of_planned h s (List.mem_of_mem_filter hs)).1

end Ordered

namespace Plan

variable {d : Description} {p : Plan} {e : BindError}

theorem not_faulty_of_analyze (h : analyze d = .ok p) (name : Text) : ¬ d.Faulty name :=
  not_faulty_of_planned d.sorted_pairwise (analyze_eq_ok_iff.1 h).2 (d.filter_sorted name).symm

/-- If analysis fails, a name is faulty, and the first of these and its first signature decide the
error. -/
theorem exists_firstFaulty_of_analyze (h : analyze d = .error e) :
    ∃ s, (d.named s.name).head? = some s ∧ d.FirstFaulty s.name ∧ s.fault = e := by
  obtain ⟨before, s, after, hsorted, hplanned, hfails⟩ :=
    exists_planned_failure (analyze_eq_error_iff.1 h)
  have hnone : (planned none 0 before).2 = none := congrArg Prod.snd hplanned
  have hpairwise := d.sorted_pairwise
  rw [hsorted, List.pairwise_append] at hpairwise
  obtain ⟨sorted, hrest, hacross⟩ := hpairwise
  have ordered := ordered_of_planned sorted hnone
  have hnamed := Description.named_of_sorted_eq hsorted
  have hearlier : ∀ earlier, Text.Before earlier s.name → ¬ d.Faulty earlier :=
    fun earlier hbefore => not_faulty_of_planned sorted hnone <| by
      rw [hnamed, filter_name_of_before hrest hbefore, List.append_nil]
  have hmethod : planMethod (before.map Signature.name).getLast? (0 + before.length) s =
      .error e := by
    simpa using planMethod_error_of_planned hnone hfails
  by_cases hlast : (before.map Signature.name).getLast? = some s.name
  · obtain ⟨t, ht, hname⟩ := List.mem_map.1 (List.mem_of_getLast? hlast)
    obtain ⟨hfault, hvalid⟩ := fault?_of_planned hnone t ht
    rw [hlast] at hmethod
    have hfirst : d.named s.name = t :: (s :: after).filter (·.name = s.name) := by
      rw [hnamed, ← hname, filter_name_of_mem (Text.nodup_of_before ordered) ht]
      rfl
    refine ⟨t, ?_, ?_, ?_⟩
    · rw [hname, hfirst]
      rfl
    · rw [hname]
      exact ⟨.inl (by simp [hfirst]), hearlier⟩
    · rw [eq_duplicateMethod_of_planMethod_error (hname ▸ hvalid) hmethod, Signature.fault, hfault,
        hname]
      rfl
  · have hnew : before.filter (·.name = s.name) = [] :=
      filter_name_of_getLast?_ne ordered (fun t ht => hacross t ht s List.mem_cons_self) hlast
    have hfault : s.fault? = some e := fault?_of_planMethod_error hlast hmethod
    refine ⟨s, by simp [hnamed, hnew], ⟨.inr ⟨s, by simp [hnamed], by simp [hfault]⟩, hearlier⟩, ?_⟩
    rw [Signature.fault, hfault]
    rfl

/-- The error is that of the first signature of the first name that cannot be planned. -/
theorem analyze_eq_error_iff_named :
    analyze d = .error e ↔
    ∃ s, (d.named s.name).head? = some s ∧ d.FirstFaulty s.name ∧ s.fault = e := by
  refine ⟨exists_firstFaulty_of_analyze, ?_⟩
  rintro ⟨s, hhead, hfirst, rfl⟩
  cases h : analyze d with
  | ok p => exact (not_faulty_of_analyze h s.name hfirst.faulty).elim
  | error e =>
    obtain ⟨t, hhead', hfirst', rfl⟩ := exists_firstFaulty_of_analyze h
    rw [hfirst.unique hfirst', hhead'] at hhead
    cases hhead
    rfl

end Plan

/-! ## 4. Other orders -/

namespace Description

variable {d : Description}

theorem Reordered.analyze_ok_iff {d' : Description} (h : d.Reordered d') {p : Plan} :
    Plan.analyze d' = .ok p ↔ Plan.analyze d = .ok p :=
  ⟨h.symm.sameMeaning.analyze_eq, h.sameMeaning.analyze_eq⟩

/-- The errors of the orders are the faults of the signatures of the first faulty name. -/
theorem exists_reordered_error_iff {e : BindError} :
    (∃ d', d.Reordered d' ∧ Plan.analyze d' = .error e) ↔
    ∃ s ∈ d.signatures, d.FirstFaulty s.name ∧ s.fault = e := by
  constructor
  · rintro ⟨d', h, he⟩
    obtain ⟨s, hhead, hfirst, hfault⟩ := Plan.analyze_eq_error_iff_named.1 he
    have hmem : s ∈ d'.signatures := (mem_named.1 (List.mem_of_head? hhead)).1
    exact ⟨s, h.signatures.mem_iff.2 hmem, h.symm.firstFaulty hfirst, hfault⟩
  · rintro ⟨s, hs, hfirst, hfault⟩
    obtain ⟨d', h, hhead⟩ := Reordered.exists_head hs
    exact ⟨d', h, Plan.analyze_eq_error_iff_named.2 ⟨s, hhead, h.firstFaulty hfirst, hfault⟩⟩

/-- Every order of a description gives the same plan if one of them gives a plan. Otherwise the
orders give as errors the faults of the signatures of the first faulty name, so all orders give one
result exactly if these faults are equal. -/
theorem reordered_analyze (d : Description) :
    (∀ d' p, d.Reordered d' → (Plan.analyze d' = .ok p ↔ Plan.analyze d = .ok p)) ∧
    (∀ e, (∃ d', d.Reordered d' ∧ Plan.analyze d' = .error e) ↔
      ∃ s ∈ d.signatures, d.FirstFaulty s.name ∧ s.fault = e) ∧
    ((∀ d', d.Reordered d' → Plan.analyze d' = Plan.analyze d) ↔
      ∀ s ∈ d.signatures, ∀ t ∈ d.signatures, s.name = t.name → d.FirstFaulty s.name →
        s.fault = t.fault) := by
  refine ⟨fun d' p h => h.analyze_ok_iff, fun e => exists_reordered_error_iff, ?_, ?_⟩
  · intro hsame s hs t ht hname hfirst
    obtain ⟨d', h, he⟩ := exists_reordered_error_iff.2 ⟨s, hs, hfirst, rfl⟩
    obtain ⟨d'', h', he'⟩ := exists_reordered_error_iff.2 ⟨t, ht, hname ▸ hfirst, rfl⟩
    rw [hsame d' h] at he
    rw [hsame d'' h', he] at he'
    exact Except.error.inj he'
  · intro hfaults d' h
    cases hd : Plan.analyze d with
    | ok p => exact h.analyze_ok_iff.2 hd
    | error e =>
      cases hd' : Plan.analyze d' with
      | ok p =>
        rw [h.analyze_ok_iff.1 hd'] at hd
        cases hd
      | error e' =>
        have hrefl : d.Reordered d := ⟨rfl, List.Perm.refl d.signatures⟩
        obtain ⟨s, hs, hfirst, rfl⟩ := exists_reordered_error_iff.1 ⟨d, hrefl, hd⟩
        obtain ⟨t, ht, hfirst', rfl⟩ := exists_reordered_error_iff.1 ⟨d', h, hd'⟩
        rw [hfaults s hs t ht (hfirst.unique hfirst') hfirst]

end Description

/-- A function declared with a type that is unknown, and again with another. -/
def twoFaults : List Signature :=
  [⟨"f", [.named "double"], .known .int32⟩, ⟨"f", [.named "float"], .known .int32⟩]

/-- Two orders of one description give different errors. -/
theorem fault_order :
    (⟨"Two", twoFaults⟩ : Description).Reordered ⟨"Two", twoFaults.reverse⟩ ∧
    Plan.analyze ⟨"Two", twoFaults⟩ =
      .error (.unsupportedType "f" (.param 0) "double") ∧
    Plan.analyze ⟨"Two", twoFaults.reverse⟩ =
      .error (.unsupportedType "f" (.param 0) "float") := by
  have hsorted : (⟨"Two", twoFaults⟩ : Description).sorted = twoFaults :=
    List.mergeSort_of_pairwise (by decide)
  have hsorted' : (⟨"Two", twoFaults.reverse⟩ : Description).sorted = twoFaults.reverse :=
    List.mergeSort_of_pairwise (by decide)
  refine ⟨⟨rfl, twoFaults.reverse_perm.symm⟩, ?_, ?_⟩
  · rw [Plan.analyze_eq_error_iff, hsorted]
    decide
  · rw [Plan.analyze_eq_error_iff, hsorted']
    decide

end ForeignCall
