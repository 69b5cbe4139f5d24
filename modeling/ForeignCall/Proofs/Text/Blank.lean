import ForeignCall.Text.Blank
import Mathlib.Data.List.DropRight

/-!
# Blanks around a text

A text that is not blank has one solid part: the blanks around it end where it begins and ends.
Trimming finds that part.

* `Text.trim_eq_iff`: trimming gives a solid text if and only if that text is there, with blanks
  around it.
* `Text.trim_eq_nil_iff`: trimming gives nothing if and only if there are only blanks.
* `Text.Solid.between`: two solid texts make a solid text, whatever stands between them.
-/

namespace ForeignCall.Text

/-- Nothing but blanks. -/
def Blank (t : Text) : Prop := ∀ c ∈ t, isBlank c = true

instance (t : Text) : Decidable (Blank t) :=
  inferInstanceAs (Decidable (∀ c ∈ t, isBlank c = true))

/-- Something that neither begins nor ends with a blank. -/
structure Solid (t : Text) : Prop where
  ne_nil : t ≠ []
  head : ∀ c, t.head? = some c → isBlank c = false
  last : ∀ c, t.getLast? = some c → isBlank c = false

/-- `t` is `part` with blanks around it. -/
def Padded (part t : Text) : Prop :=
  ∃ before after, Blank before ∧ Blank after ∧ t = before ++ part ++ after

/-! ## 1. Blanks -/

section Blanks

variable {s t part : Text}

theorem blank_nil : Blank [] := by simp [Blank]

theorem Blank.append (hs : Blank s) (ht : Blank t) : Blank (s ++ t) :=
  List.forall_mem_append.2 ⟨hs, ht⟩

/-- A character that is not blank is in no blank text. -/
theorem Blank.not_mem (h : Blank t) {c : Char} (hc : isBlank c = false) : c ∉ t := by
  intro hmem
  rw [h c hmem] at hc
  exact Bool.noConfusion hc

theorem Padded.refl (part : Text) : Padded part part :=
  ⟨[], [], blank_nil, blank_nil, by simp⟩

theorem Padded.append_blank (h : Padded part t) (hs : Blank s) : Padded part (t ++ s) := by
  obtain ⟨before, after, hbefore, hafter, rfl⟩ := h
  exact ⟨before, after ++ s, hbefore, hafter.append hs, by simp⟩

theorem Padded.blank_append (h : Padded part t) (hs : Blank s) : Padded part (s ++ t) := by
  obtain ⟨before, after, hbefore, hafter, rfl⟩ := h
  exact ⟨s ++ before, after, hs.append hbefore, hafter, by simp⟩

theorem Padded.subset (h : Padded part t) : part ⊆ t := by
  obtain ⟨before, after, _, _, rfl⟩ := h
  intro c hc
  simp [hc]

end Blanks

/-! ## 2. Solid texts -/

section Solids

variable {s t : Text}

/-- Two solid texts make a solid text, whatever stands between them. -/
theorem Solid.between (hs : Solid s) (ht : Solid t) (middle : Text) :
    Solid (s ++ middle ++ t) where
  ne_nil := by simp [hs.ne_nil]
  head c hc := by
    rw [List.append_assoc, List.head?_append_of_ne_nil _ hs.ne_nil] at hc
    exact hs.head c hc
  last c hc := by
    rw [List.getLast?_append_of_ne_nil _ ht.ne_nil] at hc
    exact ht.last c hc

theorem solid_singleton {c : Char} (h : isBlank c = false) : Solid [c] where
  ne_nil := List.cons_ne_nil c []
  head d hd := by
    cases hd
    exact h
  last d hd := by
    cases hd
    exact h

end Solids

/-! ## 3. Trimming -/

section Trim

variable {part t : Text}

theorem trimStart_of_solid_append (h : Solid part) (after : Text) :
    trimStart (part ++ after) = part ++ after := by
  obtain ⟨c, rest, rfl⟩ := List.exists_cons_of_ne_nil h.ne_nil
  rw [trimStart, List.cons_append, List.dropWhile_cons_of_neg]
  simp [h.head c rfl]

theorem trimEnd_append_blank {after : Text} (h : Blank after) (t : Text) :
    trimEnd (t ++ after) = trimEnd t := by
  rw [trimEnd, List.reverse_append, List.dropWhile_append_of_pos, trimEnd]
  intro c hc
  exact h c (List.mem_reverse.1 hc)

theorem trimEnd_of_solid (h : Solid part) : trimEnd part = part := by
  refine List.rdropWhile_eq_self_iff.2 fun hne hblank => ?_
  rw [h.last _ (List.getLast?_eq_some_getLast hne)] at hblank
  exact Bool.noConfusion hblank

/-- Blanks in front do not matter. -/
theorem trim_blank_append {before : Text} (h : Blank before) (t : Text) :
    trim (before ++ t) = trim t := by
  rw [trim, trimStart, List.dropWhile_append_of_pos h, trim, trimStart]

theorem trim_cons_blank {c : Char} (h : isBlank c = true) (t : Text) : trim (c :: t) = trim t :=
  trim_blank_append (List.forall_mem_singleton.2 h) t

/-- Trimming finds a solid part. -/
theorem Solid.trim_of_padded (h : Solid part) (hpadded : Padded part t) : trim t = part := by
  obtain ⟨before, after, hbefore, hafter, rfl⟩ := hpadded
  rw [List.append_assoc, trim_blank_append hbefore, trim, trimStart_of_solid_append h,
    trimEnd_append_blank hafter, trimEnd_of_solid h]

theorem Solid.trim_eq_self (h : Solid t) : trim t = t := h.trim_of_padded (.refl t)

/-- Trimming takes blanks away. -/
theorem padded_trim (t : Text) : Padded (trim t) t := by
  refine ⟨t.takeWhile isBlank, (trimStart t).rtakeWhile isBlank, ?_, ?_, ?_⟩
  · exact fun c hc => List.mem_takeWhile_imp hc
  · exact fun c hc => List.mem_rtakeWhile_imp hc
  · have hend : trim t ++ (trimStart t).rtakeWhile isBlank = trimStart t :=
      List.rdropWhile_append_rtakeWhile
    rw [List.append_assoc, hend]
    exact List.takeWhile_append_dropWhile.symm

/-- Nothing is left of blanks, and of nothing else. -/
theorem trim_eq_nil_iff : trim t = [] ↔ Blank t := by
  constructor
  · intro h
    obtain ⟨before, after, hbefore, hafter, ht⟩ := padded_trim t
    rw [ht, h, List.append_nil]
    exact hbefore.append hafter
  · intro h
    have hstart : trimStart t = [] := List.dropWhile_eq_nil_iff.2 h
    rw [trim, hstart]
    rfl

/-- Trimming leaves a solid text of what is more than blanks. -/
theorem solid_trim (h : ¬ Blank t) : Solid (trim t) := by
  have hne : trim t ≠ [] := fun hnil => h (trim_eq_nil_iff.1 hnil)
  refine ⟨hne, fun c hc => ?_, fun c hc => ?_⟩
  · obtain ⟨more, hmore⟩ : trim t <+: trimStart t := List.rdropWhile_prefix isBlank (trimStart t)
    have hfirst : (trimStart t).head? = some c := by
      rw [← hmore, List.head?_append_of_ne_nil _ hne, hc]
    have hhead := List.head?_dropWhile_not isBlank t
    rw [trimStart] at hfirst
    rw [hfirst] at hhead
    exact hhead
  · have hlast := List.rdropWhile_last_not isBlank (trimStart t) hne
    rw [List.getLast?_eq_some_getLast hne, Option.some.injEq] at hc
    rw [← hc]
    exact eq_false_of_ne_true hlast

theorem trim_trim (t : Text) : trim (trim t) = trim t := by
  by_cases hblank : Blank t
  · rw [trim_eq_nil_iff.2 hblank]
    rfl
  · exact (solid_trim hblank).trim_eq_self

/-- Blanks at the end do not matter. -/
theorem trim_append_blank {after : Text} (h : Blank after) (t : Text) :
    trim (t ++ after) = trim t := by
  by_cases hblank : Blank t
  · rw [trim_eq_nil_iff.2 (hblank.append h), trim_eq_nil_iff.2 hblank]
  · exact (solid_trim hblank).trim_of_padded ((padded_trim t).append_blank h)

/-- Trimming gives the solid part of a text. -/
theorem trim_eq_iff (hne : part ≠ []) : trim t = part ↔ Solid part ∧ Padded part t := by
  constructor
  · rintro rfl
    exact ⟨solid_trim (mt trim_eq_nil_iff.2 hne), padded_trim t⟩
  · rintro ⟨hsolid, hpadded⟩
    exact hsolid.trim_of_padded hpadded

/-- A text that begins with something else than a blank begins so when it is trimmed. -/
theorem head?_trim_cons {c : Char} (h : isBlank c = false) (rest : Text) :
    (trim (c :: rest)).head? = some c := by
  have hblank : ¬ Blank (c :: rest) := fun hblank => hblank.not_mem h List.mem_cons_self
  obtain ⟨before, after, hbefore, _, ht⟩ := padded_trim (c :: rest)
  cases before with
  | nil =>
    rw [← List.head?_append_of_ne_nil _ (solid_trim hblank).ne_nil, ← List.nil_append (trim _),
      ← ht]
    rfl
  | cons b more =>
    rw [List.cons_append, List.cons_append, List.cons.injEq] at ht
    exact absurd (ht.1 ▸ List.mem_cons_self) (hbefore.not_mem h)

end Trim

end ForeignCall.Text
