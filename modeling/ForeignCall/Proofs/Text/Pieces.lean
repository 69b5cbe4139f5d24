import ForeignCall.Proofs.Text.Blank

/-!
# Cutting texts

Cutting at a separator is undone by joining. The pieces have no separator in them, and no other
pieces without one give the same text.

* `Text.splitOnce_append`: the first separator is the one with none before it.
* `Text.splitAll_join`: pieces that were joined are found again.
* `Text.splitAll_trim`: blanks at the ends of a text are blanks at the ends of its pieces.
-/

namespace ForeignCall.Text

variable {sep : Char} {t : Text}

/-! ## 1. Beginnings -/

theorem stripPrefix?_append (start rest : Text) :
    stripPrefix? start (start ++ rest) = some rest := by
  induction start with
  | nil => rfl
  | cons c start ih =>
    rw [List.cons_append, stripPrefix?, if_pos rfl]
    exact ih

theorem stripPrefix?_eq_some_iff {start rest : Text} :
    stripPrefix? start t = some rest ↔ t = start ++ rest := by
  refine ⟨fun h => ?_, fun h => h ▸ stripPrefix?_append start rest⟩
  induction start generalizing t with
  | nil => exact Option.some.inj h
  | cons a start ih =>
    cases t with
    | nil => simp [stripPrefix?] at h
    | cons c tail =>
      rw [stripPrefix?] at h
      split at h
      · next heq => rw [ih h, heq, List.cons_append]
      · cases h

/-! ## 2. The first separator -/

/-- The first separator is the one with none before it. -/
theorem splitOnce_append {before : Text} (h : sep ∉ before) (after : Text) :
    splitOnce sep (before ++ sep :: after) = some (before, after) := by
  induction before with
  | nil => simp [splitOnce]
  | cons c rest ih =>
    rw [List.mem_cons, not_or] at h
    rw [List.cons_append, splitOnce, if_neg (Ne.symm h.1), ih h.2, Option.map_some]

/-- A text without the separator, or the part before the first and the rest. -/
theorem not_mem_or_exists_split (sep : Char) (t : Text) :
    sep ∉ t ∨ ∃ before after, sep ∉ before ∧ t = before ++ sep :: after := by
  cases h : splitOnce sep t with
  | none =>
    refine .inl fun hmem => ?_
    obtain ⟨before, after, rfl, hbefore⟩ := List.eq_append_cons_of_mem hmem
    rw [splitOnce_append hbefore] at h
    cases h
  | some parts =>
    obtain ⟨ht, hbefore⟩ := splitOnce_eq_some h
    exact .inr ⟨parts.1, parts.2, hbefore, ht⟩

/-! ## 3. All separators -/

/-- Cutting a text is cutting the list of its characters. -/
theorem splitAll_eq_splitOn (sep : Char) (t : Text) : splitAll sep t = t.splitOn sep := by
  induction t with
  | nil => rfl
  | cons c rest ih =>
    rw [splitAll, List.splitOn_cons_eq_if_modifyHead, ih]
    have hne := List.splitOn_ne_nil sep rest
    obtain ⟨piece, more, hpieces⟩ := List.exists_cons_of_ne_nil hne
    simp only [hpieces, beq_iff_eq, consHead, List.modifyHead_cons]

theorem join_eq_intercalate (sep : Text) (pieces : List Text) :
    join sep pieces = sep.intercalate pieces := by
  induction pieces with
  | nil => rfl
  | cons piece rest ih =>
    cases rest with
    | nil => simp [join]
    | cons next more => rw [join, ih, List.intercalate_cons_cons]

theorem subset_join {sep piece : Text} {pieces : List Text} (hpiece : piece ∈ pieces) :
    piece ⊆ join sep pieces := by
  induction pieces with
  | nil => cases hpiece
  | cons first rest ih =>
    intro c hc
    cases rest with
    | nil =>
      rw [List.mem_singleton.1 hpiece] at hc
      exact hc
    | cons next more =>
      rw [join_cons_cons, List.mem_append, List.mem_append]
      rcases List.mem_cons.1 hpiece with rfl | hpiece
      · exact .inl (.inl hc)
      · exact .inr (ih hpiece hc)

/-- The characters of a joined text are those of the separator and of the pieces. -/
theorem mem_of_mem_join {sep : Text} {pieces : List Text} {c : Char} (h : c ∈ join sep pieces) :
    c ∈ sep ∨ ∃ piece ∈ pieces, c ∈ piece := by
  fun_induction join sep pieces with
  | case1 => cases h
  | case2 piece => exact .inr ⟨piece, List.mem_cons_self, h⟩
  | case3 piece next rest ih =>
    rcases List.mem_append.1 h with h | h
    · rcases List.mem_append.1 h with h | h
      · exact .inr ⟨piece, List.mem_cons_self, h⟩
      · exact .inl h
    · exact (ih h).imp_right fun ⟨other, hother, hc⟩ => ⟨other, List.mem_cons_of_mem _ hother, hc⟩

theorem splitAll_of_not_mem (h : sep ∉ t) : splitAll sep t = [t] := by
  rw [splitAll_eq_splitOn, List.splitOn_eq_singleton h]

theorem splitAll_append_sep (s t : Text) :
    splitAll sep (s ++ sep :: t) = splitAll sep s ++ splitAll sep t := by
  rw [splitAll_eq_splitOn, splitAll_eq_splitOn, splitAll_eq_splitOn,
    List.splitOn_append_cons_self]

theorem splitAll_append_cons {piece : Text} (h : sep ∉ piece) (rest : Text) :
    splitAll sep (piece ++ sep :: rest) = piece :: splitAll sep rest := by
  rw [splitAll_eq_splitOn, splitAll_eq_splitOn, List.splitOn_append_cons_self_of_not_mem h]

/-- There is one piece more than there are separators. -/
theorem length_splitAll (sep : Char) (t : Text) : (splitAll sep t).length = t.count sep + 1 := by
  induction t with
  | nil => rfl
  | cons c rest ih =>
    obtain ⟨piece, more, hpieces⟩ := List.exists_cons_of_ne_nil (splitAll_ne_nil sep rest)
    rw [splitAll]
    split
    · next h => rw [List.length_cons, ih, h, List.count_cons_self]
    · next h =>
      rw [List.count_cons_of_ne h, ← ih, hpieces]
      rfl

/-- Pieces that were joined are found again. -/
theorem splitAll_join {pieces : List Text} (hne : pieces ≠ [])
    (h : ∀ piece ∈ pieces, sep ∉ piece) : splitAll sep (join [sep] pieces) = pieces := by
  rw [splitAll_eq_splitOn, join_eq_intercalate, List.splitOn_intercalate sep h hne]

/-- No piece has a separator. -/
theorem not_mem_of_mem_splitAll {piece : Text} (h : piece ∈ splitAll sep t) : sep ∉ piece := by
  induction t generalizing piece with
  | nil =>
    rw [List.mem_singleton.1 h]
    exact List.not_mem_nil
  | cons c rest ih =>
    obtain ⟨first, more, hpieces⟩ := List.exists_cons_of_ne_nil (splitAll_ne_nil sep rest)
    rw [splitAll] at h
    split at h
    · rcases List.mem_cons.1 h with rfl | h
      · exact List.not_mem_nil
      · exact ih h
    · next hne =>
      rw [hpieces, consHead] at h
      rcases List.mem_cons.1 h with rfl | h
      · have hfirst : sep ∉ first := ih (by simp [hpieces])
        simp [hfirst, Ne.symm hne]
      · exact ih (by simp [hpieces, h])

/-! ## 4. Pieces and blanks -/

/-- What has no separator and stands at the end of a text stands at the end of its last piece. -/
theorem exists_splitAll_append {after : Text} (h : sep ∉ after) (t : Text) :
    ∃ pieces last, splitAll sep t = pieces ++ [last] ∧
      splitAll sep (t ++ after) = pieces ++ [last ++ after] := by
  induction t with
  | nil => exact ⟨[], [], rfl, splitAll_of_not_mem h⟩
  | cons c rest ih =>
    obtain ⟨pieces, last, hrest, hafter⟩ := ih
    rw [List.cons_append, splitAll, splitAll, hrest, hafter]
    split
    · exact ⟨[] :: pieces, last, rfl, rfl⟩
    · cases pieces with
      | nil => exact ⟨[], c :: last, rfl, rfl⟩
      | cons piece more => exact ⟨(c :: piece) :: more, last, rfl, rfl⟩

theorem map_trim_splitAll_append {after : Text} (hsep : isBlank sep = false) (h : Blank after)
    (t : Text) : (splitAll sep (t ++ after)).map trim = (splitAll sep t).map trim := by
  obtain ⟨pieces, last, ht, hafter⟩ := exists_splitAll_append (h.not_mem hsep) t
  simp only [ht, hafter, List.map_append, List.map_singleton, trim_append_blank h]

theorem map_trim_splitAll_blank_append {before : Text} (hsep : isBlank sep = false)
    (h : Blank before) (t : Text) :
    (splitAll sep (before ++ t)).map trim = (splitAll sep t).map trim := by
  induction before with
  | nil => rfl
  | cons c rest ih =>
    obtain ⟨hc, hrest⟩ := List.forall_mem_cons.1 h
    have hne : c ≠ sep := by
      rintro rfl
      rw [hc] at hsep
      exact Bool.noConfusion hsep
    obtain ⟨piece, more, hpieces⟩ := List.exists_cons_of_ne_nil (splitAll_ne_nil sep (rest ++ t))
    rw [← ih hrest, List.cons_append, splitAll, if_neg hne, hpieces, consHead, List.map_cons,
      List.map_cons, trim_cons_blank hc]

/-- Blanks at the ends of a text are blanks at the ends of its pieces. -/
theorem splitAll_trim (hsep : isBlank sep = false) (t : Text) :
    (splitAll sep (trim t)).map trim = (splitAll sep t).map trim := by
  obtain ⟨before, after, hbefore, hafter, ht⟩ := padded_trim t
  conv => rhs; rw [ht, map_trim_splitAll_append hsep hafter,
    map_trim_splitAll_blank_append hsep hbefore]

end ForeignCall.Text
