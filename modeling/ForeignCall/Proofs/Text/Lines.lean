import ForeignCall.Proofs.Text.Pieces
import ForeignCall.Text.Lines

/-!
# Lines of a text

A text begins with a line and goes on with the lines of what follows its first line feed.

* `Text.lines_cons`: the first line of a text and the others.
* `Text.lines_join`: lines joined by line feeds are found again, if none is empty or ends with a
  carriage return.
* `Text.exists_prefix_lines`: the first lines of a text are the lines of a beginning of it.
* `Text.LineStart` and `Text.LineEnd` are the places where a line can be put in or changed.
-/

namespace ForeignCall.Text

/-! ## 1. Line by line -/

/-- A line, its end, and the lines after it. -/
theorem lines_cons {line : Text} (h : '\n' ∉ line) (rest : Text) :
    lines (line ++ '\n' :: rest) = dropReturn line :: lines rest := by
  obtain ⟨piece, more, hpieces⟩ := List.exists_cons_of_ne_nil (splitAll_ne_nil '\n' rest)
  rw [lines, splitAll_append_cons h, lines, hpieces, closeLines]

/-- A last line without an end. -/
theorem lines_of_not_mem {line : Text} (h : '\n' ∉ line) (hne : line ≠ []) :
    lines line = [line] := by
  rw [lines, splitAll_of_not_mem h, closeLines, if_neg hne]

theorem dropReturn_subset (line : Text) : dropReturn line ⊆ line := by
  fun_induction dropReturn line with
  | case1 => exact List.Subset.refl _
  | case2 => exact List.nil_subset _
  | case3 => exact List.Subset.refl _
  | case4 c d rest ih => exact List.cons_subset_cons c ih

/-- Only a carriage return at the end is dropped. -/
theorem eq_dropReturn_or (line : Text) :
    line = dropReturn line ∨ line = dropReturn line ++ ['\r'] := by
  fun_induction dropReturn line with
  | case1 => exact .inl rfl
  | case2 => exact .inr rfl
  | case3 => exact .inl rfl
  | case4 c d rest ih => exact ih.imp (congrArg (c :: ·)) (congrArg (c :: ·))

/-- A carriage return is a blank. -/
theorem trim_dropReturn (line : Text) : trim (dropReturn line) = trim line := by
  have hblank : Blank ['\r'] := List.forall_mem_singleton.2 (by decide)
  rcases eq_dropReturn_or line with h | h
  · rw [← h]
  · conv => rhs; rw [h, trim_append_blank hblank]

/-- What ends with another character keeps it. -/
theorem dropReturn_of_getLast {line : Text} (h : line.getLast? ≠ some '\r') :
    dropReturn line = line := by
  fun_induction dropReturn line with
  | case1 => rfl
  | case2 => exact absurd rfl h
  | case3 => rfl
  | case4 c d rest ih =>
    rw [List.getLast?_cons_cons] at h
    rw [ih h]

theorem not_mem_of_mem_closeLines {pieces : List Text} {line : Text}
    (h : ∀ piece ∈ pieces, '\n' ∉ piece) (hline : line ∈ closeLines pieces) : '\n' ∉ line := by
  fun_induction closeLines pieces with
  | case1 => cases hline
  | case2 => cases hline
  | case3 => exact h line hline
  | case4 piece next rest ih =>
    obtain ⟨hpiece, hrest⟩ := List.forall_mem_cons.1 h
    rcases List.mem_cons.1 hline with rfl | hline
    · exact fun hmem => hpiece (dropReturn_subset piece hmem)
    · exact ih hrest hline

/-- No line has a line feed. -/
theorem not_mem_of_mem_lines {t line : Text} (h : line ∈ lines t) : '\n' ∉ line :=
  not_mem_of_mem_closeLines (fun _ hpiece => not_mem_of_mem_splitAll hpiece) h

/-! ## 2. Joining -/

/-- Lines joined by line feeds are found again. -/
theorem lines_join {ls : List Text} (hfeed : ∀ line ∈ ls, '\n' ∉ line)
    (hne : ∀ line ∈ ls, line ≠ []) (hreturn : ∀ line ∈ ls, line.getLast? ≠ some '\r') :
    lines (join ['\n'] ls) = ls := by
  induction ls with
  | nil => rfl
  | cons line rest ih =>
    obtain ⟨hline, hlines⟩ := List.forall_mem_cons.1 hfeed
    obtain ⟨hfull, hfulls⟩ := List.forall_mem_cons.1 hne
    obtain ⟨hend, hends⟩ := List.forall_mem_cons.1 hreturn
    cases rest with
    | nil => exact lines_of_not_mem hline hfull
    | cons next more =>
      rw [join_cons_cons, List.append_assoc, List.singleton_append, lines_cons hline,
        dropReturn_of_getLast hend, ih hlines hfulls hends]

/-- Lines with a line feed after each are found again. -/
theorem lines_flatMap {ls : List Text} (hfeed : ∀ line ∈ ls, '\n' ∉ line)
    (hreturn : ∀ line ∈ ls, line.getLast? ≠ some '\r') :
    lines (ls.flatMap (· ++ ['\n'])) = ls := by
  induction ls with
  | nil => rfl
  | cons line rest ih =>
    obtain ⟨hline, hlines⟩ := List.forall_mem_cons.1 hfeed
    obtain ⟨hend, hends⟩ := List.forall_mem_cons.1 hreturn
    rw [List.flatMap_cons, List.append_assoc, List.singleton_append, lines_cons hline,
      dropReturn_of_getLast hend, ih hlines hends]

/-! ## 3. Beginnings -/

/-- The first lines of a text are the lines of a beginning of it. -/
theorem exists_prefix_lines (n : Nat) (t : Text) :
    ∃ start, start <+: t ∧ lines start = (lines t).take n := by
  induction n generalizing t with
  | zero => exact ⟨[], List.nil_prefix, rfl⟩
  | succ n ih =>
    rcases not_mem_or_exists_split '\n' t with hmem | ⟨line, rest, hline, rfl⟩
    · by_cases hne : t = []
      · exact ⟨[], List.nil_prefix, by rw [hne]; rfl⟩
      · refine ⟨t, List.prefix_rfl, ?_⟩
        rw [lines_of_not_mem hmem hne, List.take_succ_cons, List.take_nil]
    · obtain ⟨start, ⟨more, hmore⟩, hstart⟩ := ih rest
      refine ⟨line ++ '\n' :: start, ⟨more, by simp [← hmore]⟩, ?_⟩
      rw [lines_cons hline, lines_cons hline, List.take_succ_cons, hstart]

/-! ## 4. Places in a text -/

/-- After this text a line begins. -/
def LineStart (before : Text) : Prop := before = [] ∨ ∃ t, before = t ++ ['\n']

/-- Before this text a line ends. -/
def LineEnd (after : Text) : Prop := after = [] ∨ ∃ t, after = '\n' :: t

/-- What is written where a line begins leaves the pieces before it as they are. -/
theorem LineStart.exists_splitAll {before : Text} (h : LineStart before) :
    ∃ pieces, pieces.length = before.count '\n' ∧
      ∀ more, splitAll '\n' (before ++ more) = pieces ++ splitAll '\n' more := by
  rcases h with rfl | ⟨t, rfl⟩
  · exact ⟨[], rfl, fun _ => rfl⟩
  · refine ⟨splitAll '\n' t, ?_, fun more => ?_⟩
    · rw [length_splitAll, List.count_append]
      rfl
    · rw [List.append_assoc, List.singleton_append, splitAll_append_sep]

/-- What is written where a line ends leaves the pieces after it as they are. -/
theorem LineEnd.exists_splitAll {after : Text} (h : LineEnd after) :
    ∃ pieces, ∀ line, '\n' ∉ line → splitAll '\n' (line ++ after) = line :: pieces := by
  rcases h with rfl | ⟨t, rfl⟩
  · exact ⟨[], fun line hline => by rw [List.append_nil, splitAll_of_not_mem hline]⟩
  · exact ⟨splitAll '\n' t, fun line hline => splitAll_append_cons hline t⟩

end ForeignCall.Text
