import ForeignCall.Proofs.Fallible
import ForeignCall.Proofs.Text.Pieces
import ForeignCall.Signature.File
import Mathlib.Data.List.Forall2

/-!
# The grammar of a signature line

A line reads `name : ( types ) -> type`, with blanks anywhere between these parts. A name has no
colon and a list of types no closing bracket; apart from that they are any text that is not blank.

* `SignatureLine` is the grammar, `parseLine_trim_eq_ok_iff` says that reading a line follows it.
* `isSkipped_trim_iff`: a line is skipped if it is blank or a comment.
-/

namespace ForeignCall

open Text (Blank Solid Padded)

/-! ## 1. The grammar -/

/-- A type between commas, with blanks around it. -/
inductive ParamText : Text → TypeSpec → Prop
  | intro {piece type : Text} :
      ',' ∉ piece → Solid type → Padded type piece → ParamText piece (.named type)

inductive ParamList : Text → List TypeSpec → Prop
  | blank {list : Text} : Blank list → ParamList list []
  | pieces {pieces : List Text} {types : List TypeSpec} :
      pieces ≠ [] → List.Forall₂ ParamText pieces types → ParamList (Text.join [','] pieces) types

inductive SignatureLine : Text → Signature → Prop
  | intro {name nameText gap list gap' ret retText : Text} {params : List TypeSpec} :
      ':' ∉ nameText → Solid name → Padded name nameText →
      Blank gap →
      ')' ∉ list → ParamList list params →
      Blank gap' →
      Solid ret → Padded ret retText →
      SignatureLine
        (nameText ++ ':' :: (gap ++ '(' :: (list ++ ')' :: (gap' ++ '-' :: '>' :: retText))))
        ⟨name, params, .named ret⟩

/-- A line that says nothing: a blank one or a comment. -/
inductive Skipped : Text → Prop
  | blank {line : Text} : Blank line → Skipped line
  | comment {before rest : Text} : Blank before → Skipped (before ++ '#' :: rest)

/-! ## 2. Lists of types -/

section Params

variable {pieces : List Text} {list : Text} {types : List TypeSpec}

theorem parseParams_eq_ok_iff (position : Nat) :
    parseParams position pieces = .ok types ↔
      List.Forall₂ (fun piece type => Text.trim piece ≠ [] ∧ type = .named (Text.trim piece))
        pieces types := by
  induction pieces generalizing position types with
  | nil =>
    rw [parseParams, Except.ok.injEq, List.forall₂_nil_left_iff]
    exact eq_comm
  | cons piece rest ih =>
    by_cases h : Text.trim piece = []
    · simp [parseParams, h, List.forall₂_cons_left_iff]
    · simp only [parseParams, h, if_false, map_eq_ok_iff, ih, List.forall₂_cons_left_iff]
      constructor
      · rintro ⟨types, hrest, rfl⟩
        exact ⟨_, types, ⟨h, rfl⟩, hrest, rfl⟩
      · rintro ⟨_, types, ⟨_, rfl⟩, hrest, rfl⟩
        exact ⟨types, hrest, rfl⟩

/-- Reading pieces sees only what is left of them when they are trimmed. -/
theorem parseParams_map_trim (position : Nat) (pieces : List Text) :
    parseParams position (pieces.map Text.trim) = parseParams position pieces := by
  induction pieces generalizing position with
  | nil => rfl
  | cons piece rest ih => rw [List.map_cons, parseParams, parseParams, ih, Text.trim_trim]

theorem paramText_iff {piece : Text} {type : TypeSpec} :
    ParamText piece type ↔
      ',' ∉ piece ∧ Text.trim piece ≠ [] ∧ type = .named (Text.trim piece) := by
  constructor
  · rintro ⟨hcomma, hsolid, hpadded⟩
    have htrim := hsolid.trim_of_padded hpadded
    rw [htrim]
    exact ⟨hcomma, hsolid.ne_nil, rfl⟩
  · rintro ⟨hcomma, hne, rfl⟩
    obtain ⟨hsolid, hpadded⟩ := (Text.trim_eq_iff hne).1 rfl
    exact .intro hcomma hsolid hpadded

/-- The types between the commas of a list. -/
theorem parseParams_splitAll_eq_ok_iff (position : Nat) :
    parseParams position (Text.splitAll ',' list) = .ok types ↔
      List.Forall₂ ParamText (Text.splitAll ',' list) types := by
  have hcomma : ∀ piece ∈ Text.splitAll ',' list, ',' ∉ piece :=
    fun piece => Text.not_mem_of_mem_splitAll
  rw [parseParams_eq_ok_iff]
  constructor
  · intro h
    exact ((List.forall₂_and_left _ _).2 ⟨hcomma, h⟩).imp fun _ _ => paramText_iff.2
  · intro h
    exact h.imp fun _ _ hpiece => (paramText_iff.1 hpiece).2

theorem not_blank_join (hne : pieces ≠ []) (htypes : List.Forall₂ ParamText pieces types) :
    ¬ Blank (Text.join [','] pieces) := by
  cases htypes with
  | nil => exact absurd rfl hne
  | cons hpiece _ =>
    intro hblank
    refine (paramText_iff.1 hpiece).2.1 (Text.trim_eq_nil_iff.2 fun c hc => hblank c ?_)
    exact Text.subset_join List.mem_cons_self hc

/-- Reading a list of types follows the grammar. -/
theorem parseParamList_eq_ok_iff : parseParamList list = .ok types ↔ ParamList list types := by
  by_cases hblank : Blank list
  · rw [parseParamList, Text.trim_eq_nil_iff.2 hblank, if_pos rfl, Except.ok.injEq]
    constructor
    · rintro rfl
      exact .blank hblank
    · intro h
      cases h with
      | blank => rfl
      | pieces hne htypes => exact absurd hblank (not_blank_join hne htypes)
  · have hcut : parseParams 0 (Text.splitAll ',' (Text.trim list)) =
        parseParams 0 (Text.splitAll ',' list) := by
      rw [← parseParams_map_trim, Text.splitAll_trim (by decide), parseParams_map_trim]
    rw [parseParamList, if_neg (mt Text.trim_eq_nil_iff.1 hblank), hcut,
      parseParams_splitAll_eq_ok_iff]
    constructor
    · intro h
      rw [← Text.join_splitAll ',' list]
      exact .pieces (Text.splitAll_ne_nil ',' list) h
    · intro h
      cases h with
      | blank h => exact absurd h hblank
      | @pieces pieces _ hne htypes =>
        have hcomma : ∀ piece ∈ pieces, ',' ∉ piece :=
          ((List.forall₂_and_left _ _).1 (htypes.imp fun _ _ => paramText_iff.1)).1
        rwa [Text.splitAll_join hne hcomma]

end Params

/-! ## 3. Lines -/

section Lines

variable {line : Text} {s : Signature}

/-- What the steps of reading a line find. -/
theorem parseLine_steps :
    parseLine line = .ok s ↔
      ∃ nameText rest, Text.splitOnce ':' line = some (nameText, rest) ∧ Text.trim nameText ≠ [] ∧
      ∃ opened, Text.trim rest = '(' :: opened ∧
      ∃ list closed, Text.splitOnce ')' opened = some (list, closed) ∧
      ∃ retText, Text.trim closed = '-' :: '>' :: retText ∧ Text.trim retText ≠ [] ∧
      ∃ params, parseParamList list = .ok params ∧
        ⟨Text.trim nameText, params, .named (Text.trim retText)⟩ = s := by
  have hopening : ("(" : Text) = ['('] := rfl
  have harrow : ("->" : Text) = ['-', '>'] := rfl
  simp only [parseLine, bind_eq_ok_iff, orError_eq_ok_iff, guard_eq_ok_iff, pure_eq_ok_iff,
    Prod.exists, hopening, harrow, Text.stripPrefix?_eq_some_iff, List.cons_append,
    List.nil_append]

/-- A signature that was read is there. -/
theorem signatureLine_of_parseLine (h : parseLine line = .ok s) : SignatureLine line s := by
  obtain ⟨nameText, rest, hcolon, hname, opened, hrest, list, closed, hbracket, retText, hclosed,
    hret, params, hparams, rfl⟩ := parseLine_steps.1 h
  obtain ⟨rfl, hfirstColon⟩ := Text.splitOnce_eq_some hcolon
  obtain ⟨rfl, hfirstBracket⟩ := Text.splitOnce_eq_some hbracket
  obtain ⟨hnameSolid, hnamePadded⟩ := (Text.trim_eq_iff hname).1 rfl
  obtain ⟨hretSolid, hretPadded⟩ := (Text.trim_eq_iff hret).1 rfl
  -- What was trimmed away goes back where it was: into the gaps and behind the return type.
  obtain ⟨gap, after, hgap, hafter, hrest'⟩ := Text.padded_trim rest
  obtain ⟨gap', after', hgap', hafter', hclosed'⟩ := Text.padded_trim closed
  have hline := SignatureLine.intro hfirstColon hnameSolid hnamePadded hgap hfirstBracket
    (parseParamList_eq_ok_iff.1 hparams) hgap' hretSolid
    ((hretPadded.append_blank hafter').append_blank hafter)
  rw [hrest', hrest, hclosed', hclosed]
  simpa using hline

theorem SignatureLine.blank_append {before : Text} (hbefore : Blank before)
    (h : SignatureLine line s) : SignatureLine (before ++ line) s := by
  cases h with
  | intro hcolon hname hnamePadded hgap hbracket hlist hgap' hret hretPadded =>
    rw [← List.append_assoc]
    refine .intro ?_ hname (hnamePadded.blank_append hbefore) hgap hbracket hlist hgap' hret
      hretPadded
    rw [List.mem_append, not_or]
    exact ⟨hbefore.not_mem (by decide), hcolon⟩

theorem SignatureLine.append_blank {after : Text} (hafter : Blank after)
    (h : SignatureLine line s) : SignatureLine (line ++ after) s := by
  cases h with
  | intro hcolon hname hnamePadded hgap hbracket hlist hgap' hret hretPadded =>
    have hline := SignatureLine.intro hcolon hname hnamePadded hgap hbracket hlist hgap' hret
      (hretPadded.append_blank hafter)
    simpa using hline

/-- A signature that is there is read. -/
theorem SignatureLine.parseLine_trim (h : SignatureLine line s) :
    parseLine (Text.trim line) = .ok s := by
  cases h with
  | @intro name nameText gap list gap' ret retText params hcolon hname hnamePadded hgap hbracket
      hlist hgap' hret hretPadded =>
    obtain ⟨before, between, hbefore, hbetween, rfl⟩ := hnamePadded
    obtain ⟨between', after, hbetween', hafter, rfl⟩ := hretPadded
    have hcolon' : ':' ∉ name ++ between := fun hmem => hcolon (by
      rw [List.append_assoc]
      exact List.mem_append_right before hmem)
    -- Each trim leaves what stands between two solid texts, the second being the return type.
    have hclosed : Text.trim (gap' ++ '-' :: '>' :: (between' ++ ret)) =
        '-' :: '>' :: (between' ++ ret) :=
      ((Text.solid_singleton (by decide)).between hret ('>' :: between')).trim_of_padded
        ⟨gap', [], hgap', Text.blank_nil, by simp⟩
    have hrest : Text.trim (gap ++ '(' :: (list ++ ')' :: (gap' ++ '-' :: '>' ::
        (between' ++ ret)))) =
        '(' :: (list ++ ')' :: (gap' ++ '-' :: '>' :: (between' ++ ret))) := by
      have hsolid := (Text.solid_singleton (c := '(') (by decide)).between hret
        (list ++ ')' :: (gap' ++ '-' :: '>' :: between'))
      simpa using hsolid.trim_of_padded ⟨gap, [], hgap, Text.blank_nil, rfl⟩
    have hline : Text.trim (before ++ name ++ between ++ ':' :: (gap ++ '(' :: (list ++ ')' ::
        (gap' ++ '-' :: '>' :: (between' ++ ret ++ after))))) =
        (name ++ between) ++ ':' :: (gap ++ '(' :: (list ++ ')' ::
        (gap' ++ '-' :: '>' :: (between' ++ ret)))) := by
      have hsolid := hname.between hret (between ++ ':' :: (gap ++ '(' :: (list ++ ')' ::
        (gap' ++ '-' :: '>' :: between'))))
      simpa using hsolid.trim_of_padded ⟨before, after, hbefore, hafter, rfl⟩
    rw [hline]
    refine parseLine_steps.2 ⟨_, _, Text.splitOnce_append hcolon' _, ?_, _, hrest, list, _,
      Text.splitOnce_append hbracket _, _, hclosed, ?_, params,
      parseParamList_eq_ok_iff.2 hlist, ?_⟩
    · rw [Text.trim_append_blank hbetween, hname.trim_eq_self]
      exact hname.ne_nil
    · rw [Text.trim_blank_append hbetween', hret.trim_eq_self]
      exact hret.ne_nil
    · rw [Text.trim_append_blank hbetween, hname.trim_eq_self,
        Text.trim_blank_append hbetween', hret.trim_eq_self]

/-- Reading a line, without the blanks at its ends, follows the grammar. -/
theorem parseLine_trim_eq_ok_iff : parseLine (Text.trim line) = .ok s ↔ SignatureLine line s := by
  refine ⟨fun h => ?_, SignatureLine.parseLine_trim⟩
  obtain ⟨before, after, hbefore, hafter, hline⟩ := Text.padded_trim line
  rw [hline]
  exact ((signatureLine_of_parseLine h).blank_append hbefore).append_blank hafter

/-- A line is skipped if it is blank or a comment. -/
theorem isSkipped_trim_iff : isSkipped (Text.trim line) = true ↔ Skipped line := by
  obtain ⟨before, after, hbefore, hafter, hline⟩ := Text.padded_trim line
  constructor
  · intro h
    cases htrim : Text.trim line with
    | nil => exact .blank (Text.trim_eq_nil_iff.1 htrim)
    | cons c rest =>
      have hc : c = '#' := by simpa [isSkipped, htrim] using h
      rw [hline, htrim, hc, List.append_assoc]
      exact .comment hbefore
  · intro h
    cases h with
    | blank h => rw [Text.trim_eq_nil_iff.2 h]; rfl
    | comment h =>
      rw [isSkipped, Text.trim_blank_append h, Text.head?_trim_cons (by decide)]
      rfl

/-- A line that gives a signature says something, unless the name makes it a comment. -/
theorem SignatureLine.not_skipped (h : SignatureLine line s) (hstart : s.name.head? ≠ some '#') :
    ¬ Skipped line := by
  cases h with
  | @intro name nameText gap list gap' ret retText params _ hname hnamePadded =>
    obtain ⟨before, after, hbefore, _, rfl⟩ := hnamePadded
    obtain ⟨c, rest, rfl⟩ := List.exists_cons_of_ne_nil hname.ne_nil
    rw [← isSkipped_trim_iff, isSkipped, List.append_assoc, List.append_assoc,
      Text.trim_blank_append hbefore, List.cons_append, Text.head?_trim_cons (hname.head c rfl)]
    simpa using hstart

end Lines

end ForeignCall
