import ForeignCall.Proofs.Signature.Printed
import Mathlib.Logic.Relation

/-!
# The layout of a signature file

Blank lines and comments, the kind of line ends, and the white space at the ends of lines and
between the parts of a signature carry no meaning.

* `LaidOut` is a signature line with the white space between its parts. Every line that is read is
  one (`SignatureLine.exists_laidOut`), and what it gives does not depend on the white space
  (`LaidOut.signatureLine`).
* `Edit` is one change of layout. `Edit.parseSignatures_eq_ok_iff`: a text gives the same signatures
  before and after it.
* `parseLines_insert`: a failure moves down with its line, and keeps its fault.
* `parseSignatures_layout`: any number of changes, in texts that are read and in texts that fail.
-/

namespace ForeignCall

open Text (Blank Solid Padded LineStart LineEnd)

/-! ## 1. White space in a line -/

/-- White space that ends no line. -/
abbrev Gap := { t : Text // Blank t ∧ '\n' ∉ t }

def Gap.none : Gap := ⟨[], Text.blank_nil, List.not_mem_nil⟩

def Gap.one (c : Char) (h : isBlank c = true ∧ c ≠ '\n') : Gap :=
  ⟨[c], List.forall_mem_singleton.2 h.1, by simpa using h.2.symm⟩

structure Spaced where
  before : Gap
  inner : Text
  after : Gap

def Spaced.text (p : Spaced) : Text := p.before.1 ++ p.inner ++ p.after.1

/-- A signature line, part by part. -/
structure LaidOut where
  name : Spaced
  /-- Between the colon and the list of types. -/
  afterColon : Gap
  /-- In a list of no types. -/
  empty : Gap
  params : List Spaced
  /-- Between the list of types and the arrow. -/
  beforeArrow : Gap
  ret : Spaced

namespace LaidOut

/-- What stands between the brackets. -/
def list (x : LaidOut) : Text :=
  match x.params with
  | [] => x.empty.1
  | first :: rest => Text.join [','] ((first :: rest).map Spaced.text)

def text (x : LaidOut) : Text :=
  x.name.text ++ ':' :: (x.afterColon.1 ++ '(' ::
    (x.list ++ ')' :: (x.beforeArrow.1 ++ '-' :: '>' :: x.ret.text)))

def signature (x : LaidOut) : Signature :=
  ⟨x.name.inner, x.params.map fun p => .named p.inner, .named x.ret.inner⟩

end LaidOut

theorem Spaced.padded (p : Spaced) : Padded p.inner p.text :=
  ⟨p.before.1, p.after.1, p.before.2.1, p.after.2.1, rfl⟩

theorem Gap.not_mem (g : Gap) {c : Char} (hc : isBlank c = false ∨ c = '\n') : c ∉ g.1 := by
  rcases hc with hc | rfl
  · exact g.2.1.not_mem hc
  · exact g.2.2

theorem Spaced.not_mem {p : Spaced} {c : Char} (hc : isBlank c = false ∨ c = '\n')
    (h : c ∉ p.inner) : c ∉ p.text := by
  simp only [text, List.mem_append, not_or]
  exact ⟨⟨p.before.not_mem hc, h⟩, p.after.not_mem hc⟩

theorem exists_spaced {part t : Text} (h : Padded part t) (hfeed : '\n' ∉ t) :
    ∃ p : Spaced, p.text = t ∧ p.inner = part := by
  obtain ⟨before, after, hbefore, hafter, rfl⟩ := h
  simp only [List.mem_append, not_or] at hfeed
  exact ⟨⟨⟨before, hbefore, hfeed.1.1⟩, part, ⟨after, hafter, hfeed.2⟩⟩, rfl, rfl⟩

theorem exists_spaced_params {pieces : List Text} {types : List TypeSpec}
    (h : List.Forall₂ ParamText pieces types) (hfeed : ∀ piece ∈ pieces, '\n' ∉ piece) :
    ∃ params : List Spaced, params.map Spaced.text = pieces ∧
      params.map (fun p => .named p.inner) = types := by
  induction h with
  | nil => exact ⟨[], rfl, rfl⟩
  | cons hpiece _ ih =>
    obtain ⟨hfirst, hrest⟩ := List.forall_mem_cons.1 hfeed
    obtain ⟨params, rfl, rfl⟩ := ih hrest
    cases hpiece with
    | intro _ _ hpadded =>
      obtain ⟨p, rfl, rfl⟩ := exists_spaced hpadded hfirst
      exact ⟨p :: params, rfl, rfl⟩

/-- A line that is read is laid out, part by part. -/
theorem SignatureLine.exists_laidOut {line : Text} {s : Signature} (h : SignatureLine line s)
    (hfeed : '\n' ∉ line) : ∃ x : LaidOut, x.text = line ∧ x.signature = s := by
  cases h with
  | @intro name nameText gap list gap' ret retText params _ _ hname hgap _ hlist hgap' _ hret =>
    simp only [List.mem_append, List.mem_cons, not_or] at hfeed
    obtain ⟨hnameFeed, _, hgapFeed, _, hlistFeed, _, hgapFeed', _, _, hretFeed⟩ := hfeed
    obtain ⟨name, rfl, rfl⟩ := exists_spaced hname hnameFeed
    obtain ⟨ret, rfl, rfl⟩ := exists_spaced hret hretFeed
    cases hlist with
    | blank hblank =>
      exact ⟨⟨name, ⟨gap, hgap, hgapFeed⟩, ⟨list, hblank, hlistFeed⟩, [],
        ⟨gap', hgap', hgapFeed'⟩, ret⟩, rfl, rfl⟩
    | pieces hne htypes =>
      obtain ⟨params, rfl, rfl⟩ := exists_spaced_params htypes
        fun piece hpiece hmem => hlistFeed (Text.subset_join hpiece hmem)
      obtain ⟨first, rest, rfl⟩ := List.exists_cons_of_ne_nil (mt (congrArg (List.map _)) hne)
      exact ⟨⟨name, ⟨gap, hgap, hgapFeed⟩, .none, first :: rest,
        ⟨gap', hgap', hgapFeed'⟩, ret⟩, rfl, rfl⟩

namespace LaidOut

variable {x : LaidOut}

theorem not_mem_list {c : Char} (hc : isBlank c = false ∨ c = '\n') (hcomma : c ≠ ',')
    (h : ∀ p ∈ x.params, c ∉ p.inner) : c ∉ x.list := by
  rw [list]
  split
  · exact x.empty.not_mem hc
  · next first rest hparams =>
    intro hmem
    rcases Text.mem_of_mem_join hmem with hmem | ⟨piece, hpiece, hmem⟩
    · exact hcomma (List.mem_singleton.1 hmem)
    · obtain ⟨p, hp, rfl⟩ := List.mem_map.1 hpiece
      exact Spaced.not_mem hc (h p (hparams ▸ hp)) hmem

theorem plain_of_mem_params (h : Printable x.signature) {p : Spaced} (hp : p ∈ x.params) :
    Plain [',', ')', '\n'] p.inner :=
  (h.params _ (List.mem_map_of_mem hp)).plain_text

theorem paramList (h : Printable x.signature) : ParamList x.list x.signature.params := by
  rw [list, signature]
  split
  · next hparams =>
    rw [hparams]
    exact .blank x.empty.2.1
  · next first rest hparams =>
    rw [hparams]
    refine .pieces (List.cons_ne_nil _ _) ?_
    rw [List.forall₂_map_left_iff, List.forall₂_map_right_iff, List.forall₂_same]
    intro p hp
    have hplain := plain_of_mem_params h (hparams ▸ hp)
    exact .intro (Spaced.not_mem (.inl (by decide)) (hplain.free ',' (by simp))) hplain.solid
      p.padded

/-- The line gives what it says, whatever the white space in it. -/
theorem signatureLine (h : Printable x.signature) : SignatureLine x.text x.signature :=
  .intro (Spaced.not_mem (.inl (by decide)) (h.name.free ':' (by simp))) h.name.solid x.name.padded
    x.afterColon.2.1
    (not_mem_list (.inl (by decide)) (by decide)
      fun _ hp => (plain_of_mem_params h hp).free ')' (by simp))
    (paramList h) x.beforeArrow.2.1 h.ret.plain_text.solid x.ret.padded

theorem feed_not_mem (h : Printable x.signature) : '\n' ∉ x.text := by
  have hname : '\n' ∉ x.name.text := Spaced.not_mem (.inr rfl) (h.name.free '\n' (by simp))
  have hlist : '\n' ∉ x.list := not_mem_list (.inr rfl) (by decide)
    fun _ hp => (plain_of_mem_params h hp).free '\n' (by simp)
  have hret : '\n' ∉ x.ret.text :=
    Spaced.not_mem (.inr rfl) (h.ret.plain_text.free '\n' (by simp))
  simp [text, hname, hlist, hret, x.afterColon.2.2, x.beforeArrow.2.2]

end LaidOut

/-! ## 2. Changes of layout -/

/-- The same line with other white space. -/
inductive LineEdit : Text → Text → Prop
  /-- At the ends of any line. -/
  | ends {p q : Spaced} : '\n' ∉ p.inner → p.inner = q.inner → LineEdit p.text q.text
  /-- Between the parts of a line that gives a signature. -/
  | parts {x y : LaidOut} : Printable x.signature → x.signature = y.signature →
      LineEdit x.text y.text

/-- The second text is the first with a blank line or a comment put in as line `number`. -/
inductive LineInserted (number : Nat) : Text → Text → Prop
  | intro {before line after : Text} :
      LineStart before → before.count '\n' + 1 = number → Skipped line → '\n' ∉ line →
      LineInserted number (before ++ after) (before ++ line ++ '\n' :: after)

/-- One change of layout. -/
inductive Edit : Text → Text → Prop
  | insert {number : Nat} {t t' : Text} : LineInserted number t t' → Edit t t'
  /-- A blank line or a comment at the end, where the last line was not ended. -/
  | append {t line : Text} : Skipped line → '\n' ∉ line → Edit t (t ++ '\n' :: line)
  /-- A blank line or a comment at the end, itself not ended. -/
  | appendOpen {t line : Text} : LineStart t → Skipped line → '\n' ∉ line → Edit t (t ++ line)
  | carriageReturn {before after : Text} :
      Edit (before ++ '\n' :: after) (before ++ '\r' :: '\n' :: after)
  | line {before line line' after : Text} :
      LineStart before → LineEnd after → LineEdit line line' →
      Edit (before ++ line ++ after) (before ++ line' ++ after)

/-- The second text is the first with `count` blank lines or comments put in, one after another,
each before the line that was number `number` at first. -/
inductive LinesInserted (number : Nat) : Nat → Text → Text → Prop
  | none {t : Text} : LinesInserted number 0 t t
  | line {count place : Nat} {t t' t'' : Text} :
      LinesInserted number count t t' → place ≤ number + count → LineInserted place t' t'' →
      LinesInserted number (count + 1) t t''

/-! ## 3. Texts piece by piece -/

section Pieces

variable {line line' t t' : Text} {signatures : List Signature} {number : Nat} {seen : List Text}

theorem parseLines_closeLines (number : Nat) (seen pieces : List Text) :
    parseLines number seen (Text.closeLines pieces) = parseLines number seen pieces := by
  fun_induction Text.closeLines pieces generalizing number seen with
  | case1 => rfl
  | case2 =>
    rw [parseLines_of_skipped (.blank Text.blank_nil)]
    rfl
  | case3 => rfl
  | case4 piece next rest ih => simp only [parseLines, Text.trim_dropReturn, ih]

/-- Carriage returns and the end of the last line do not matter: what stands between line feeds can
be read in place of the lines. -/
theorem parseSignatures_eq (t : Text) :
    parseSignatures t = parseLines 1 [] (Text.splitAll '\n' t) := by
  rw [parseSignatures, Text.lines, parseLines_closeLines]

theorem parseSignatures_eq_ok_iff_pieces :
    parseSignatures t = .ok signatures ↔ SignatureFile (Text.splitAll '\n' t) signatures := by
  rw [parseSignatures_eq, parseLines_eq_ok_iff]
  simp

/-- The lines say the same. -/
structure Alike (line line' : Text) : Prop where
  skipped : Skipped line ↔ Skipped line'
  gives : ∀ s, SignatureLine line s ↔ SignatureLine line' s

theorem alike_of_trim_eq (h : Text.trim line = Text.trim line') : Alike line line' where
  skipped := by rw [← isSkipped_trim_iff, ← isSkipped_trim_iff, h]
  gives s := by rw [← parseLine_trim_eq_ok_iff, ← parseLine_trim_eq_ok_iff, h]

theorem alike_of_signatureLine {s : Signature} (h : SignatureLine line s)
    (h' : SignatureLine line' s) (hstart : s.name.head? ≠ some '#') : Alike line line' where
  skipped := iff_of_false (h.not_skipped hstart) (h'.not_skipped hstart)
  gives t := by
    constructor
    · intro ht
      exact h.unique ht ▸ h'
    · intro ht
      exact h'.unique ht ▸ h

theorem LineEdit.alike (h : LineEdit line line') : Alike line line' := by
  cases h with
  | @ends p q _ hinner =>
    refine alike_of_trim_eq ?_
    rw [Spaced.text, Spaced.text, hinner, Text.trim_append_blank p.after.2.1,
      Text.trim_append_blank q.after.2.1, Text.trim_blank_append p.before.2.1,
      Text.trim_blank_append q.before.2.1]
  | parts hprintable hsame =>
    have hline' := LaidOut.signatureLine (hsame ▸ hprintable)
    rw [← hsame] at hline'
    exact alike_of_signatureLine (LaidOut.signatureLine hprintable) hline' hprintable.start

theorem LineEdit.feed_not_mem (h : LineEdit line line') : '\n' ∉ line ∧ '\n' ∉ line' := by
  cases h with
  | ends hfeed hinner =>
    exact ⟨Spaced.not_mem (.inr rfl) hfeed, Spaced.not_mem (.inr rfl) (hinner ▸ hfeed)⟩
  | parts hprintable hsame =>
    exact ⟨LaidOut.feed_not_mem hprintable, LaidOut.feed_not_mem (hsame ▸ hprintable)⟩

theorem Alike.signatureFile_cons (h : Alike line line') (rest : List Text)
    (signatures : List Signature) :
    SignatureFile (line :: rest) signatures ↔ SignatureFile (line' :: rest) signatures := by
  by_cases hskip : Skipped line
  · rw [signatureFile_cons_of_skipped hskip, signatureFile_cons_of_skipped (h.skipped.1 hskip)]
  · simp only [signatureFile_cons_iff hskip, signatureFile_cons_iff (mt h.skipped.2 hskip), h.gives]

/-- What comes before lines is no reason to read them differently. -/
theorem signatureFile_append_congr {rest rest' : List Text}
    (h : ∀ signatures, SignatureFile rest signatures ↔ SignatureFile rest' signatures)
    (before : List Text) (signatures : List Signature) :
    SignatureFile (before ++ rest) signatures ↔ SignatureFile (before ++ rest') signatures := by
  induction before generalizing signatures with
  | nil => exact h signatures
  | cons line before ih =>
    by_cases hskip : Skipped line
    · simp only [List.cons_append, signatureFile_cons_of_skipped hskip, ih]
    · simp only [List.cons_append, signatureFile_cons_iff hskip, ih]

/-- In a text that is read every line that is not skipped is laid out, part by part. -/
theorem exists_laidOut_of_parseSignatures {before after : Text}
    (h : parseSignatures (before ++ line ++ after) = .ok signatures) (hstart : LineStart before)
    (hend : LineEnd after) (hfeed : '\n' ∉ line) (hshown : ¬ Skipped line) :
    ∃ x : LaidOut, x.text = line ∧ Printable x.signature ∧ x.signature ∈ signatures := by
  obtain ⟨pieces, _, hpieces⟩ := hstart.exists_splitAll
  obtain ⟨rest, hrest⟩ := hend.exists_splitAll
  have hfile := parseSignatures_eq_ok_iff_pieces.1 h
  rw [List.append_assoc, hpieces, hrest line hfeed] at hfile
  have hline : line ∈ significant (pieces ++ line :: rest) :=
    List.mem_filter.2 ⟨List.mem_append_right pieces List.mem_cons_self, decide_eq_true hshown⟩
  obtain ⟨s, hs, hgives⟩ := hfile.exists_signature hline
  obtain ⟨x, htext, rfl⟩ := hgives.exists_laidOut hfeed
  exact ⟨x, htext, hgives.printable hshown hfeed, hs⟩

theorem LineInserted.exists_pieces (h : LineInserted number t t') :
    ∃ before line after, Skipped line ∧ before.length + 1 = number ∧
      Text.splitAll '\n' t = before ++ after ∧ Text.splitAll '\n' t' = before ++ line :: after := by
  cases h with
  | @intro before line after hstart hnumber hskip hfeed =>
    obtain ⟨pieces, hlength, hpieces⟩ := hstart.exists_splitAll
    refine ⟨pieces, line, Text.splitAll '\n' after, hskip, hlength ▸ hnumber, hpieces after, ?_⟩
    rw [List.append_assoc, hpieces, Text.splitAll_append_cons hfeed]

/-- A change of layout leaves the signatures as they are. -/
theorem Edit.parseSignatures_eq_ok_iff (h : Edit t t') :
    parseSignatures t = .ok signatures ↔ parseSignatures t' = .ok signatures := by
  rw [parseSignatures_eq_ok_iff_pieces, parseSignatures_eq_ok_iff_pieces]
  cases h with
  | insert h =>
    obtain ⟨before, line, after, hskip, _, ht, ht'⟩ := h.exists_pieces
    rw [ht, ht']
    exact signatureFile_append_congr (fun _ => (signatureFile_cons_of_skipped hskip).symm) _ _
  | append hskip hfeed =>
    rw [Text.splitAll_append_sep, Text.splitAll_of_not_mem hfeed]
    conv => lhs; rw [← List.append_nil (Text.splitAll '\n' t)]
    exact signatureFile_append_congr (fun _ => (signatureFile_cons_of_skipped hskip).symm) _ _
  | appendOpen hstart hskip hfeed =>
    obtain ⟨pieces, _, hpieces⟩ := hstart.exists_splitAll
    have ht := hpieces []
    rw [List.append_nil] at ht
    rw [ht, hpieces, Text.splitAll_of_not_mem hfeed, Text.splitAll_of_not_mem List.not_mem_nil]
    refine signatureFile_append_congr (fun _ => ?_) _ _
    rw [signatureFile_cons_of_skipped hskip, signatureFile_cons_of_skipped (.blank Text.blank_nil)]
  | @carriageReturn before after =>
    have hfree : '\n' ∉ ['\r'] := by decide
    obtain ⟨pieces, last, hlast, hlast'⟩ := Text.exists_splitAll_append hfree before
    have hblank : Blank ['\r'] := List.forall_mem_singleton.2 (by decide)
    have hbefore : before ++ '\r' :: '\n' :: after = before ++ ['\r'] ++ '\n' :: after := by simp
    rw [hbefore, Text.splitAll_append_sep, Text.splitAll_append_sep, hlast, hlast',
      List.append_assoc, List.append_assoc]
    refine signatureFile_append_congr (fun _ => ?_) _ _
    exact (alike_of_trim_eq (Text.trim_append_blank hblank last).symm).signatureFile_cons _ _
  | line hstart hend hedit =>
    obtain ⟨pieces, _, hpieces⟩ := hstart.exists_splitAll
    obtain ⟨rest, hrest⟩ := hend.exists_splitAll
    obtain ⟨hfeed, hfeed'⟩ := hedit.feed_not_mem
    rw [List.append_assoc, List.append_assoc, hpieces, hpieces, hrest _ hfeed, hrest _ hfeed']
    exact signatureFile_append_congr (hedit.alike.signatureFile_cons rest) _ _

theorem parseSignatures_eq_ok_iff_of_edits (h : Relation.ReflTransGen Edit t t') :
    parseSignatures t = .ok signatures ↔ parseSignatures t' = .ok signatures := by
  induction h with
  | refl => exact Iff.rfl
  | tail _ hedit ih => exact ih.trans hedit.parseSignatures_eq_ok_iff

/-! ## 4. Failures -/

/-- The same fault, so many lines further down. -/
def ParseError.down (count : Nat) (e : ParseError) : ParseError := ⟨e.line + count, e.fault⟩

/-- Lines are read alike whatever their numbers are. -/
theorem parseLines_add (count : Nat) (number : Nat) (seen lines : List Text) :
    parseLines (number + count) seen lines =
      (parseLines number seen lines).mapError (·.down count) := by
  induction lines generalizing number seen with
  | nil => rfl
  | cons line rest ih =>
    have hrest := ih (number + 1)
    rw [Nat.add_right_comm] at hrest
    by_cases hskip : Skipped line
    · rw [parseLines_of_skipped hskip, parseLines_of_skipped hskip, hrest]
    cases hparse : parseLine (Text.trim line) with
    | error fault => rw [parseLines_of_error hskip hparse, parseLines_of_error hskip hparse]; rfl
    | ok s =>
      have hline := parseLine_trim_eq_ok_iff.1 hparse
      rw [parseLines_of_signature hskip hline, parseLines_of_signature hskip hline, hrest]
      split
      · rfl
      · cases parseLines (number + 1) (s.name :: seen) rest <;> rfl

/-- A line that is skipped moves the failures behind it down by one line. -/
theorem parseLines_insert (hskip : Skipped line) {before after : List Text} {e : ParseError}
    (h : parseLines number seen (before ++ after) = .error e)
    (hplace : number + before.length ≤ e.line) :
    parseLines number seen (before ++ line :: after) = .error (e.down 1) := by
  induction before generalizing number seen with
  | nil =>
    rw [List.nil_append] at h
    rw [List.nil_append, parseLines_of_skipped hskip, parseLines_add, h]
    rfl
  | cons first before ih =>
    rw [List.length_cons] at hplace
    have hplace' : number + 1 + before.length ≤ e.line := by omega
    rw [List.cons_append] at h ⊢
    rcases parseLines_cases number seen first with ⟨_, hread⟩ | ⟨_, _, fault, hread⟩ |
      ⟨_, s, _, _, hread⟩
    case inl =>
      rw [hread] at h ⊢
      exact ih h hplace'
    case inr.inl =>
      rw [hread] at h
      cases h
      dsimp only at hplace'
      omega
    case inr.inr =>
      rw [hread, map_eq_error_iff] at h ⊢
      exact ih h hplace'

theorem LineInserted.parseSignatures_eq_error (h : LineInserted number t t') {e : ParseError}
    (hfail : parseSignatures t = .error e) (hplace : number ≤ e.line) :
    parseSignatures t' = .error (e.down 1) := by
  obtain ⟨before, line, after, hskip, hnumber, ht, ht'⟩ := h.exists_pieces
  rw [parseSignatures_eq, ht] at hfail
  rw [parseSignatures_eq, ht']
  exact parseLines_insert hskip hfail (by omega)

theorem LinesInserted.parseSignatures_eq_error {e : ParseError} {count : Nat}
    (h : LinesInserted e.line count t t') (hfail : parseSignatures t = .error e) :
    parseSignatures t' = .error (e.down count) := by
  induction h with
  | none => exact hfail
  | line _ hplace hinsert ih => exact hinsert.parseSignatures_eq_error (ih hfail) hplace

end Pieces

/-! ## 5. Signature files -/

/-- Layout carries no meaning. In a text that is read every line that is not skipped is laid out,
part by part, and after any changes of layout the text gives the same signatures. In a text that
fails, blank lines and comments before the line at fault move the failure down by as many lines. -/
theorem parseSignatures_layout (t : Text) :
    (∀ signatures, parseSignatures t = .ok signatures →
      (∀ before line after, t = before ++ line ++ after → LineStart before → LineEnd after →
        '\n' ∉ line → ¬ Skipped line →
        ∃ x : LaidOut, x.text = line ∧ Printable x.signature ∧ x.signature ∈ signatures) ∧
      ∀ t', Relation.ReflTransGen Edit t t' → parseSignatures t' = .ok signatures) ∧
    ∀ number fault, parseSignatures t = .error ⟨number, fault⟩ →
      ∀ count t', LinesInserted number count t t' →
        parseSignatures t' = .error ⟨number + count, fault⟩ := by
  constructor
  · intro signatures h
    refine ⟨?_, fun t' hedits => (parseSignatures_eq_ok_iff_of_edits hedits).1 h⟩
    rintro before line after rfl hstart hend hfeed hshown
    exact exists_laidOut_of_parseSignatures h hstart hend hfeed hshown
  · intro number fault h count t' hlines
    exact LinesInserted.parseSignatures_eq_error (e := ⟨number, fault⟩) hlines h

def tightLine : LaidOut :=
  ⟨⟨.none, "a".toList, .none⟩, .none, .none,
    [⟨.none, "int".toList, .none⟩, ⟨.none, "str".toList, .none⟩], .none,
    ⟨.none, "long".toList, .none⟩⟩

def looseLine : LaidOut :=
  ⟨⟨.one ' ' (by decide), "a".toList, .one '\t' (by decide)⟩, .one ' ' (by decide), .none,
    [⟨.none, "int".toList, .one '\r' (by decide)⟩,
      ⟨.one '\u3000' (by decide), "str".toList, .none⟩], .none,
    ⟨.one ' ' (by decide), "long".toList, .none⟩⟩

theorem edits_looseLine :
    Relation.ReflTransGen Edit tightLine.text ("# k\r\n".toList ++ looseLine.text) := by
  have hread : parseSignatures tightLine.text = .ok [tightLine.signature] := by decide +kernel
  have hprintable : Printable tightLine.signature :=
    (parseSignatures_eq_ok_iff.1 hread).printable _ List.mem_cons_self
  have hline : Edit ([] ++ tightLine.text ++ []) ([] ++ looseLine.text ++ []) :=
    .line (.inl rfl) (.inl rfl) (.parts hprintable rfl)
  rw [List.nil_append, List.append_nil, List.nil_append, List.append_nil] at hline
  have hinsert : Edit ([] ++ looseLine.text) ([] ++ "# k".toList ++ '\n' :: looseLine.text) :=
    .insert (.intro (.inl rfl) rfl (.comment Text.blank_nil) (by decide))
  exact .tail (.tail (.single hline) hinsert) .carriageReturn

theorem linesInserted_two : LinesInserted 1 2 "b: ()" " \n# k\nb: ()" := by
  have hfirst : LineInserted 1 ([] ++ "b: ()".toList)
      ([] ++ "# k".toList ++ '\n' :: "b: ()".toList) :=
    .intro (.inl rfl) rfl (.comment Text.blank_nil) (by decide)
  have hsecond : LineInserted 1 ([] ++ "# k\nb: ()".toList)
      ([] ++ " ".toList ++ '\n' :: "# k\nb: ()".toList) :=
    .intro (.inl rfl) rfl (.blank (List.forall_mem_singleton.2 (by decide))) (by decide)
  exact .line (.line .none (by decide) hfirst) (by decide) hsecond

theorem parseSignatures_layout_loose :
    parseSignatures ("# k\r\n".toList ++ looseLine.text) =
        .ok [⟨"a", [.named "int", .named "str"], .named "long"⟩] ∧
      parseSignatures " \n# k\nb: ()" = .error ⟨3, .noArrow⟩ :=
  ⟨((parseSignatures_layout tightLine.text).1 _ (by decide +kernel)).2 _ edits_looseLine,
    (parseSignatures_layout "b: ()").2 1 .noArrow (by decide +kernel) 2 _ linesInserted_two⟩

end ForeignCall
