import ForeignCall.Proofs.Signature.File

/-!
# Printing signatures

A signature that was read from a file prints to a line that gives it again. What makes this so is
what reading leaves out: blanks at the ends of a name or a type, and the characters at which a line
is cut.

* `Printable` is what is true of every signature that a file gives (`SignatureFile.printable`).
* `Printable.signatureLine`: the text of such a signature is a line that gives it.
* `parseSignatures_join_text`: files of such texts are read, and `parseSignatures_text_iff` says
  that no other texts are.
* `parseSignatures_printed`: what was read and printed is read again.
-/

namespace ForeignCall

open Text (Blank Solid Padded)

/-! ## 1. What is left after reading -/

/-- A solid text with none of these characters. -/
structure Plain (barred : List Char) (t : Text) : Prop where
  solid : Solid t
  free : ∀ c ∈ barred, c ∉ t

/-- A type that is only named, by a plain text. -/
inductive PlainType (barred : List Char) : TypeSpec → Prop
  | named {name : Text} : Plain barred name → PlainType barred (.named name)

/-- A signature whose text is one line, cut where its parts end. -/
structure Printable (s : Signature) : Prop where
  name : Plain [':', '\n'] s.name
  /-- The line is no comment. -/
  start : s.name.head? ≠ some '#'
  params : ∀ type ∈ s.params, PlainType [',', ')', '\n'] type
  /-- Every other character may stand in the return type: it is the last part of the line. -/
  ret : PlainType ['\n'] s.ret

variable {line : Text} {s : Signature} {signatures : List Signature}

theorem Plain.of_padded {barred : List Char} {part t : Text} (hsolid : Solid part)
    (hpadded : Padded part t) (hfree : ∀ c ∈ barred, c ∉ t) : Plain barred part :=
  ⟨hsolid, fun c hc hmem => hfree c hc (hpadded.subset hmem)⟩

/-- The types of a list have none of the characters that are not in the list. -/
theorem ParamList.plainType {list : Text} {types : List TypeSpec} (h : ParamList list types)
    {barred : List Char} (hfree : ∀ c ∈ barred, c ∉ list) :
    ∀ type ∈ types, PlainType (',' :: barred) type := by
  cases h with
  | blank => exact fun type htype => absurd htype List.not_mem_nil
  | @pieces pieces _ _ htypes =>
    intro type htype
    obtain ⟨piece, hpiece, hread⟩ := exists_of_forall₂ htypes.flip htype
    cases hread with
    | intro hcomma hsolid hpadded =>
      have hlist : ∀ c ∈ barred, c ∉ piece :=
        fun c hc hmem => hfree c hc (Text.subset_join hpiece hmem)
      exact .named (.of_padded hsolid hpadded (List.forall_mem_cons.2 ⟨hcomma, hlist⟩))

/-- What a line gives is printable. -/
theorem SignatureLine.printable (h : SignatureLine line s) (hshown : ¬ Skipped line)
    (hfeed : '\n' ∉ line) : Printable s := by
  cases h with
  | @intro name nameText gap list gap' ret retText params hcolon hname hnamePadded hgap hbracket
      hlist hgap' hret hretPadded =>
    simp only [List.mem_append, List.mem_cons, not_or] at hfeed
    obtain ⟨hnameFeed, _, _, _, hlistFeed, _, _, _, _, hretFeed⟩ := hfeed
    refine ⟨.of_padded hname hnamePadded (by simp [hcolon, hnameFeed]), fun hhead => ?_,
      hlist.plainType (by simp [hbracket, hlistFeed]),
      .named (.of_padded hret hretPadded (by simp [hretFeed]))⟩
    obtain ⟨before, after, hbefore, _, rfl⟩ := hnamePadded
    obtain ⟨rest, rfl⟩ := List.head?_eq_some_iff.1 hhead
    refine hshown ?_
    simp only [List.append_assoc, List.cons_append]
    exact .comment hbefore

/-- What a file gives is printable. -/
theorem SignatureFile.printable {t : Text} (h : SignatureFile (Text.lines t) signatures) :
    ∀ s ∈ signatures, Printable s := by
  intro s hs
  obtain ⟨line, hline, hgives⟩ := h.exists_line hs
  obtain ⟨hmem, hshown⟩ := List.mem_filter.1 hline
  exact hgives.printable (of_decide_eq_true hshown) (Text.not_mem_of_mem_lines hmem)

/-! ## 2. Lists of types -/

/-- A blank after each comma belongs to the next piece. -/
theorem join_comma_blank (piece : Text) (rest : List Text) :
    Text.join [',', ' '] (piece :: rest) = Text.join [','] (piece :: rest.map (' ' :: ·)) := by
  induction rest generalizing piece with
  | nil => rfl
  | cons next more ih =>
    have hnext := Text.join_consHead [','] ' ' (next :: more.map (' ' :: ·))
    rw [Text.consHead] at hnext
    rw [Text.join_cons_cons, ih, List.map_cons, Text.join_cons_cons, hnext]
    simp

theorem PlainType.paramText {type : TypeSpec} {barred : List Char}
    (h : PlainType (',' :: barred) type) :
    ParamText type.text type ∧ ParamText (' ' :: type.text) type := by
  cases h with
  | named hplain =>
    obtain ⟨hcomma, _⟩ := List.forall_mem_cons.1 hplain.free
    have hblank : Blank [' '] := List.forall_mem_singleton.2 (by decide)
    refine ⟨.intro hcomma hplain.solid (.refl _),
      .intro ?_ hplain.solid ((Padded.refl _).blank_append hblank)⟩
    simpa [TypeSpec.text] using hcomma

/-- Types with a comma and a blank between them are a list that gives them. -/
theorem paramList_join {types : List TypeSpec} {barred : List Char}
    (h : ∀ type ∈ types, PlainType (',' :: barred) type) :
    ParamList (Text.join [',', ' '] (types.map TypeSpec.text)) types := by
  cases types with
  | nil => exact .blank Text.blank_nil
  | cons type rest =>
    obtain ⟨htype, hrest⟩ := List.forall_mem_cons.1 h
    rw [List.map_cons, join_comma_blank, List.map_map]
    refine .pieces (List.cons_ne_nil _ _) (.cons htype.paramText.1 ?_)
    rw [List.forall₂_map_left_iff, List.forall₂_same]
    exact fun type htype => (hrest type htype).paramText.2

/-! ## 3. Lines -/

/-- The parts of the text of a signature. -/
theorem Signature.text_eq (s : Signature) :
    s.text = s.name ++ ':' :: ([' '] ++ '(' :: (Text.join [',', ' '] (s.params.map TypeSpec.text) ++
      ')' :: ([' '] ++ '-' :: '>' :: ([' '] ++ s.ret.text)))) := by
  have hopening : (": (" : Text) = [':', ' ', '('] := rfl
  have hcomma : (", " : Text) = [',', ' '] := rfl
  have hclosing : (") -> " : Text) = [')', ' ', '-', '>', ' '] := rfl
  rw [Signature.text, hopening, hcomma, hclosing]
  simp

theorem PlainType.plain_text {type : TypeSpec} {barred : List Char} (h : PlainType barred type) :
    Plain barred type.text := by
  cases h with
  | named hplain => exact hplain

theorem PlainType.eq_named {type : TypeSpec} {barred : List Char} (h : PlainType barred type) :
    type = .named type.text := by
  cases h with
  | named => rfl

namespace Printable

/-- No character that is in no type and in no separator is in the list of types. -/
theorem not_mem_params (h : Printable s) {c : Char} (hc : c ∈ [',', ')', '\n'])
    (hsep : c ∉ [',', ' ']) : c ∉ Text.join [',', ' '] (s.params.map TypeSpec.text) := by
  intro hmem
  rcases Text.mem_of_mem_join hmem with hmem | ⟨piece, hpiece, hmem⟩
  · exact hsep hmem
  · obtain ⟨type, htype, rfl⟩ := List.mem_map.1 hpiece
    exact (h.params type htype).plain_text.free c hc hmem

/-- The text of a printable signature is a line that gives it. -/
theorem signatureLine (h : Printable s) : SignatureLine s.text s := by
  have hblank : Blank [' '] := List.forall_mem_singleton.2 (by decide)
  have hline := SignatureLine.intro (h.name.free ':' (by simp)) h.name.solid (.refl _) hblank
    (h.not_mem_params (by decide) (by decide)) (paramList_join h.params) hblank
    h.ret.plain_text.solid ((Padded.refl _).blank_append hblank)
  rwa [← s.text_eq, ← h.ret.eq_named] at hline

theorem solid_text (h : Printable s) : Solid s.text := by
  rw [s.text_eq]
  simpa using h.name.solid.between h.ret.plain_text.solid (':' :: ' ' :: '(' ::
    (Text.join [',', ' '] (s.params.map TypeSpec.text) ++ [')', ' ', '-', '>', ' ']))

theorem not_skipped_text (h : Printable s) : ¬ Skipped s.text :=
  h.signatureLine.not_skipped h.start

theorem feed_not_mem_text (h : Printable s) : '\n' ∉ s.text := by
  have hname := h.name.free '\n' (by simp)
  have hparams : '\n' ∉ _ := h.not_mem_params (by decide) (by decide)
  have hret := h.ret.plain_text.free '\n' (by simp)
  rw [s.text_eq]
  simp [hname, hparams, hret]

theorem getLast?_text_ne_return (h : Printable s) : s.text.getLast? ≠ some '\r' :=
  fun hreturn => absurd (h.solid_text.last _ hreturn) (by decide)

end Printable

/-! ## 4. Files -/

/-- The texts of printable signatures are the lines of a file that gives these signatures. -/
theorem signatureFile_text (h : ∀ s ∈ signatures, Printable s)
    (hdistinct : (signatures.map Signature.name).Nodup) :
    SignatureFile (signatures.map Signature.text) signatures := by
  have hshown : significant (signatures.map Signature.text) = signatures.map Signature.text :=
    List.filter_eq_self.2 (List.forall_mem_map.2 fun s hs =>
      decide_eq_true (h s hs).not_skipped_text)
  refine ⟨?_, hdistinct⟩
  rw [hshown, List.forall₂_map_left_iff, List.forall₂_same]
  exact fun s hs => (h s hs).signatureLine

/-- Written one on a line, the texts of printable signatures are lines again. -/
theorem lines_join_text (h : ∀ s ∈ signatures, Printable s) :
    Text.lines (Text.join ['\n'] (signatures.map Signature.text)) =
      signatures.map Signature.text :=
  Text.lines_join (List.forall_mem_map.2 fun s hs => (h s hs).feed_not_mem_text)
    (List.forall_mem_map.2 fun s hs => (h s hs).solid_text.ne_nil)
    (List.forall_mem_map.2 fun s hs => (h s hs).getLast?_text_ne_return)

/-- The same if the last line is ended as well. -/
theorem lines_flatMap_text (h : ∀ s ∈ signatures, Printable s) :
    Text.lines ((signatures.map Signature.text).flatMap (· ++ ['\n'])) =
      signatures.map Signature.text :=
  Text.lines_flatMap (List.forall_mem_map.2 fun s hs => (h s hs).feed_not_mem_text)
    (List.forall_mem_map.2 fun s hs => (h s hs).getLast?_text_ne_return)

/-- The texts of printable signatures, one on a line, make a file that gives these signatures. -/
theorem parseSignatures_join_text (h : ∀ s ∈ signatures, Printable s)
    (hdistinct : (signatures.map Signature.name).Nodup) :
    parseSignatures (Text.join ['\n'] (signatures.map Signature.text)) = .ok signatures := by
  rw [parseSignatures_eq_ok_iff, lines_join_text h]
  exact signatureFile_text h hdistinct

/-- A signature is printable exactly if its text gives it. -/
theorem parseSignatures_text_iff : parseSignatures s.text = .ok [s] ↔ Printable s := by
  constructor
  · intro h
    exact (parseSignatures_eq_ok_iff.1 h).printable s List.mem_cons_self
  · intro h
    exact parseSignatures_join_text (List.forall_mem_singleton.2 h) (by simp)

/-- Printing what was read, one signature on a line, and reading it again gives the same signatures
in the same order, whatever their names and types are. -/
theorem parseSignatures_printed {text : Text} (h : parseSignatures text = .ok signatures) :
    parseSignatures (Text.join ['\n'] (signatures.map Signature.text)) = .ok signatures := by
  have hfile := parseSignatures_eq_ok_iff.1 h
  exact parseSignatures_join_text hfile.printable hfile.distinct

/-- Types with colons, brackets and arrows in them, return types with commas, and carriage returns
that end no line. -/
theorem parseSignatures_printed_odd :
    parseSignatures
        " a\rb(->: (c::d -> (e ,\tf  g)->) , h\r\n# no: () -> line\r\nk:()->v\rw\r\r\n" =
        .ok [⟨"a\rb(->", [.named "c::d -> (e", .named "f  g"], .named ") , h"⟩,
          ⟨"k", [], .named "v\rw"⟩] ∧
      parseSignatures (Text.join ['\n'] (List.map Signature.text
          [⟨"a\rb(->", [.named "c::d -> (e", .named "f  g"], .named ") , h"⟩,
            ⟨"k", [], .named "v\rw"⟩])) =
        .ok [⟨"a\rb(->", [.named "c::d -> (e", .named "f  g"], .named ") , h"⟩,
          ⟨"k", [], .named "v\rw"⟩] := by
  refine ⟨?read, parseSignatures_printed ?read⟩
  decide +kernel

/-- The two lines that are printed for them. -/
example : Text.join ['\n'] (List.map Signature.text
    [⟨"a\rb(->", [.named "c::d -> (e", .named "f  g"], .named ") , h"⟩, ⟨"k", [], .named "v\rw"⟩]) =
      "a\rb(->: (c::d -> (e, f  g) -> ) , h\nk: () -> v\rw" := by decide

end ForeignCall
