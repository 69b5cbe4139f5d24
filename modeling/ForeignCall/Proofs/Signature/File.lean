import ForeignCall.Proofs.Signature.Line
import ForeignCall.Proofs.Text.Lines

/-!
# The grammar of a signature file

A file gives the signatures of its lines, in order, blank lines and comments aside; no name is given
twice. A file that is not of this form fails at the first line that cannot be read after the lines
before it.

* `SignatureFile` is the grammar, `parseSignatures_eq_ok_iff` says that reading a file follows it.
* `parseLines_cases` is the one step of reading; what comes after the line does not matter to it.
* `parseLines_eq_error`: a failure splits the file at the offending line.
* `parseSignatures_accepts_or_fails_first` puts these together.
-/

namespace ForeignCall

instance : DecidablePred Skipped := fun _ => decidable_of_iff _ isSkipped_trim_iff

/-- The lines that are neither blank nor comments. -/
def significant (lines : List Text) : List Text := lines.filter fun line => ¬ Skipped line

/-- Lines that give signatures, in order. -/
structure SignatureFile (lines : List Text) (signatures : List Signature) : Prop where
  /-- Each line that is not skipped gives a signature. -/
  each : List.Forall₂ SignatureLine (significant lines) signatures
  /-- No name is given twice. -/
  distinct : (signatures.map Signature.name).Nodup

/-- Two lines that do not give the same name. -/
def NamesDiffer (line line' : Text) : Prop :=
  ∀ s s', SignatureLine line s → SignatureLine line' s' → s.name ≠ s'.name

variable {lines : List Text} {line : Text} {seen : List Text} {number : Nat}
  {signatures : List Signature}

/-! ## 1. Files line by line -/

/-- A line gives one signature. -/
theorem SignatureLine.unique {s s' : Signature} (h : SignatureLine line s)
    (h' : SignatureLine line s') : s = s' := by
  have heq := h.parseLine_trim
  rw [h'.parseLine_trim] at heq
  exact (Except.ok.inj heq).symm

theorem significant_cons_of_skipped (h : Skipped line) (rest : List Text) :
    significant (line :: rest) = significant rest := by
  simp [significant, h]

theorem significant_cons_of_not_skipped (h : ¬ Skipped line) (rest : List Text) :
    significant (line :: rest) = line :: significant rest := by
  simp [significant, h]

theorem signatureFile_nil_iff : SignatureFile [] signatures ↔ signatures = [] := by
  constructor
  · rintro ⟨heach, _⟩
    exact List.forall₂_nil_left_iff.1 heach
  · rintro rfl
    exact ⟨.nil, List.nodup_nil⟩

theorem signatureFile_cons_of_skipped (h : Skipped line) {rest : List Text} :
    SignatureFile (line :: rest) signatures ↔ SignatureFile rest signatures := by
  constructor
  · rintro ⟨heach, hdistinct⟩
    rw [significant_cons_of_skipped h] at heach
    exact ⟨heach, hdistinct⟩
  · rintro ⟨heach, hdistinct⟩
    rw [← significant_cons_of_skipped h] at heach
    exact ⟨heach, hdistinct⟩

theorem signatureFile_cons_iff (h : ¬ Skipped line) {rest : List Text} :
    SignatureFile (line :: rest) signatures ↔
      ∃ s more, SignatureLine line s ∧ SignatureFile rest more ∧ (∀ t ∈ more, s.name ≠ t.name) ∧
        signatures = s :: more := by
  constructor
  · rintro ⟨heach, hdistinct⟩
    rw [significant_cons_of_not_skipped h, List.forall₂_cons_left_iff] at heach
    obtain ⟨s, more, hline, heach, rfl⟩ := heach
    rw [List.map_cons, List.nodup_cons] at hdistinct
    refine ⟨s, more, hline, ⟨heach, hdistinct.2⟩, fun t ht heq => hdistinct.1 ?_, rfl⟩
    exact heq ▸ List.mem_map_of_mem ht
  · rintro ⟨s, more, hline, ⟨heach, hdistinct⟩, hnew, rfl⟩
    refine ⟨?_, ?_⟩
    · rw [significant_cons_of_not_skipped h]
      exact .cons hline heach
    · rw [List.map_cons, List.nodup_cons]
      refine ⟨fun hmem => ?_, hdistinct⟩
      obtain ⟨t, ht, heq⟩ := List.mem_map.1 hmem
      exact hnew t ht heq.symm

theorem exists_of_forall₂ {α β : Type} {R : α → β → Prop} {l : List α} {m : List β}
    (h : List.Forall₂ R l m) {a : α} (ha : a ∈ l) : ∃ b ∈ m, R a b := by
  induction h with
  | nil => cases ha
  | cons hr _ ih =>
    cases ha with
    | head => exact ⟨_, List.mem_cons_self, hr⟩
    | tail _ ha =>
      obtain ⟨b, hb, hr⟩ := ih ha
      exact ⟨b, List.mem_cons_of_mem _ hb, hr⟩

theorem SignatureFile.exists_signature (h : SignatureFile lines signatures)
    (hline : line ∈ significant lines) : ∃ s ∈ signatures, SignatureLine line s :=
  exists_of_forall₂ h.each hline

theorem SignatureFile.exists_line (h : SignatureFile lines signatures) {s : Signature}
    (hs : s ∈ signatures) : ∃ line ∈ significant lines, SignatureLine line s :=
  exists_of_forall₂ h.each.flip hs

/-! ## 2. Reading one line -/

theorem parseLines_of_skipped (h : Skipped line) (number : Nat) (seen rest : List Text) :
    parseLines number seen (line :: rest) = parseLines (number + 1) seen rest := by
  rw [parseLines, if_pos (isSkipped_trim_iff.2 h)]

theorem parseLines_of_error (h : ¬ Skipped line) {fault : SignatureFault}
    (hparse : parseLine (Text.trim line) = .error fault) (number : Nat) (seen rest : List Text) :
    parseLines number seen (line :: rest) = .error ⟨number, fault⟩ := by
  simp only [parseLines, mt isSkipped_trim_iff.1 h, hparse]
  rfl

theorem parseLines_of_signature (h : ¬ Skipped line) {s : Signature} (hline : SignatureLine line s)
    (number : Nat) (seen rest : List Text) :
    parseLines number seen (line :: rest) =
      if s.name ∈ seen then .error ⟨number, .repeated s.name⟩
      else (parseLines (number + 1) (s.name :: seen) rest).map (s :: ·) := by
  simp only [parseLines, mt isSkipped_trim_iff.1 h, hline.parseLine_trim]
  rfl

/-- Reading goes over a line that says nothing, or fails at a line that gives no new signature, or
takes its signature. -/
theorem parseLines_cases (number : Nat) (seen : List Text) (line : Text) :
    (Skipped line ∧
      ∀ rest, parseLines number seen (line :: rest) = parseLines (number + 1) seen rest) ∨
    (¬ Skipped line ∧ (∀ s, SignatureLine line s → s.name ∈ seen) ∧
      ∃ fault, ∀ rest, parseLines number seen (line :: rest) = .error ⟨number, fault⟩) ∨
    (¬ Skipped line ∧ ∃ s, SignatureLine line s ∧ s.name ∉ seen ∧
      ∀ rest, parseLines number seen (line :: rest) =
        (parseLines (number + 1) (s.name :: seen) rest).map (s :: ·)) := by
  by_cases hskip : Skipped line
  · exact .inl ⟨hskip, parseLines_of_skipped hskip number seen⟩
  cases hparse : parseLine (Text.trim line) with
  | error fault =>
    refine .inr (.inl ⟨hskip, fun s hs => ?_, fault, parseLines_of_error hskip hparse number seen⟩)
    rw [hs.parseLine_trim] at hparse
    cases hparse
  | ok s =>
    have hline := parseLine_trim_eq_ok_iff.1 hparse
    have hread := parseLines_of_signature hskip hline number seen
    by_cases hseen : s.name ∈ seen
    · simp only [if_pos hseen] at hread
      exact .inr (.inl ⟨hskip, fun s' hs' => hline.unique hs' ▸ hseen, _, hread⟩)
    · simp only [if_neg hseen] at hread
      exact .inr (.inr ⟨hskip, s, hline, hseen, hread⟩)

/-! ## 3. Files that are read -/

/-- Reading lines follows the grammar, and takes no name that was given before. -/
theorem parseLines_eq_ok_iff :
    parseLines number seen lines = .ok signatures ↔
      SignatureFile lines signatures ∧ ∀ s ∈ signatures, s.name ∉ seen := by
  induction lines generalizing number seen signatures with
  | nil =>
    rw [parseLines, Except.ok.injEq, signatureFile_nil_iff]
    constructor
    · rintro rfl
      exact ⟨rfl, by simp⟩
    · rintro ⟨rfl, _⟩
      rfl
  | cons line rest ih =>
    rcases parseLines_cases number seen line with ⟨hskip, hread⟩ | ⟨hskip, hold, fault, hread⟩ |
      ⟨hskip, s, hline, hnew, hread⟩
    case inl => rw [hread, ih, signatureFile_cons_of_skipped hskip]
    case inr.inl =>
      rw [hread, signatureFile_cons_iff hskip]
      constructor
      · intro h
        cases h
      · rintro ⟨⟨s, more, hs, _, _, rfl⟩, hseen⟩
        exact absurd (hold s hs) (hseen s List.mem_cons_self)
    case inr.inr =>
      rw [hread, map_eq_ok_iff, signatureFile_cons_iff hskip]
      constructor
      · rintro ⟨more, hmore, rfl⟩
        obtain ⟨hfile, hseen⟩ := ih.1 hmore
        refine ⟨⟨s, more, hline, hfile, fun t ht heq => hseen t ht (by simp [heq]), rfl⟩, ?_⟩
        exact List.forall_mem_cons.2 ⟨hnew, fun t ht => mt (List.mem_cons_of_mem _) (hseen t ht)⟩
      · rintro ⟨⟨s', more, hs', hfile, hdistinct, rfl⟩, hseen⟩
        obtain rfl := hline.unique hs'
        refine ⟨more, ih.2 ⟨hfile, fun t ht hmem => ?_⟩, rfl⟩
        rcases List.mem_cons.1 hmem with heq | hmem
        · exact hdistinct t ht heq.symm
        · exact hseen t (List.mem_cons_of_mem s ht) hmem

/-- Reading a text follows the grammar. -/
theorem parseSignatures_eq_ok_iff {text : Text} :
    parseSignatures text = .ok signatures ↔ SignatureFile (Text.lines text) signatures := by
  rw [parseSignatures, parseLines_eq_ok_iff]
  simp

/-- Signatures are given if every line that is not skipped gives one, and no two the same name. -/
theorem exists_signatureFile_iff :
    (∃ signatures, SignatureFile lines signatures) ↔
      (∀ line ∈ significant lines, ∃ s, SignatureLine line s) ∧
      (significant lines).Pairwise NamesDiffer := by
  induction lines with
  | nil =>
    refine ⟨fun _ => ⟨fun line hline => ?_, .nil⟩, fun _ => ⟨[], signatureFile_nil_iff.2 rfl⟩⟩
    cases hline
  | cons line rest ih =>
    by_cases hskip : Skipped line
    · simp only [signatureFile_cons_of_skipped hskip, significant_cons_of_skipped hskip, ih]
    simp only [signatureFile_cons_iff hskip, significant_cons_of_not_skipped hskip,
      List.forall_mem_cons, List.pairwise_cons]
    constructor
    · rintro ⟨_, s, more, hline, hfile, hdistinct, _⟩
      obtain ⟨hall, hpairs⟩ := ih.1 ⟨more, hfile⟩
      refine ⟨⟨⟨s, hline⟩, hall⟩, fun line' hline' t t' ht ht' => ?_, hpairs⟩
      obtain ⟨u, hu, hlineu⟩ := hfile.exists_signature hline'
      rw [ht.unique hline, ht'.unique hlineu]
      exact hdistinct u hu
    · rintro ⟨⟨⟨s, hline⟩, hall⟩, hdiffer, hpairs⟩
      obtain ⟨more, hfile⟩ := ih.2 ⟨hall, hpairs⟩
      refine ⟨_, s, more, hline, hfile, fun t ht => ?_, rfl⟩
      obtain ⟨line', hline', hlinet⟩ := hfile.exists_line ht
      exact hdiffer line' hline' s t hline hlinet

/-! ## 4. Files that fail -/

/-- A failure splits the lines at the one that is at fault. The lines before it are read, and the
lines after it do not matter. -/
theorem parseLines_eq_error {e : ParseError} (h : parseLines number seen lines = .error e) :
    ∃ before line after, lines = before ++ line :: after ∧ e.line = number + before.length ∧
      (∃ signatures, parseLines number seen before = .ok signatures) ∧
      ∀ rest, parseLines number seen (before ++ line :: rest) = .error e := by
  induction lines generalizing number seen with
  | nil => cases h
  | cons first rest ih =>
    rcases parseLines_cases number seen first with ⟨_, hread⟩ | ⟨_, _, fault, hread⟩ |
      ⟨_, s, _, _, hread⟩
    case inl =>
      rw [hread] at h
      obtain ⟨before, line, after, rfl, hnumber, ⟨signatures, hbefore⟩, hfails⟩ := ih h
      refine ⟨first :: before, line, after, rfl, ?_, ⟨signatures, by rw [hread, hbefore]⟩, ?_⟩
      · rw [hnumber, List.length_cons]
        omega
      · intro more
        rw [List.cons_append, hread, hfails]
    case inr.inl =>
      rw [hread] at h
      cases h
      exact ⟨[], first, rest, rfl, rfl, ⟨[], rfl⟩, hread⟩
    case inr.inr =>
      rw [hread, map_eq_error_iff] at h
      obtain ⟨before, line, after, rfl, hnumber, ⟨signatures, hbefore⟩, hfails⟩ := ih h
      refine ⟨first :: before, line, after, rfl, ?_, ⟨s :: signatures, ?_⟩, ?_⟩
      · rw [hnumber, List.length_cons]
        omega
      · rw [hread, hbefore]
        rfl
      · intro more
        rw [List.cons_append, hread, hfails]
        rfl

/-- Reading a text follows the grammar of signature files: the signatures are those of the lines
that are not skipped, in order. It succeeds if each of these lines gives a signature and no two give
the same name. If it fails, the error gives a line such that the lines before it are a text that is
read, and every text with the same lines up to it fails with the same error. -/
theorem parseSignatures_accepts_or_fails_first (text : Text) :
    (∀ signatures, parseSignatures text = .ok signatures ↔
      SignatureFile (Text.lines text) signatures) ∧
    ((∃ signatures, parseSignatures text = .ok signatures) ↔
      (∀ line ∈ significant (Text.lines text), ∃ s, SignatureLine line s) ∧
      (significant (Text.lines text)).Pairwise NamesDiffer) ∧
    ∀ e, parseSignatures text = .error e →
      1 ≤ e.line ∧ e.line ≤ (Text.lines text).length ∧
      (∃ start, start <+: text ∧ Text.lines start = (Text.lines text).take (e.line - 1)) ∧
      (∀ start, Text.lines start = (Text.lines text).take (e.line - 1) →
        ∃ signatures, parseSignatures start = .ok signatures) ∧
      ∀ other, (Text.lines text).take e.line <+: Text.lines other →
        parseSignatures other = .error e := by
  refine ⟨fun signatures => parseSignatures_eq_ok_iff, ?_, fun e he => ?_⟩
  · simp only [parseSignatures_eq_ok_iff, exists_signatureFile_iff]
  · obtain ⟨before, line, after, hlines, hnumber, ⟨signatures, hbefore⟩, hfails⟩ :=
      parseLines_eq_error he
    have hinit : (Text.lines text).take (e.line - 1) = before := by
      rw [hlines, hnumber, Nat.add_sub_cancel_left, List.take_left]
    have hthrough : (Text.lines text).take e.line = before ++ [line] := by
      rw [hlines, hnumber, Nat.add_comm, List.take_length_add_append, List.take_succ_cons,
        List.take_zero]
    refine ⟨?_, ?_, ?_, fun start hstart => ?_, fun other hother => ?_⟩
    · rw [hnumber]
      exact Nat.le_add_right 1 _
    · rw [hnumber, hlines, List.length_append, List.length_cons]
      omega
    · exact Text.exists_prefix_lines _ text
    · refine ⟨signatures, ?_⟩
      rw [parseSignatures, hstart, hinit, hbefore]
    · obtain ⟨rest, hrest⟩ := hother
      rw [parseSignatures, ← hrest, hthrough, List.append_assoc, List.singleton_append, hfails]

end ForeignCall
