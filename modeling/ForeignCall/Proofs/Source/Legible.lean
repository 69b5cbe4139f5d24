import ForeignCall.Proofs.Binding.Words
import ForeignCall.Proofs.Source.Literals
import ForeignCall.Proofs.Text.Pieces

/-!
# Legible tokens

Printed code is read back as the tokens it was printed from, as long as its words are names, its
literals are those that generated code has, and its marks are glued to marks only.

* `Leaf` are the tokens that are read back wherever they stand, `Leaf.leafToken?_append`.
* `Legible` are the lists of tokens, `Legible.lexes`.
-/

namespace ForeignCall

/-! ## 1. Characters -/

/-- The characters that may follow a token that is printed. -/
def edges : List Char := [' ', '\n', ')', ']']

/-- What may follow a token that is printed, if anything does. -/
def Edge (rest : Text) : Prop := rest = [] ∨ ∃ c ∈ edges, ∃ more, rest = c :: more

/-- The characters that what looks like a name may end with without being one. -/
def quotes : List Char := ['"', '\'', '#']

/-- The marks that begin no comment and no lifetime. -/
def plainMarks : List Char :=
  ['~', '!', '@', '#', '$', '%', '^', '&', '*', '-', '=', '+', '|', ';', ':', ',', '<', '.', '>',
    '?']

/-- A word, a literal or an operator may begin like this. -/
def beginsLeaf (c : Char) : Bool := isSymbolPart c || c ∈ plainMarks || c == '"'

theorem forall_ascii {p : Char → Bool} (h : ∀ n < 128, p (Char.ofNat n) = true) {c : Char}
    (hc : c.toNat < 128) : p c = true := by
  have hp := h c.toNat hc
  rwa [Char.ofNat_toNat] at hp

theorem toNat_lt_of_beginsLeaf {c : Char} (h : beginsLeaf c = true) : c.toNat < 128 := by
  simp only [beginsLeaf, Bool.or_eq_true, decide_eq_true_eq, beq_iff_eq] at h
  rcases h with (h | h) | rfl
  · simp only [isSymbolPart, Char.isAlphanum, Char.isAlpha, Char.isUpper, Char.isLower,
      Char.isDigit, Bool.or_eq_true, Bool.and_eq_true, decide_eq_true_eq, beq_iff_eq] at h
    rcases h with ((h | h) | h) | rfl
    · exact Nat.lt_of_le_of_lt (UInt32.le_iff_toNat_le.1 h.2) (by decide)
    · exact Nat.lt_of_le_of_lt (UInt32.le_iff_toNat_le.1 h.2) (by decide)
    · exact Nat.lt_of_le_of_lt (UInt32.le_iff_toNat_le.1 h.2) (by decide)
    · decide
  · have hall : plainMarks.all (fun c => c.toNat < 128) = true := by decide
    exact of_decide_eq_true (List.all_eq_true.1 hall c h)
  · decide

/-- What a leaf begins with is no blank, no bracket and no slash. -/
theorem beginsLeaf_plain {c : Char} (h : beginsLeaf c = true) : isTokenBlank c = false ∧ c ≠ '/' ∧
    Bracket.all.find? (·.left = c) = none ∧ Bracket.all.find? (·.right = c) = none := by
  have hall := forall_ascii (p := fun c => !beginsLeaf c || (!isTokenBlank c && c != '/' &&
    (Bracket.all.find? (·.left = c)).isNone && (Bracket.all.find? (·.right = c)).isNone))
    (by decide_cbv) (toNat_lt_of_beginsLeaf h)
  simpa [h, and_assoc] using hall

theorem beginsLeaf_of_isSymbolPart {c : Char} (h : isSymbolPart c = true) :
    beginsLeaf c = true := by
  rw [beginsLeaf, h, Bool.true_or, Bool.true_or]

theorem isIdentPart_of_isSymbolPart {c : Char} (h : isSymbolPart c = true) :
    isIdentPart c = true := by
  have hc := toNat_lt_of_beginsLeaf (beginsLeaf_of_isSymbolPart h)
  rw [isIdentPart, if_pos hc]
  exact h

theorem Edge.not_part {c : Char} {more : Text} (h : Edge (c :: more)) :
    isSymbolPart c = false ∧ isIdentPart c = false ∧ c ∉ Token.marks ∧ c ∉ quotes := by
  obtain ⟨d, hd, rest, heq⟩ := h.resolve_left nofun
  obtain ⟨rfl, -⟩ := List.cons.inj heq
  have hall : edges.all (fun c => !isSymbolPart c && !isIdentPart c && c ∉ Token.marks &&
      c ∉ quotes) = true := by decide_cbv
  simpa [and_assoc] using List.all_eq_true.1 hall c hd

theorem Edge.skipWord_eq {rest : Text} (h : Edge rest) : skipWord rest = rest := by
  obtain rfl | ⟨c, hc, more, rfl⟩ := h
  · rfl
  have hall : edges.all (fun c => !(isIdentStart c || c == '_')) = true := by decide_cbv
  have hstart : (isIdentStart c || c == '_') = false := by
    simpa using List.all_eq_true.1 hall c hc
  rw [skipWord, wordFront?, if_neg (by rw [hstart]; exact Bool.false_ne_true)]
  rfl

theorem Edge.markFront_eq {rest : Text} (h : Edge rest) : markFront rest = false := by
  obtain rfl | ⟨c, hc, more, rfl⟩ := h
  · rfl
  have hall : ∀ c ∈ edges, ∀ more, markFront (c :: more) = false := by
    simp only [edges, List.forall_mem_cons]
    exact ⟨fun _ => rfl, fun _ => rfl, fun _ => rfl, fun _ => rfl, List.forall_mem_nil _⟩
  exact hall c hc more

/-! ## 2. Words -/

section Words

variable {w rest : Text}

/-- Where the first character in a text is that is no part of a name. -/
theorem span_eq (hw : ∀ c ∈ w, isSymbolPart c = true) (hrest : Edge rest) {front more : Text}
    {d : Char} (hfront : front.all isSymbolPart = true) (hd : d ∈ quotes)
    (h : w ++ rest = front ++ d :: more) : False := by
  have hnot : isSymbolPart d = false := by
    have hall : quotes.all (fun d => !isSymbolPart d) = true := by decide_cbv
    exact Bool.not_inj (List.all_eq_true.1 hall d hd)
  have htake := congrArg (List.dropWhile isSymbolPart) h
  rw [List.dropWhile_append_of_pos hw, List.dropWhile_append_of_pos (List.all_eq_true.1 hfront),
    List.dropWhile_cons_of_neg (by rw [hnot]; exact Bool.false_ne_true)] at htake
  obtain rfl | ⟨c, hc, tail, rfl⟩ := id hrest
  · cases htake
  · obtain ⟨hpart, -, -, hplain⟩ := hrest.not_part
    rw [List.dropWhile_cons_of_neg (by rw [hpart]; exact Bool.false_ne_true)] at htake
    rw [(List.cons.inj htake).1] at hplain
    exact hplain hd

/-- A name does not begin like anything with a quote or a hash in it. -/
theorem stripPrefix?_eq_none (hw : ∀ c ∈ w, isSymbolPart c = true) (hrest : Edge rest)
    {front more : Text} {d : Char} (hfront : front.all isSymbolPart = true)
    (hd : d ∈ quotes) : Text.stripPrefix? (front ++ d :: more) (w ++ rest) = none := by
  cases h : Text.stripPrefix? (front ++ d :: more) (w ++ rest) with
  | none => rfl
  | some tail =>
    have heq := Text.stripPrefix?_eq_some_iff.1 h
    rw [List.append_assoc] at heq
    exact (span_eq hw hrest hfront hd heq).elim

theorem quoted?_eq_none (hw : ∀ c ∈ w, isSymbolPart c = true) (hrest : Edge rest)
    (kind : Literal.Kind) {plain raw : Text} (hplain : plain.all isSymbolPart = true)
    (hraw : raw.all isSymbolPart = true) :
    Literal.quoted? kind plain raw (w ++ rest) = none := by
  have hquote : ("\"" : Text) = ['"'] := rfl
  rw [Literal.quoted?, hquote, stripPrefix?_eq_none hw hrest hplain (by decide)]
  cases hstrip : Text.stripPrefix? raw (w ++ rest) with
  | none => rfl
  | some tail =>
    have heq := Text.stripPrefix?_eq_some_iff.1 hstrip
    dsimp only
    split
    · next more hdrop =>
      have htail : tail = tail.takeWhile (· == '#') ++ '"' :: more := by
        rw [← hdrop]
        exact (List.prefix_iff_eq_append.1 (List.takeWhile_prefix _)).symm
      cases hhashes : tail.takeWhile (· == '#') with
      | nil =>
        rw [hhashes] at htail
        exact (span_eq hw hrest hraw (by decide) (htail ▸ heq)).elim
      | cons c hashes =>
        have hmem : c ∈ tail.takeWhile (· == '#') := hhashes ▸ List.mem_cons_self
        have hc : (c == '#') = true := List.mem_takeWhile_imp (p := (· == '#')) hmem
        rw [hhashes] at htail
        exact (span_eq hw hrest hraw (by rw [eq_of_beq hc]; decide) (htail ▸ heq)).elim
    · rfl

theorem character?_eq_none (hw : ∀ c ∈ w, isSymbolPart c = true) (hrest : Edge rest)
    (kind : Literal.Kind) {start : Text} (hstart : start.all isSymbolPart = true) :
    Literal.character? kind start (w ++ rest) = none := by
  have hquote : ("'" : Text) = ['\''] := rfl
  rw [Literal.character?, hquote, stripPrefix?_eq_none hw hrest hstart (by decide)]

/-- What is made of parts of names is no literal with quotes. -/
theorem rest?_eq_of_parts (hw : ∀ c ∈ w, isSymbolPart c = true) (hrest : Edge rest) :
    Literal.rest? (w ++ rest) =
      ((Literal.floatDigits? (w ++ rest)).bind Literal.numberEnd?).or
        (Literal.whole? (w ++ rest)) := by
  have hquoted (kind : Literal.Kind) {plain raw : Text} :=
    @quoted?_eq_none w rest hw hrest kind plain raw
  have hcharacter (kind : Literal.Kind) {start : Text} :=
    @character?_eq_none w rest hw hrest kind start
  simp only [Literal.rest?]
  rw [hquoted .text (by decide) (by decide), hquoted .bytes (by decide) (by decide),
    hquoted .native (by decide) (by decide), hcharacter .bytes (by decide),
    hcharacter .text (by decide)]
  rfl

/-- A letter is no digit. -/
theorem isDigit_of_isAlpha {c : Char} (h : c.isAlpha = true ∨ c = '_') : c.isDigit = false := by
  have hpart : isSymbolPart c = true := by
    rcases h with h | rfl
    · rw [isSymbolPart, Char.isAlphanum, h]
      rfl
    · rfl
  have hall := forall_ascii (p := fun c => !(c.isAlpha || c == '_') || !c.isDigit)
    (by decide_cbv) (toNat_lt_of_beginsLeaf (beginsLeaf_of_isSymbolPart hpart))
  rcases h with h | rfl
  · simpa [h] using hall
  · rfl

/-- A name is not the beginning of a number. -/
theorem rest?_eq_none_of_symbol (hw : isSymbolName w = true) (hrest : Edge rest) :
    Literal.rest? (w ++ rest) = none := by
  rw [rest?_eq_of_parts (isSymbolName_iff_head?.1 hw).2 hrest]
  obtain ⟨c, tail, rfl, hc, -⟩ := isSymbolName_iff.1 hw
  have hdigit := isDigit_of_isAlpha hc
  have hfloat : Literal.floatDigits? (c :: tail ++ rest) = none := by
    rw [Literal.floatDigits?]
    simp [hdigit]
  have hwhole : Literal.whole? (c :: tail ++ rest) = none := by
    have hne : c ≠ '0' := by
      rintro rfl
      cases hdigit
    have hdigits : Literal.wholeDigits? 10 false (c :: (tail ++ rest)) = none := by
      rw [Literal.wholeDigits?]
      simp [hdigit]
    rw [Literal.whole?, List.cons_append]
    · rw [hdigits]
      rfl
    all_goals
      intro _ heq
      exact hne (List.cons.inj heq).1
  rw [hfloat, hwhole]
  rfl

theorem markToken?_eq_none {c : Char} (h : isSymbolPart c = true) (more : Text) :
    markToken? (c :: more) = none := by
  have hall := forall_ascii (p := fun c => !isSymbolPart c || (c ∉ Token.marks && c != '/'))
    (by decide +kernel) (toNat_lt_of_beginsLeaf (beginsLeaf_of_isSymbolPart h))
  have hc : c ∉ Token.marks ∧ c ≠ '/' := by simpa [h] using hall
  have hfront : markFront (c :: more) = false := by
    unfold markFront
    split <;> simp_all
  rw [markToken?, hfront]
  rfl

theorem literalStarts_eq_false (hw : ∀ c ∈ w, isSymbolPart c = true) (hrest : Edge rest) :
    (literalStarts.any fun start => (Text.stripPrefix? start (w ++ rest)).isSome) = false := by
  have hnone {front more : Text} {d : Char} :=
    @stripPrefix?_eq_none w rest hw hrest front more d
  have hstarts : ∀ start ∈ literalStarts, ∃ front d more, start = front ++ d :: more ∧
      front.all isSymbolPart = true ∧ d ∈ quotes := by
    have hspans : literalStarts.all (fun start =>
        (start.dropWhile isSymbolPart).head?.any (· ∈ quotes)) = true := by decide_cbv
    intro start hstart
    have hspan := List.all_eq_true.1 hspans start hstart
    have hsplit := (List.takeWhile_append_dropWhile (p := isSymbolPart) (l := start)).symm
    cases hdrop : start.dropWhile isSymbolPart with
    | nil =>
      rw [hdrop] at hspan
      cases hspan
    | cons d more =>
      rw [hdrop] at hspan hsplit
      exact ⟨_, d, more, hsplit, List.all_takeWhile, of_decide_eq_true hspan⟩
  rw [List.any_eq_false]
  intro start hstart
  obtain ⟨front, d, more, rfl, hfront, hd⟩ := hstarts start hstart
  rw [hnone hfront hd]
  exact Bool.false_ne_true

theorem wordFront?_append (hw : isSymbolName w = true) (hrest : Edge rest) :
    wordFront? (w ++ rest) = some (w, rest) := by
  obtain ⟨c, tail, rfl, hc, htail⟩ := isSymbolName_iff.1 hw
  have hstart : (isIdentStart c || c == '_') = true := by
    have hpart := (isSymbolName_iff_head?.1 hw).2 c List.mem_cons_self
    rw [isIdentStart, if_pos (toNat_lt_of_beginsLeaf (beginsLeaf_of_isSymbolPart hpart))]
    rcases hc with hc | rfl
    · rw [hc]
      rfl
    · rfl
  have hparts : ∀ d ∈ tail, isIdentPart d = true := fun d hd =>
    isIdentPart_of_isSymbolPart (htail d hd)
  rw [List.cons_append, wordFront?, if_pos hstart, List.takeWhile_append_of_pos hparts,
    List.dropWhile_append_of_pos hparts]
  obtain rfl | ⟨d, hd, more, rfl⟩ := id hrest
  · rw [List.takeWhile_nil, List.dropWhile_nil, List.append_nil]
  · obtain ⟨-, hident, -⟩ := hrest.not_part
    have hneg : ¬ isIdentPart d = true := by rw [hident]; exact Bool.false_ne_true
    rw [List.takeWhile_cons_of_neg hneg, List.dropWhile_cons_of_neg hneg, List.append_nil]

/-- A name is read back. -/
theorem leafToken?_symbol (hw : isSymbolName w = true) (hrest : Edge rest) :
    leafToken? (w ++ rest) = some (.word w, rest) := by
  have hparts := (isSymbolName_iff_head?.1 hw).2
  have hmark : markToken? (w ++ rest) = none := by
    obtain ⟨c, tail, rfl, -⟩ := isSymbolName_iff.1 hw
    exact markToken?_eq_none (hparts c List.mem_cons_self) _
  have hraw : Text.stripPrefix? "r#" (w ++ rest) = none :=
    @stripPrefix?_eq_none _ _ hparts hrest ['r'] _ _ (by decide) (by decide)
  rw [leafToken?, rest?_eq_none_of_symbol hw hrest, hmark]
  dsimp only
  rw [literalStarts_eq_false hparts hrest, nameFront?, hraw]
  dsimp only
  rw [wordFront?_append hw hrest]
  rfl

/-- A name that is written raw is read back. -/
theorem leafToken?_raw (hw : isSymbolName w = true) (hraw : w ∉ neverRaw) (hrest : Edge rest) :
    leafToken? ("r#" ++ w ++ rest) = some (.word ("r#" ++ w), rest) := by
  have hparts := (isSymbolName_iff_head?.1 hw).2
  have hmark : markToken? ('r' :: '#' :: (w ++ rest)) = none := markToken?_eq_none (by decide) _
  obtain ⟨c, tail, hcons, hc, -⟩ := isSymbolName_iff.1 hw
  have hquote : c ≠ '"' := by
    rintro rfl
    exact absurd hc (by decide)
  have hhash : c ≠ '#' := by
    rintro rfl
    exact absurd hc (by decide)
  have hliteral : Literal.rest? ('r' :: '#' :: (w ++ rest)) = none := by
    have hquoted : Literal.quoted? .text "" "r" ('r' :: '#' :: (w ++ rest)) = none := by
      have hplain : Text.stripPrefix? ("".toList ++ "\"") ('r' :: '#' :: (w ++ rest)) = none := rfl
      have hraw : Text.stripPrefix? "r" ('r' :: '#' :: (w ++ rest)) = some ('#' :: (w ++ rest)) :=
        rfl
      rw [Literal.quoted?, hplain, hraw, hcons]
      simp [hhash, hquote]
    simp only [Literal.rest?, hquoted]
    rfl
  have hstarts : (literalStarts.any fun start =>
      (Text.stripPrefix? start ('r' :: '#' :: (w ++ rest))).isSome) = false := by
    rw [hcons]
    simp [literalStarts, Text.stripPrefix?, Ne.symm hhash, Ne.symm hquote]
  have hname : nameFront? ('r' :: '#' :: (w ++ rest)) = some ('r' :: '#' :: w, rest) := by
    have hstrip : Text.stripPrefix? "r#" ('r' :: '#' :: (w ++ rest)) = some (w ++ rest) := rfl
    rw [nameFront?, hstrip]
    dsimp only
    rw [wordFront?_append hw hrest]
    dsimp only
    rw [if_neg hraw]
    rfl
  have hshape : "r#" ++ w ++ rest = 'r' :: '#' :: (w ++ rest) := rfl
  rw [hshape, leafToken?, hliteral, hmark]
  dsimp only
  rw [hstarts, hname]
  rfl

end Words

/-! ## 3. Literals -/

section Literals

variable {t rest : Text}

theorem leafToken?_literal (h : Literal.rest? (t ++ rest) = some rest) :
    leafToken? (t ++ rest) = some (.literal t, rest) := by
  have htake : (t ++ rest).take ((t ++ rest).length - rest.length) = t := by
    rw [List.length_append, Nat.add_sub_cancel, List.take_left]
  rw [leafToken?, h]
  exact congrArg (fun written => some (Token.literal written, rest)) htake

def suffixes : List Text := ["u32", "usize"]

theorem isSymbolPart_of_isDigit {c : Char} (h : c.isDigit = true) : isSymbolPart c = true := by
  rw [isSymbolPart, Char.isAlphanum, h, Bool.or_true]
  rfl

theorem wholeDigits?_append {digits : Text} (hdigits : ∀ c ∈ digits, c.isDigit = true)
    (more : Text) {found : Bool} (hfound : found = true ∨ digits ≠ []) :
    Literal.wholeDigits? 10 found (digits ++ 'u' :: more) = some ('u' :: more) := by
  induction digits generalizing found with
  | nil =>
    rw [hfound.resolve_right (fun h => h rfl)]
    rfl
  | cons c digits ih =>
    obtain ⟨hc, hdigits⟩ := List.forall_mem_cons.1 hdigits
    have hten : c.toNat - '0'.toNat < 10 := by
      have hall := forall_ascii (p := fun c => !c.isDigit || c.toNat - '0'.toNat < 10)
        (by decide_cbv)
        (toNat_lt_of_beginsLeaf (beginsLeaf_of_isSymbolPart (isSymbolPart_of_isDigit hc)))
      simpa [hc] using hall
    rw [List.cons_append, Literal.wholeDigits?, if_pos hc, if_pos hten]
    exact ih hdigits (.inl rfl)

theorem whole?_append {digits : Text} (hdigits : ∀ c ∈ digits, c.isDigit = true)
    (hne : digits ≠ []) (more : Text) :
    Literal.whole? (digits ++ 'u' :: more) = Literal.numberEnd? ('u' :: more) := by
  have hwhole := @wholeDigits?_append _ hdigits more false (.inr hne)
  have hbase (base : Char) (hbase : base ∈ ['x', 'o', 'b']) (tail : Text) :
      digits ++ 'u' :: more ≠ '0' :: base :: tail := by
    intro heq
    match digits, hne with
    | [c], _ =>
      cases heq
      exact absurd hbase (by decide)
    | c :: d :: digits, _ =>
      cases heq
      have hd := hdigits base (by simp)
      revert hd
      simp only [List.mem_cons, List.not_mem_nil, or_false] at hbase
      rcases hbase with rfl | rfl | rfl <;> decide
  rw [Literal.whole?, hwhole]
  · rfl
  · exact fun tail heq => hbase 'x' (by decide) tail heq
  · exact fun tail heq => hbase 'o' (by decide) tail heq
  · exact fun tail heq => hbase 'b' (by decide) tail heq

/-- A number with a suffix is read back. -/
theorem rest?_number (n : Nat) {suffix : Text} (hsuffix : suffix ∈ suffixes) (hrest : Edge rest) :
    Literal.rest? (Text.ofNat n ++ suffix ++ rest) = some rest := by
  have hdigits : ∀ c ∈ Text.ofNat n, c.isDigit = true := fun c hc =>
    Nat.isDigit_of_mem_toDigits (by decide) (by decide) hc
  obtain ⟨hname, tail, hshape⟩ : isSymbolName suffix = true ∧ ∃ tail, suffix = 'u' :: tail := by
    simp only [suffixes, List.mem_cons, List.not_mem_nil, or_false] at hsuffix
    rcases hsuffix with rfl | rfl
    · exact ⟨by decide, _, rfl⟩
    · exact ⟨by decide, _, rfl⟩
  have hparts : ∀ c ∈ Text.ofNat n ++ suffix, isSymbolPart c = true :=
    List.forall_mem_append.2 ⟨fun c hc => isSymbolPart_of_isDigit (hdigits c hc),
      (isSymbolName_iff_head?.1 hname).2⟩
  have hend : Literal.numberEnd? (suffix ++ rest) = some rest := by
    have hskip : skipWord (suffix ++ rest) = rest := by
      rw [skipWord, wordFront?_append hname hrest]
      rfl
    rw [Literal.numberEnd?, hskip]
    obtain rfl | ⟨c, hc, more, rfl⟩ := id hrest
    · rfl
    · simp [hrest.not_part.2.1]
  have hfloat : Literal.floatDigits? (Text.ofNat n ++ suffix ++ rest) = none := by
    have hdrop : (Text.ofNat n ++ suffix ++ rest).dropWhile Literal.isDigitPart =
        'u' :: (tail ++ rest) := by
      have hdigitParts : ∀ c ∈ Text.ofNat n, Literal.isDigitPart c = true := fun c hc => by
        rw [Literal.isDigitPart, hdigits c hc, Bool.true_or]
      rw [List.append_assoc, List.dropWhile_append_of_pos hdigitParts, hshape]
      rfl
    rw [Literal.floatDigits?, hdrop]
    split <;> rfl
  rw [rest?_eq_of_parts hparts hrest, hfloat, List.append_assoc, hshape, List.cons_append,
    whole?_append hdigits Nat.toDigits_ne_nil, ← List.cons_append, ← hshape, hend]
  rfl

theorem rawBody?_append (hquote : '"' ∉ t) (hreturn : '\r' ∉ t) (rest : Text) :
    Literal.rawBody? .text [] (t ++ '"' :: rest) = some (t.map Char.toNat, rest) := by
  induction t with
  | nil => rfl
  | cons c t ih =>
    rw [List.mem_cons, not_or] at hquote hreturn
    rw [List.cons_append, Literal.rawBody?, if_neg (Ne.symm hquote.1), ih hquote.2 hreturn.2]
    · rfl
    · intro heq
      exact absurd heq.symm hreturn.1

/-- A text between quotes that is written raw is read back. -/
theorem rest?_raw (hquote : '"' ∉ t) (hreturn : '\r' ∉ t) (hrest : Edge rest) :
    Literal.rest? ("r\"" ++ t ++ "\"" ++ rest) = some rest := by
  have hshape : "r\"" ++ t ++ "\"" ++ rest = 'r' :: '"' :: (t ++ '"' :: rest) := by
    simp
  have hquoted : Literal.quoted? .text "" "r" ('r' :: '"' :: (t ++ '"' :: rest)) =
      some (t.map Char.toNat, rest) := by
    rw [← rawBody?_append hquote hreturn rest]
    rfl
  rw [hshape]
  simp only [Literal.rest?, hquoted, List.map_cons, Option.map_some, List.cons_append,
    List.findSome?_cons, id_eq, hrest.skipWord_eq]

theorem one_le_length_escape (c : Char) : 1 ≤ (Quoted.escape c).length := by
  have hlength := Literal.length_le_flatMap_escape [c]
  rwa [List.flatMap_singleton] at hlength

theorem length_le_literalBody (t : Text) : t.length ≤ (Quoted.literalBody t).length := by
  induction t using Quoted.literalBody.induct with
  | case1 => exact Nat.zero_le 0
  | case2 c t ih =>
    rw [Quoted.literalBody, List.length_append, List.length_cons, Nat.add_comm]
    exact Nat.add_le_add (by split <;> decide) ih
  | case3 c t hc ih =>
    rw [Quoted.literalBody, List.length_append, List.length_cons, Nat.add_comm]
    · exact Nat.add_le_add (one_le_length_escape c) ih
    · exact hc

/-- The contents of a literal are read back up to the closing quote. -/
theorem body?_literalBody {n : Nat} (h : t.length < n) (rest : Text) :
    Literal.body? .text n (Quoted.literalBody t ++ '"' :: rest) =
      some (t.map Char.toNat, rest) := by
  induction t using Quoted.literalBody.induct generalizing n with
  | case1 =>
    obtain ⟨n, rfl⟩ := Nat.exists_eq_add_one_of_ne_zero (Nat.ne_of_gt h)
    rfl
  | case2 c t ih =>
    obtain ⟨n, rfl⟩ := Nat.exists_eq_add_one_of_ne_zero (Nat.ne_zero_of_lt h)
    rw [Quoted.literalBody, List.append_assoc]
    have hrest := ih (Nat.lt_of_succ_lt_succ h)
    have hzero (more : Text) : Literal.body? .text (n + 1)
        ((if '0' ≤ c ∧ c ≤ '7' then "\\x00".toList else "\\0") ++ more) =
          (Literal.body? .text n more).map fun r => (0 :: r.1, r.2) := by
      split
      · exact Literal.body?_cons_escape (by decide) (by decide) rfl n
      · exact Literal.body?_cons_escape (by decide) (by decide) rfl n
    rw [hzero, hrest]
    rfl
  | case3 c t hc ih =>
    obtain ⟨n, rfl⟩ := Nat.exists_eq_add_one_of_ne_zero (Nat.ne_zero_of_lt h)
    rw [Quoted.literalBody, List.append_assoc, Literal.body?_escape, ih (Nat.lt_of_succ_lt_succ h)]
    · rfl
    · exact hc

theorem Literal.quoted?_literal (t rest : Text) :
    Literal.quoted? .text "" "r" (Quoted.literal t ++ rest) = some (t.map Char.toNat, rest) := by
  have hstart : Text.stripPrefix? ("".toList ++ "\"") (Quoted.literal t ++ rest) =
      some (Quoted.literalBody t ++ '"' :: rest) := by
    rw [Quoted.literal, List.cons_append, List.append_assoc]
    rfl
  have hlength : t.length < (Quoted.literalBody t ++ '"' :: rest).length + 1 := by
    rw [List.length_append]
    have := length_le_literalBody t
    omega
  rw [Literal.quoted?, hstart]
  exact body?_literalBody hlength rest

/-- A text between quotes is read back. -/
theorem rest?_quoted (t : Text) (hrest : Edge rest) :
    Literal.rest? (Quoted.literal t ++ rest) = some rest := by
  simp only [Literal.rest?, Literal.quoted?_literal, List.map_cons, Option.map_some,
    List.cons_append, List.findSome?_cons, id_eq, hrest.skipWord_eq]

end Literals

/-! ## 4. Tokens -/

/-- A token that is read back wherever it stands. -/
inductive Leaf : Token → Prop
  | word {w : Text} : isSymbolName w = true → Leaf (.word w)
  | raw {w : Text} : isSymbolName w = true → w ∉ neverRaw → Leaf (.word ("r#" ++ w))
  | mark {c : Char} : c ∈ plainMarks → Leaf (.mark c false)
  | number (n : Nat) {suffix : Text} : suffix ∈ suffixes →
      Leaf (.literal (Text.ofNat n ++ suffix))
  | rawText {t : Text} : '"' ∉ t → '\r' ∉ t → Leaf (.literal ("r\"" ++ t ++ "\""))
  | quoted (t : Text) : Leaf (.quoted t)
  | encoded (t : Text) : Leaf (.literal (Quoted.encode t))

theorem beginsLeaf_of_mem_plainMarks {c : Char} (h : c ∈ plainMarks) : beginsLeaf c = true := by
  rw [beginsLeaf, decide_eq_true h, Bool.or_true, Bool.true_or]

theorem mem_marks_of_mem_plainMarks {c : Char} (h : c ∈ plainMarks) :
    c ∈ Token.marks ∧ c ≠ '\'' ∧ c ≠ '/' := by
  have hall : plainMarks.all (fun c => c ∈ Token.marks && c != '\'' && c != '/') = true := by
    decide_cbv
  simpa [and_assoc] using List.all_eq_true.1 hall c h

theorem rest?_eq_none_of_mark {c : Char} (h : c ∈ plainMarks) (more : Text) :
    Literal.rest? (c :: more) = none := by
  have hall : ∀ c ∈ plainMarks, ∀ more, Literal.rest? (c :: more) = none := by
    simp only [plainMarks, List.forall_mem_cons]
    and_intros
    all_goals first | exact fun _ => rfl | exact List.forall_mem_nil _
  exact hall c h more

/-- A mark is read back, glued to what follows if that begins with a mark. -/
theorem leafToken?_mark {c : Char} (h : c ∈ plainMarks) (more : Text) :
    leafToken? (c :: more) = some (.mark c (markFront more), more) := by
  obtain ⟨hmark, hquote, hslash⟩ := mem_marks_of_mem_plainMarks h
  have hfront : markFront (c :: more) = true := by
    unfold markFront
    split <;> simp_all
  rw [leafToken?, rest?_eq_none_of_mark h, markToken?, hfront]
  simp [hquote]

theorem Leaf.leafToken?_append {t : Token} (h : Leaf t) {rest : Text} (hrest : Edge rest) :
    leafToken? (t.text ++ rest) = some (t, rest) := by
  cases h with
  | word hw => exact leafToken?_symbol hw hrest
  | raw hw hraw => exact leafToken?_raw hw hraw hrest
  | mark hc =>
    rw [Token.text, List.singleton_append, leafToken?_mark hc, hrest.markFront_eq]
  | number n hsuffix => exact leafToken?_literal (rest?_number n hsuffix hrest)
  | rawText hquote hreturn => exact leafToken?_literal (rest?_raw hquote hreturn hrest)
  | quoted t => exact leafToken?_literal (rest?_quoted t hrest)
  | encoded t => exact leafToken?_encode_append hrest.skipWord_eq t

theorem Leaf.exists_text {t : Token} (h : Leaf t) :
    ∃ c more, t.text = c :: more ∧ beginsLeaf c = true := by
  cases h with
  | word hw =>
    obtain ⟨c, tail, rfl, -⟩ := isSymbolName_iff.1 hw
    exact ⟨c, tail, rfl, beginsLeaf_of_isSymbolPart ((isSymbolName_iff_head?.1 hw).2 c
      List.mem_cons_self)⟩
  | raw hw hraw => exact ⟨'r', _, rfl, rfl⟩
  | mark hc => exact ⟨_, [], rfl, beginsLeaf_of_mem_plainMarks hc⟩
  | @number n suffix hsuffix =>
    obtain ⟨c, digits, hdigits⟩ := List.exists_cons_of_ne_nil (@Nat.toDigits_ne_nil n 10)
    have hc : c.isDigit = true :=
      Nat.isDigit_of_mem_toDigits (by decide) (by decide) (hdigits ▸ List.mem_cons_self)
    refine ⟨c, digits ++ suffix, ?_, beginsLeaf_of_isSymbolPart (isSymbolPart_of_isDigit hc)⟩
    rw [Token.text, Text.ofNat, hdigits, List.cons_append]
  | rawText hquote hreturn => exact ⟨'r', _, rfl, rfl⟩
  | quoted t => exact ⟨'"', _, rfl, rfl⟩
  | encoded t => exact ⟨'"', _, rfl, rfl⟩

/-- What follows a leaf is apart from it, or a bracket that closes. -/
theorem Leaf.edge {t : Token} (h : Leaf t) (ts : List Token) {rest : Text} (hrest : Edge rest) :
    Edge (Token.renderAfter t ts ++ rest) := by
  have hblank (more : Text) : Edge (' ' :: more) := .inr ⟨' ', by decide, more, rfl⟩
  cases ts with
  | nil => exact hrest
  | cons u us =>
    have hapart : Token.apart t u = true ∨ u = .closing .round ∨ u = .closing .square := by
      cases u with
      | closing b =>
        cases b with
        | round => exact .inr (.inl rfl)
        | square => exact .inr (.inr rfl)
        | curly => cases h <;> exact .inl rfl
      | _ => cases h <;> exact .inl rfl
    rw [Token.renderAfter]
    rcases hapart with hapart | rfl | rfl
    · rw [hapart]
      exact hblank _
    · split
      · exact hblank _
      · exact .inr ⟨')', by decide, _, rfl⟩
    · split
      · exact hblank _
      · exact .inr ⟨']', by decide, _, rfl⟩

/-! ## 5. Lists of tokens -/

/-- Tokens that are read back, printed with a blank between neighbours that are apart; the brackets
that are open before and after them, the innermost first. -/
inductive Legible : List Bracket → List Token → List Bracket → Prop
  | nil (pending : List Bracket) : Legible pending [] pending
  | leaf {before after : List Bracket} {t : Token} {ts : List Token} :
      Leaf t → Legible before ts after → Legible before (t :: ts) after
  | glued {before after : List Bracket} {c d : Char} {glued : Bool} {ts : List Token} :
      c ∈ plainMarks → d ∈ plainMarks → Legible before (.mark d glued :: ts) after →
        Legible before (.mark c true :: .mark d glued :: ts) after
  | lifetime {before after : List Bracket} {w : Text} {ts : List Token} :
      isSymbolName w = true → Legible before ts after →
        Legible before (.mark '\'' true :: .word w :: ts) after
  | opening {before after : List Bracket} {b : Bracket} {ts : List Token} :
      Legible (b :: before) ts after → Legible before (.opening b :: ts) after
  | closing {before after : List Bracket} {b : Bracket} {ts : List Token} :
      Legible before ts after → Legible (b :: before) (.closing b :: ts) after

namespace Legible

variable {before between after : List Bracket} {ts us : List Token} {rest : Text}

theorem append (h : Legible before ts between) (h' : Legible between us after) :
    Legible before (ts ++ us) after := by
  induction h with
  | nil => exact h'
  | leaf hleaf _ ih => exact .leaf hleaf (ih h')
  | glued hc hd _ ih => exact .glued hc hd (ih h')
  | lifetime hw _ ih => exact .lifetime hw (ih h')
  | opening _ ih => exact .opening (ih h')
  | closing _ ih => exact .closing (ih h')

theorem bracketed (b : Bracket) {inner : List Token}
    (h : Legible (b :: before) inner (b :: before)) :
    Legible before (bracketed b inner) before :=
  .opening (h.append (.closing (.nil before)))

end Legible

namespace Token

variable {before after pending : List Bracket} {ts : List Token} {rest : Text}

theorem lexes_blank : Lexes [' '] [] pending pending rest :=
  ⟨1, Nat.le_refl 1, fun n => by simp [lexFrom, isTokenBlank, isBlank]⟩

theorem docComment?_cons_of_ne {c : Char} (h : c ≠ '/') (s : Text) :
    docComment? (c :: s) = none ∧ plainComment? (c :: s) = none := by
  constructor
  · unfold docComment?
    split <;> simp_all
  · unfold plainComment?
    split <;> simp_all

theorem lexFrom_of_beginsLeaf {c : Char} {s : Text} (hc : beginsLeaf c = true) {t : Token}
    (hleaf : leafToken? (c :: s) = some (t, rest)) (n : Nat) :
    lexFrom (n + 1) pending (c :: s) = (lexFrom n pending rest).map (t :: ·) := by
  obtain ⟨hblank, hslash, hleft, hright⟩ := beginsLeaf_plain hc
  have hmissing : Text.stripPrefix? missingExpression (c :: s) = none := by
    have hround : '(' ≠ c := by
      rintro rfl
      cases hleft
    rw [show missingExpression = '(' :: "/*ERROR*/)".toList from rfl, Text.stripPrefix?,
      if_neg hround]
  exact lexFrom_leaf hblank (docComment?_cons_of_ne hslash s).1 (docComment?_cons_of_ne hslash s).2
    hmissing hleft hright hleaf n

theorem lexes_leaf {t : Token} (h : Leaf t) (hrest : Edge rest) :
    Lexes t.text [t] pending pending rest := by
  obtain ⟨c, more, htext, hc⟩ := h.exists_text
  have hleaf := h.leafToken?_append hrest
  rw [htext] at hleaf ⊢
  exact ⟨1, Nat.le_add_left 1 _, fun n => lexFrom_of_beginsLeaf hc hleaf n⟩

/-- What stands between a token and those that follow. -/
def gap (t : Token) : List Token → Text
  | [] => []
  | u :: _ => if apart t u then [' '] else []

theorem renderAfter_eq (t : Token) (ts : List Token) :
    renderAfter t ts = gap t ts ++ render ts := by
  cases ts with
  | nil => rfl
  | cons u us =>
    rw [renderAfter, gap]
    split <;> rfl

theorem lexes_gap (t : Token) (ts : List Token) : Lexes (gap t ts) [] pending pending rest := by
  have hnil : Lexes [] [] pending pending rest := ⟨0, Nat.le_refl 0, fun n => by simp⟩
  cases ts with
  | nil => exact hnil
  | cons u us =>
    rw [gap]
    split
    · exact lexes_blank
    · exact hnil

theorem lexes_glued {c d : Char} (hc : c ∈ plainMarks) (hd : d ∈ plainMarks) (more : Text) :
    Lexes [c] [.mark c true] pending pending (d :: more) := by
  obtain ⟨hmark, -, hslash⟩ := mem_marks_of_mem_plainMarks hd
  have hfront : markFront (d :: more) = true := by
    unfold markFront
    split <;> simp_all
  have hleaf := leafToken?_mark hc (d :: more)
  rw [hfront] at hleaf
  exact ⟨1, Nat.le_refl 1, fun n => lexFrom_of_beginsLeaf (beginsLeaf_of_mem_plainMarks hc) hleaf n⟩

theorem leafToken?_lifetime {w : Text} (hw : isSymbolName w = true) (hrest : Edge rest) :
    leafToken? ('\'' :: (w ++ rest)) = some (.mark '\'' true, w ++ rest) := by
  have hparts := (isSymbolName_iff_head?.1 hw).2
  have hliteral : Literal.rest? ('\'' :: (w ++ rest)) = none := by
    have hcharacter : Literal.character? .text "" ('\'' :: (w ++ rest)) = none := by
      obtain ⟨c, tail, rfl, hc, htail⟩ := isSymbolName_iff.1 hw
      have hslash : c ≠ '\\' := by
        rintro rfl
        exact absurd hc (by decide)
      have hquote : Text.stripPrefix? "'" (tail ++ rest) = none :=
        @stripPrefix?_eq_none _ _ htail hrest [] _ _ (by decide) (by decide)
      rw [Literal.character?, show Text.stripPrefix? ("".toList ++ "'")
        ('\'' :: (c :: tail ++ rest)) = some (c :: (tail ++ rest)) from rfl]
      split
      · next heq => cases heq
      · next heq => cases heq
      · next heq =>
        cases heq
        exact absurd rfl hslash
      · next heq =>
        cases heq
        exact hquote
    simp only [Literal.rest?, hcharacter]
    rfl
  have hname : nameFront? (w ++ rest) = some (w, rest) := by
    have hraw : Text.stripPrefix? "r#" (w ++ rest) = none :=
      @stripPrefix?_eq_none _ _ hparts hrest ['r'] _ _ (by decide) (by decide)
    rw [nameFront?, hraw]
    exact wordFront?_append hw hrest
  have hmark : markToken? ('\'' :: (w ++ rest)) = some (.mark '\'' true, w ++ rest) := by
    have hfront : markFront ('\'' :: (w ++ rest)) = true := rfl
    obtain rfl | ⟨c, hc, more, rfl⟩ := id hrest
    · rw [markToken?, hfront, if_pos rfl, hname]
      rfl
    · have hquotes := hrest.not_part.2.2.2
      have hne : c ≠ '\'' ∧ c ≠ '#' := by
        simp only [quotes, List.mem_cons, not_or] at hquotes
        exact ⟨hquotes.2.1, hquotes.2.2.1⟩
      simp [markToken?, hfront, hname, hne.1, hne.2]
  rw [leafToken?, hliteral, hmark]

theorem lexes_lifetime {w : Text} (hw : isSymbolName w = true) (hrest : Edge rest) :
    Lexes ['\''] [.mark '\'' true] pending pending (w ++ rest) :=
  ⟨1, Nat.le_refl 1, fun n => lexFrom_leaf rfl rfl rfl rfl rfl rfl (leafToken?_lifetime hw hrest) n⟩

theorem lexes_opening (b : Bracket) (h : rest.head? ≠ some '/') :
    Lexes [b.left] [.opening b] pending (b :: pending) rest := by
  refine ⟨1, Nat.le_refl 1, fun n => ?_⟩
  cases b with
  | round =>
    have hmissing : Text.stripPrefix? missingExpression ('(' :: rest) = none := by
      cases rest with
      | nil => rfl
      | cons c more =>
        have hc : '/' ≠ c := fun heq => h (congrArg some heq.symm)
        rw [show missingExpression = '(' :: '/' :: "*ERROR*/)".toList from rfl, Text.stripPrefix?,
          if_pos rfl, Text.stripPrefix?, if_neg hc]
    have hplain := docComment?_cons_of_ne (c := '(') (by decide) rest
    have hblank : isTokenBlank '(' = false := by decide
    have hleft : Bracket.all.find? (·.left = '(') = some .round := by decide
    rw [Bracket.left, List.singleton_append, lexFrom]
    simp only [hblank, hplain.1, hplain.2, hmissing, hleft, Bool.false_eq_true, if_false]
    rfl
  | square => rfl
  | curly => rfl

theorem lexes_closing (b : Bracket) : Lexes [b.right] [.closing b] (b :: pending) pending rest := by
  refine ⟨1, Nat.le_refl 1, fun n => ?_⟩
  cases b <;> rfl

end Token

namespace Legible

variable {before after : List Bracket} {ts : List Token} {rest : Text}

/-- Printed tokens do not begin with a comment. -/
theorem head?_ne (h : Legible before ts after) (hrest : Edge rest) :
    (Token.render ts ++ rest).head? ≠ some '/' := by
  have hbegins {c : Char} (hc : beginsLeaf c = true) : some c ≠ some '/' := fun heq =>
    (beginsLeaf_plain hc).2.1 (Option.some.inj heq)
  have hbracket (b : Bracket) : some b.left ≠ some '/' ∧ some b.right ≠ some '/' := by
    cases b <;> decide
  cases h with
  | nil =>
    obtain rfl | ⟨c, hc, more, rfl⟩ := hrest
    · rintro ⟨⟩
    · rintro ⟨⟩
      exact absurd hc (by decide)
  | leaf hleaf _ =>
    obtain ⟨c, more, htext, hc⟩ := hleaf.exists_text
    rw [Token.render, htext]
    exact hbegins hc
  | glued hc _ _ => exact hbegins (beginsLeaf_of_mem_plainMarks hc)
  | lifetime => rintro ⟨⟩
  | opening => exact (hbracket _).1
  | closing => exact (hbracket _).2

/-- Legible tokens are read back. -/
theorem lexes (h : Legible before ts after) (hrest : Edge rest) :
    Token.Lexes (Token.render ts) ts before after rest := by
  induction h with
  | nil => exact ⟨0, Nat.le_refl 0, fun n => by simp [Token.render]⟩
  | @leaf before after t ts hleaf _ ih =>
    have hedge := hleaf.edge ts hrest
    rw [Token.renderAfter_eq] at hedge
    rw [Token.render, Token.renderAfter_eq]
    exact (Token.lexes_leaf hleaf hedge).append ((Token.lexes_gap t ts).append ih)
  | @glued before after c d glued ts hc hd _ ih =>
    exact (Token.lexes_glued hc hd _).append ih
  | @lifetime before after w ts hw _ ih =>
    have hleaf := Leaf.word hw
    have hedge := hleaf.edge ts hrest
    rw [Token.renderAfter_eq] at hedge
    have hrender : Token.render (.mark '\'' true :: .word w :: ts) =
        ['\''] ++ (w ++ (Token.gap (.word w) ts ++ Token.render ts)) := by
      rw [Token.render, Token.renderAfter, Token.renderAfter_eq]
      rfl
    rw [hrender]
    have hword := (@Token.lexes_leaf before _ _ hleaf hedge).append
      ((Token.lexes_gap _ ts).append ih)
    have hmark : Token.Lexes ['\''] [.mark '\'' true] before before
        (w ++ (Token.gap (.word w) ts ++ Token.render ts) ++ rest) := by
      rw [List.append_assoc]
      exact Token.lexes_lifetime hw hedge
    exact hmark.append hword
  | @opening before after b ts h ih =>
    rw [Token.render, Token.renderAfter_eq]
    refine (Token.lexes_opening b ?_).append ((Token.lexes_gap _ ts).append ih)
    cases ts with
    | nil => exact h.head?_ne hrest
    | cons u us =>
      rw [Token.gap]
      split
      · rintro ⟨⟩
      · exact h.head?_ne hrest
  | @closing before after b ts _ ih =>
    rw [Token.render, Token.renderAfter_eq]
    exact (Token.lexes_closing b).append ((Token.lexes_gap _ ts).append ih)

/-- Brackets that were opened before do not matter. -/
theorem weaken (h : Legible before ts after) (pending : List Bracket) :
    Legible (before ++ pending) ts (after ++ pending) := by
  induction h with
  | nil => exact .nil _
  | leaf hleaf _ ih => exact .leaf hleaf ih
  | glued hc hd _ ih => exact .glued hc hd ih
  | lifetime hw _ ih => exact .lifetime hw ih
  | opening _ ih => exact .opening ih
  | closing _ ih => exact .closing ih

end Legible

/-! ## 6. Pieces of code -/

/-- Tokens that are legible, whatever is open around them. -/
def Piece (ts : List Token) : Prop := ∀ pending, Legible pending ts pending

namespace Piece

variable {α : Type} {t : Token} {ts us : List Token}

theorem nil : Piece [] := fun pending => .nil pending

theorem leaf (h : Leaf t) : Piece [t] := fun pending => .leaf h (.nil pending)

theorem append (h : Piece ts) (h' : Piece us) : Piece (ts ++ us) := fun pending =>
  (h pending).append (h' pending)

theorem cons (h : Leaf t) (hts : Piece ts) : Piece (t :: ts) := (leaf h).append hts

theorem bracketed (b : Bracket) (h : Piece ts) : Piece (ForeignCall.bracketed b ts) :=
  fun pending => (h (b :: pending)).bracketed b

theorem flatMap {f : α → List Token} {as : List α} (h : ∀ a ∈ as, Piece (f a)) :
    Piece (as.flatMap f) := by
  induction as with
  | nil => exact nil
  | cons a as ih =>
    obtain ⟨ha, has⟩ := List.forall_mem_cons.1 h
    exact ha.append (ih has)

theorem commaSeparated {parts : List (List Token)} (h : ∀ part ∈ parts, Piece part) :
    Piece (ForeignCall.commaSeparated parts) := by
  induction parts using ForeignCall.commaSeparated.induct with
  | case1 => exact nil
  | case2 part => exact h part List.mem_cons_self
  | case3 part next rest ih =>
    obtain ⟨hpart, hrest⟩ := List.forall_mem_cons.1 h
    exact hpart.append (cons (.mark (by decide)) (ih hrest))

/-- A piece that is printed alone is read back. -/
theorem lex_render (h : Piece ts) (hmark : (Token.render ts).head? ≠ some '\ufeff') :
    Token.lex (Token.render ts) = some ts :=
  ((h []).lexes (.inl rfl)).lex_eq hmark

end Piece

/-- The tokens are legible, and close the brackets that are open; this is found out by looking at
each of them. -/
def readable (pending : List Bracket) : List Token → Bool
  | [] => pending.isEmpty
  | .word w :: ts => isSymbolName w && readable pending ts
  | .mark '\'' true :: .word w :: ts => isSymbolName w && readable pending ts
  | .mark c true :: .mark d glued :: ts =>
    c ∈ plainMarks && d ∈ plainMarks && readable pending (.mark d glued :: ts)
  | .mark c false :: ts => c ∈ plainMarks && readable pending ts
  | .literal t :: ts => t = Quoted.literal "C" && readable pending ts
  | .opening b :: ts => readable (b :: pending) ts
  | .closing b :: ts => pending.head? = some b && readable pending.tail ts
  | _ => false

theorem legible_of_readable {pending : List Bracket} {ts : List Token}
    (h : readable pending ts = true) : Legible pending ts [] := by
  fun_induction readable pending ts with
  | case1 pending =>
    rw [List.isEmpty_iff.1 h]
    exact .nil []
  | case2 pending w ts ih =>
    obtain ⟨hw, hts⟩ := (Bool.and_eq_true_iff ..).1 h
    exact .leaf (.word hw) (ih hts)
  | case3 pending w ts ih =>
    obtain ⟨hw, hts⟩ := (Bool.and_eq_true_iff ..).1 h
    exact .lifetime hw (ih hts)
  | case4 pending c d glued ts ih =>
    obtain ⟨hmarks, hts⟩ := (Bool.and_eq_true_iff ..).1 h
    obtain ⟨hc, hd⟩ := (Bool.and_eq_true_iff ..).1 hmarks
    exact .glued (of_decide_eq_true hc) (of_decide_eq_true hd) (ih hts)
  | case5 pending c ts ih =>
    obtain ⟨hc, hts⟩ := (Bool.and_eq_true_iff ..).1 h
    exact .leaf (.mark (of_decide_eq_true hc)) (ih hts)
  | case6 pending t ts ih =>
    obtain ⟨ht, hts⟩ := (Bool.and_eq_true_iff ..).1 h
    rw [of_decide_eq_true ht]
    exact .leaf (.quoted "C") (ih hts)
  | case7 pending b ts ih => exact .opening (ih h)
  | case8 pending b ts ih =>
    obtain ⟨hb, hts⟩ := (Bool.and_eq_true_iff ..).1 h
    cases pending with
    | nil => cases of_decide_eq_true hb
    | cons c pending =>
      cases of_decide_eq_true hb
      exact .closing (ih hts)
  | case9 => cases h

/-- Fixed code is a piece if it is found to be legible. -/
theorem Piece.of_readable {ts : List Token} (h : readable [] ts = true) : Piece ts := fun pending =>
  (legible_of_readable h).weaken pending

end ForeignCall
