import ForeignCall.Proofs.Binding.Words

/-!
# Names in other letters

The names that are generated from a symbol are its words in small letters or in capitals. They do
not depend on where in the symbol the words stand, so the small form is its own small form and the
big form is made from it.

* `scan_eq_words`: cutting a name by position reads no character outside of it.
* `singleUnderscores_snakeCase`: the small form has underscores between words only.
* `snakeCase_snakeCase`, `screamingCase_eq_snakeCase`: what becomes of the small form.
* `words_and_casings`: all of this for a symbol name.
-/

namespace ForeignCall

/-! ## 1. Cutting by position -/

def charBefore? (name : Text) : Nat → Option Char
  | 0 => none
  | i + 1 => name[i]?

/-- The words of a name by position: `rest` is what follows position `i`, and `current` is the word
that was begun. The neighbours of a character are looked up in the name, and there is no result if
the one before it is not there. -/
def scan (name current : Text) (i : Nat) : Text → Option (List Text)
  | [] => some (if current = [] then [] else [current])
  | c :: rest =>
    if c = '_' then
      if current = [] then scan name [] (i + 1) rest
      else (scan name [] (i + 1) rest).map (current :: ·)
    else if c.isUpper ∧ current ≠ [] then do
      let previous ← charBefore? name i
      if beginsWord previous c name[i + 1]? then
        (scan name [c] (i + 1) rest).map (current :: ·)
      else scan name (current ++ [c]) (i + 1) rest
    else scan name (current ++ [c]) (i + 1) rest

theorem charBefore?_length (before rest : Text) :
    charBefore? (before ++ rest) before.length = before.getLast? := by
  cases before using List.reverseRecOn with
  | nil => rfl
  | append_singleton before c => simp [charBefore?]

/-- The word that was begun ends where the scan stands, so its last character is the one before. -/
theorem scan_eq_wordsFrom {before current : Text} (rest : Text) (h : current <:+ before) :
    scan (before ++ rest) current before.length rest = some (wordsFrom current rest) := by
  induction rest generalizing before current with
  | nil => rw [scan, wordsFrom]
  | cons c rest ih =>
    have hnext (next : Text) (hn : next <:+ before ++ [c]) :
        scan (before ++ c :: rest) next (before.length + 1) rest = some (wordsFrom next rest) := by
      simpa using ih hn
    rw [scan, wordsFrom]
    by_cases hc : c = '_'
    · rw [if_pos hc, if_pos hc]
      split
      · exact hnext [] List.nil_suffix
      · rw [hnext [] List.nil_suffix, Option.map_some]
    rw [if_neg hc, if_neg hc]
    have hone : [c] <:+ before ++ [c] := List.suffix_append before [c]
    have hmore : current ++ [c] <:+ before ++ [c] := by
      obtain ⟨start, rfl⟩ := h
      rw [List.append_assoc]
      exact List.suffix_append start _
    cases hlast : current.getLast? with
    | none =>
      obtain rfl := List.getLast?_eq_none_iff.1 hlast
      rw [if_neg (by simp)]
      exact hnext [c] hone
    | some previous =>
      have hne : current ≠ [] := by
        rintro rfl
        cases hlast
      have hprevious : charBefore? (before ++ c :: rest) before.length = some previous := by
        obtain ⟨start, rfl⟩ := h
        rw [charBefore?_length, List.getLast?_append_of_ne_nil _ hne, hlast]
      have hafter : (before ++ c :: rest)[before.length + 1]? = rest.head? := by
        rw [List.getElem?_append_right (Nat.le_succ _), Nat.succ_sub (Nat.le_refl _), Nat.sub_self,
          List.getElem?_cons_succ, List.head?_eq_getElem?]
      cases hupper : c.isUpper with
      | false =>
        have hbegins : beginsWord previous c rest.head? = false := by
          rw [beginsWord, hupper, Bool.false_and]
        simp only [Bool.false_eq_true, false_and, if_false, hbegins]
        exact hnext _ hmore
      | true =>
        simp only [true_and, if_pos hne, hprevious, hafter, Option.bind_eq_bind, Option.bind_some]
        split
        · rw [hnext [c] hone, Option.map_some]
        · exact hnext _ hmore

theorem scan_eq_words (name : Text) : scan name [] 0 name = some (words name) := by
  have h : ([] : Text) <:+ [] := List.suffix_rfl
  exact scan_eq_wordsFrom name h

/-! ## 2. Underscores -/

/-- Underscores stand between other characters, one at a time. -/
structure SingleUnderscores (t : Text) : Prop where
  head : t.head? ≠ some '_'
  last : t.getLast? ≠ some '_'
  apart : t.IsChain fun a b => a ≠ '_' ∨ b ≠ '_'

/-- A word: not empty, and without underscores. -/
def IsWord (w : Text) : Prop := w ≠ [] ∧ '_' ∉ w

section Underscores

variable {w t next : Text} {rest : List Text}

theorem singleUnderscores_of_not_mem (h : '_' ∉ w) : SingleUnderscores w where
  head he := h (List.mem_of_head? he)
  last he := h (List.mem_of_getLast? he)
  apart := by
    refine (List.pairwise_of_forall_mem_list fun a ha b _ => ?_).isChain
    exact .inl (ne_of_mem_of_not_mem ha h)

/-- A word may be put in front. -/
theorem SingleUnderscores.cons (h : SingleUnderscores t) (ht : t ≠ []) (hw : IsWord w) :
    SingleUnderscores (w ++ "_" ++ t) := by
  have hword := singleUnderscores_of_not_mem hw.2
  constructor
  · rw [List.append_assoc, List.head?_append_of_ne_nil _ hw.1]
    exact hword.head
  · rw [List.getLast?_append_of_ne_nil _ ht]
    exact h.last
  · refine (hword.apart.append (.singleton '_') ?_).append h.apart ?_
    · rintro a ha b -
      exact .inl fun he => hword.last (he ▸ ha)
    · rintro a - b hb
      exact .inr fun he => h.head (he ▸ hb)

theorem Text.join_ne_nil (sep : Text) (h : next ≠ []) : Text.join sep (next :: rest) ≠ [] := by
  cases rest <;> simp [Text.join, h]

theorem singleUnderscores_join {pieces : List Text} (h : ∀ piece ∈ pieces, IsWord piece) :
    SingleUnderscores (Text.join "_" pieces) := by
  fun_induction Text.join "_" pieces with
  | case1 => exact singleUnderscores_of_not_mem List.not_mem_nil
  | case2 piece => exact singleUnderscores_of_not_mem (h piece (List.mem_singleton.2 rfl)).2
  | case3 piece next rest ih =>
    obtain ⟨hpiece, hrest⟩ := List.forall_mem_cons.1 h
    exact (ih hrest).cons (Text.join_ne_nil _ (hrest next List.mem_cons_self).1) hpiece

end Underscores

/-! ## 3. Words of joined words -/

section JoinedWords

variable {w : Text} {pieces : List Text}

theorem uncut_of_small {previous : Char} {t : Text} (h : ∀ c ∈ t, c.isUpper = false) :
    Uncut previous t := by
  induction t generalizing previous with
  | nil => trivial
  | cons c rest ih =>
    obtain ⟨hc, hrest⟩ := List.forall_mem_cons.1 h
    exact ⟨by simp [beginsWord, hc], ih hrest⟩

theorem words_of_small (hw : IsWord w) (hsmall : ∀ c ∈ w, c.isUpper = false) : words w = [w] := by
  obtain ⟨c, t, rfl⟩ := List.exists_cons_of_ne_nil hw.1
  obtain ⟨hc, ht⟩ := not_or.1 (mt List.mem_cons.2 hw.2)
  have hwhole : wordsFrom ([] ++ [c]) t = [[] ++ c :: t] ↔ Uncut c t :=
    wordsFrom_eq_singleton_iff ht
  rw [words, wordsFrom, if_neg (Ne.symm hc)]
  exact hwhole.2 (uncut_of_small (List.forall_mem_cons.1 hsmall).2)

/-- Words without capitals are cut where they were joined. -/
theorem words_join (h : ∀ piece ∈ pieces, IsWord piece)
    (hsmall : ∀ piece ∈ pieces, ∀ c ∈ piece, c.isUpper = false) :
    words (Text.join "_" pieces) = pieces := by
  fun_induction Text.join "_" pieces with
  | case1 => rfl
  | case2 piece =>
    exact words_of_small (List.forall_mem_singleton.1 h) (List.forall_mem_singleton.1 hsmall)
  | case3 piece next rest ih =>
    obtain ⟨hpiece, hrest⟩ := List.forall_mem_cons.1 h
    obtain ⟨hpieceSmall, hrestSmall⟩ := List.forall_mem_cons.1 hsmall
    calc words (piece ++ "_" ++ Text.join "_" (next :: rest))
      _ = words piece ++ words (Text.join "_" (next :: rest)) := by
        rw [List.append_assoc]
        exact wordsFrom_append_underscore [] piece _
      _ = piece :: next :: rest := by
        rw [words_of_small hpiece hpieceSmall, ih hrest hrestSmall, List.singleton_append]

end JoinedWords

/-! ## 4. Small and big forms -/

section Forms

variable {name w : Text} {c : Char}

theorem isWord_of_mem_words (h : w ∈ words name) : IsWord w := word_of_mem_words h

theorem IsWord.lower (h : IsWord w) : IsWord (Text.lower w) := by
  refine ⟨mt List.map_eq_nil_iff.1 h.1, fun hmem => ?_⟩
  obtain ⟨c, hc, hlower⟩ := List.mem_map.1 hmem
  exact h.2 (changesCase_toLower.eq_underscore_iff.1 hlower ▸ hc)

theorem isWord_of_mem_lower (h : w ∈ (words name).map Text.lower) : IsWord w := by
  obtain ⟨v, hv, rfl⟩ := List.mem_map.1 h
  exact (isWord_of_mem_words hv).lower

theorem singleUnderscores_snakeCase (name : Text) : SingleUnderscores (snakeCase name) :=
  singleUnderscores_join fun _ => isWord_of_mem_lower

/-- The words of the small form are the words in small letters. -/
theorem words_snakeCase (name : Text) : words (snakeCase name) = (words name).map Text.lower := by
  refine words_join (fun _ => isWord_of_mem_lower) fun w hw c hc => ?_
  obtain ⟨v, -, rfl⟩ := List.mem_map.1 hw
  obtain ⟨d, -, rfl⟩ := List.mem_map.1 hc
  exact Char.isUpper_toLower_eq_false d

theorem Text.lower_lower (t : Text) : Text.lower (Text.lower t) = Text.lower t := by
  simp [Text.lower]

theorem Text.upper_lower (t : Text) : Text.upper (Text.lower t) = Text.upper t := by
  simp [Text.upper, Text.lower]

theorem snakeCase_snakeCase (name : Text) : snakeCase (snakeCase name) = snakeCase name := by
  rw [snakeCase, words_snakeCase, List.map_map, snakeCase]
  simp only [Function.comp_def, Text.lower_lower]

theorem Text.upper_join (pieces : List Text) :
    Text.upper (Text.join "_" pieces) = Text.join "_" (pieces.map Text.upper) := by
  fun_induction Text.join "_" pieces with
  | case1 => rfl
  | case2 piece => rfl
  | case3 piece next rest ih =>
    rw [List.map_cons, List.map_cons, Text.join_cons_cons, ← List.map_cons, ← ih]
    simp [Text.upper]

/-- The big form is the small form in capitals, behind as many underscores as the name begins with.
-/
theorem screamingCase_eq_snakeCase (name : Text) :
    ∃ k rest, name = List.replicate k '_' ++ rest ∧ rest.head? ≠ some '_' ∧
      screamingCase name = List.replicate k '_' ++ Text.upper (snakeCase name) := by
  have hstart : name.takeWhile (· == '_') =
      List.replicate (name.takeWhile (· == '_')).length '_' :=
    List.eq_replicate_of_mem fun c hc => eq_underscore_of_mem_start hc
  refine ⟨(name.takeWhile (· == '_')).length, name.dropWhile (· == '_'), ?_, fun hhead => ?_, ?_⟩
  · rw [← hstart, List.takeWhile_append_dropWhile]
  · have hnot := List.head?_dropWhile_not (· == '_') name
    rw [hhead] at hnot
    cases hnot
  · rw [← hstart, screamingCase, snakeCase, Text.upper_join, List.map_map]
    simp only [Function.comp_def, Text.upper_lower]

example : screamingCase "__HTTPClient2_x" =
    "__".toList ++ Text.upper (snakeCase "__HTTPClient2_x") := by decide

theorem small_of_mem_snakeCase (h : isSymbolName name = true) (hc : c ∈ snakeCase name) :
    c.isLower = true ∨ c.isDigit = true ∨ c = '_' := by
  rcases mem_joinWords changesCase_toLower hc with rfl | ⟨d, hd, rfl⟩
  · exact .inr (.inr rfl)
  have hpart := (isSymbolName_iff_head?.1 h).2 d hd
  cases halpha : d.isAlpha with
  | true => exact .inl (by rw [Char.isLower_toLower_eq_isAlpha, halpha])
  | false =>
    rw [changesCase_toLower.other d halpha]
    simpa [isSymbolPart, Char.isAlphanum, halpha] using Or.inr hpart

end Forms

/-- A symbol name is cut without reading a character outside of it, into words that are the name
without its underscores. Its small form has small letters, digits and single underscores between
them, and is its own small form. Its big form is the small form in capitals behind as many
underscores as the name begins with. -/
theorem words_and_casings {name : Text} (h : isSymbolName name = true) :
    scan name [] 0 name = some (words name) ∧
    (∀ w ∈ words name, IsWord w) ∧ (words name).flatten = name.filter (· != '_') ∧
    (∀ c ∈ snakeCase name, c.isLower = true ∨ c.isDigit = true ∨ c = '_') ∧
    SingleUnderscores (snakeCase name) ∧ snakeCase (snakeCase name) = snakeCase name ∧
    ∃ k rest, name = List.replicate k '_' ++ rest ∧ rest.head? ≠ some '_' ∧
      screamingCase name = List.replicate k '_' ++ Text.upper (snakeCase name) :=
  ⟨scan_eq_words name, fun _ => isWord_of_mem_words, flatten_words name,
    fun _ => small_of_mem_snakeCase h, singleUnderscores_snakeCase name, snakeCase_snakeCase name,
    screamingCase_eq_snakeCase name⟩

theorem words_and_casings_acronym :
    isSymbolName "__HTTPClient2_x" = true ∧
    scan "__HTTPClient2_x" [] 0 "__HTTPClient2_x" = some (words "__HTTPClient2_x") ∧
    (∀ w ∈ words "__HTTPClient2_x", IsWord w) ∧
    (words "__HTTPClient2_x").flatten = "__HTTPClient2_x".toList.filter (· != '_') ∧
    (∀ c ∈ snakeCase "__HTTPClient2_x", c.isLower = true ∨ c.isDigit = true ∨ c = '_') ∧
    SingleUnderscores (snakeCase "__HTTPClient2_x") ∧
    snakeCase (snakeCase "__HTTPClient2_x") = snakeCase "__HTTPClient2_x" ∧
    ∃ k rest, "__HTTPClient2_x".toList = List.replicate k '_' ++ rest ∧ rest.head? ≠ some '_' ∧
      screamingCase "__HTTPClient2_x" =
        List.replicate k '_' ++ Text.upper (snakeCase "__HTTPClient2_x") :=
  ⟨by decide, words_and_casings (by decide)⟩

end ForeignCall
