import Mathlib
import ForeignCall.Binding.Names

/-!
# Words of names

A name is cut into words and joined again in small letters or in capitals. Nothing but underscores
is lost, so the letters of the name decide what the joined words begin with and are made of.

* `flatten_words`, `word_of_mem_words`: the words are the name without its underscores, cut into
  pieces that are not empty.
* `words_eq_singleton_iff`: a name is one word if it is that word with underscores around it.
* `filter_joinWords`, `head?_joinWords`: without underscores, the joined words are the name in other
  letters.
* `isSymbolName_snakeCase_iff`, `isSymbolName_screamingCase`: when the two forms can name something.
* `words_eq_self_iff`, `snakeCase_eq_iff`: which words of letters are left whole, and which names
  have a given small form.

The facts about the letter cases of `Char` are in no part of Mathlib but the whole.
-/

namespace ForeignCall

/-! ## 1. Cutting -/

/-- The character belongs to a word: it is no underscore. -/
def inWord (c : Char) : Bool := c != '_'

section Cutting

variable {current t w : Text} {c : Char}

theorem inWord_of_ne (h : ¬ c = '_') : inWord c = true := bne_iff_ne.2 h

/-- Cutting loses nothing but underscores. -/
theorem flatten_wordsFrom (current t : Text) :
    (wordsFrom current t).flatten = current ++ t.filter inWord := by
  fun_induction wordsFrom current t with
  | case1 => rfl
  | case2 current hne => simp
  | case3 rest ih => exact ih
  | case4 current rest hne ih =>
    rw [List.flatten_cons, ih]
    rfl
  | case5 current c rest hc hlast ih =>
    rw [List.getLast?_eq_none_iff.1 hlast, ih, List.filter_cons_of_pos (inWord_of_ne hc)]
    rfl
  | case6 current c rest hc previous hlast hbegins ih =>
    rw [List.flatten_cons, ih, List.filter_cons_of_pos (inWord_of_ne hc)]
    rfl
  | case7 current c rest hc previous hlast hgoes ih =>
    rw [ih, List.filter_cons_of_pos (inWord_of_ne hc), List.append_assoc]
    rfl

/-- A word is not empty and has no underscore. -/
theorem word_of_mem_wordsFrom (hcurrent : '_' ∉ current) (h : w ∈ wordsFrom current t) :
    w ≠ [] ∧ '_' ∉ w := by
  fun_induction wordsFrom current t with
  | case1 => cases h
  | case2 current hne =>
    rw [List.mem_singleton.1 h]
    exact ⟨hne, hcurrent⟩
  | case3 rest ih => exact ih List.not_mem_nil h
  | case4 current rest hne ih =>
    rcases List.mem_cons.1 h with rfl | h
    · exact ⟨hne, hcurrent⟩
    · exact ih List.not_mem_nil h
  | case5 current c rest hc hlast ih => exact ih (by simpa using Ne.symm hc) h
  | case6 current c rest hc previous hlast hbegins ih =>
    rcases List.mem_cons.1 h with rfl | h
    · refine ⟨?_, hcurrent⟩
      rintro rfl
      cases hlast
    · exact ih (by simpa using Ne.symm hc) h
  | case7 current c rest hc previous hlast hgoes ih =>
    exact ih (by simp [hcurrent, Ne.symm hc]) h

/-- An underscore cuts whatever stands around it. -/
theorem wordsFrom_append_underscore (current s t : Text) :
    wordsFrom current (s ++ '_' :: t) = wordsFrom current s ++ words t := by
  fun_induction wordsFrom current s with
  | case1 => rw [List.nil_append, wordsFrom, if_pos rfl, if_pos rfl, words, List.nil_append]
  | case2 current hne => rw [List.nil_append, wordsFrom, if_pos rfl, if_neg hne, words]; rfl
  | case3 rest ih => rw [List.cons_append, wordsFrom, if_pos rfl, if_pos rfl, ih]
  | case4 current rest hne ih =>
    rw [List.cons_append, wordsFrom, if_pos rfl, if_neg hne, ih, List.cons_append]
  | case5 current c rest hc hlast ih =>
    rw [List.cons_append, wordsFrom, if_neg hc]
    simp only [hlast, ih]
  | case6 current c rest hc previous hlast hbegins ih =>
    have hnext : beginsWord previous c (rest ++ '_' :: t).head? = true := by
      cases rest with
      | nil => simpa [beginsWord] using hbegins
      | cons d rest => exact hbegins
    rw [List.cons_append, wordsFrom, if_neg hc]
    simp only [hlast, hnext, if_true, ih, List.cons_append]
  | case7 current c rest hc previous hlast hgoes ih =>
    have hnext : ¬ beginsWord previous c (rest ++ '_' :: t).head? = true := by
      cases rest with
      | nil => simpa [beginsWord] using hgoes
      | cons d rest => exact hgoes
    rw [List.cons_append, wordsFrom, if_neg hc]
    simp only [hlast, hnext, ih]
    rfl

end Cutting

section Words

variable {name w : Text} {c : Char}

theorem flatten_words (name : Text) : (words name).flatten = name.filter inWord :=
  flatten_wordsFrom [] name

theorem word_of_mem_words (h : w ∈ words name) : w ≠ [] ∧ '_' ∉ w :=
  word_of_mem_wordsFrom List.not_mem_nil h

theorem words_replicate (n : Nat) : words (List.replicate n '_') = [] := by
  induction n with
  | zero => rfl
  | succ n ih =>
    have happend := wordsFrom_append_underscore [] [] (List.replicate n '_')
    rw [ih] at happend
    exact happend

theorem words_replicate_append (n : Nat) (t : Text) :
    words (List.replicate n '_' ++ t) = words t := by
  induction n with
  | zero => rfl
  | succ n ih => rw [← ih]; exact wordsFrom_append_underscore [] [] _

theorem words_append_replicate (t : Text) (n : Nat) :
    words (t ++ List.replicate n '_') = words t := by
  cases n with
  | zero => rw [List.replicate_zero, List.append_nil]
  | succ n =>
    rw [List.replicate_succ, words, wordsFrom_append_underscore, words_replicate, List.append_nil]
    rfl

theorem words_eq_nil_iff : words name = [] ↔ name = List.replicate name.length '_' := by
  rw [List.eq_replicate_length]
  constructor
  · intro h c hc
    have hempty : name.filter inWord = [] := by rw [← flatten_words, h]; rfl
    by_contra hne
    exact List.filter_eq_nil_iff.1 hempty c hc (inWord_of_ne hne)
  · intro h
    rw [List.eq_replicate_length.2 h, words_replicate]

/-- What is left of a single word, after the part of it that was begun. -/
theorem exists_of_wordsFrom_eq_singleton {current t : Text} (h : wordsFrom current t = [w]) :
    ∃ i rest j, t = List.replicate i '_' ++ rest ++ List.replicate j '_' ∧
      w = current ++ rest ∧ (current ≠ [] → i = 0) := by
  fun_induction wordsFrom current t with
  | case1 => cases h
  | case2 current hne =>
    cases h
    exact ⟨0, [], 0, rfl, (List.append_nil _).symm, fun _ => rfl⟩
  | case3 rest ih =>
    obtain ⟨i, more, j, rfl, hw, _⟩ := ih h
    exact ⟨i + 1, more, j, rfl, hw, fun hne => absurd rfl hne⟩
  | case4 current rest hne ih =>
    obtain ⟨rfl, hrest⟩ := List.cons_eq_cons.1 h
    rw [words_eq_nil_iff.1 hrest]
    exact ⟨0, [], rest.length + 1, rfl, (List.append_nil _).symm, fun _ => rfl⟩
  | case5 current c rest hc hlast ih =>
    obtain ⟨i, more, j, rfl, rfl, hi⟩ := ih h
    obtain rfl := hi (List.cons_ne_nil c [])
    rw [List.getLast?_eq_none_iff.1 hlast]
    exact ⟨0, c :: more, j, rfl, rfl, fun _ => rfl⟩
  | case6 current c rest hc previous hlast hbegins ih =>
    obtain ⟨_, hrest⟩ := List.cons_eq_cons.1 h
    have hflat := flatten_wordsFrom [c] rest
    rw [hrest] at hflat
    cases hflat
  | case7 current c rest hc previous hlast hgoes ih =>
    obtain ⟨i, more, j, rfl, rfl, hi⟩ := ih h
    obtain rfl := hi (by simp)
    exact ⟨0, c :: more, j, rfl, by simp, fun _ => rfl⟩

/-- A name is a single word if it is that word, uncut, with underscores around it. -/
theorem words_eq_singleton_iff : words name = [w] ↔
    words w = [w] ∧ ∃ i j, name = List.replicate i '_' ++ w ++ List.replicate j '_' := by
  constructor
  · intro h
    obtain ⟨i, rest, j, hname, rfl, _⟩ := exists_of_wordsFrom_eq_singleton h
    rw [hname, words_append_replicate, words_replicate_append] at h
    exact ⟨h, i, j, hname⟩
  · rintro ⟨hw, i, j, rfl⟩
    rw [words_append_replicate, words_replicate_append, hw]

end Words

/-! ## 2. Other letters -/

/-- The function takes letters to letters and leaves everything else. -/
structure ChangesCase (f : Char → Char) : Prop where
  letter : ∀ c, (f c).isAlpha = c.isAlpha
  other : ∀ c, c.isAlpha = false → f c = c

theorem changesCase_toLower : ChangesCase Char.toLower where
  letter := Char.isAlpha_toLower_eq_isAlpha
  other c h := Char.toLower_eq_of_not_isUpper (by simp_all [Char.isAlpha])

theorem changesCase_toUpper : ChangesCase Char.toUpper where
  letter := Char.isAlpha_toUpper_eq_isAlpha
  other c h := Char.toUpper_eq_of_not_isLower (by simp_all [Char.isAlpha])

namespace ChangesCase

variable {f : Char → Char} {c : Char}

theorem eq_underscore_iff (hf : ChangesCase f) : f c = '_' ↔ c = '_' := by
  cases hc : c.isAlpha with
  | false => rw [hf.other c hc]
  | true =>
    have hletter : (f c).isAlpha = true := by rw [hf.letter, hc]
    constructor
    · intro h
      rw [h] at hletter
      cases hletter
    · rintro rfl
      cases hc

theorem inWord_eq (hf : ChangesCase f) (c : Char) : inWord (f c) = inWord c := by
  rw [Bool.eq_iff_iff, inWord, inWord, bne_iff_ne, bne_iff_ne]
  exact not_congr hf.eq_underscore_iff

theorem isSymbolPart (hf : ChangesCase f) (h : isSymbolPart c = true) :
    ForeignCall.isSymbolPart (f c) = true := by
  cases hc : c.isAlpha with
  | false => rwa [hf.other c hc]
  | true => simp [ForeignCall.isSymbolPart, Char.isAlphanum, hf.letter, hc]

end ChangesCase

/-! ## 3. Joining -/

/-- The words in other letters with an underscore between them. -/
def joinWords (f : Char → Char) (name : Text) : Text :=
  Text.join "_" ((words name).map (List.map f))

theorem snakeCase_eq (name : Text) : snakeCase name = joinWords Char.toLower name := rfl

theorem screamingCase_eq (name : Text) :
    screamingCase name = name.takeWhile (· == '_') ++ joinWords Char.toUpper name := rfl

theorem Text.filter_join_underscore (pieces : List Text) :
    (Text.join "_" pieces).filter inWord = pieces.flatten.filter inWord := by
  fun_induction Text.join "_" pieces with
  | case1 => rfl
  | case2 piece => rw [List.flatten_singleton]
  | case3 piece next rest ih =>
    have hsep : "_".toList.filter inWord = [] := rfl
    rw [List.filter_append, List.filter_append, ih, hsep, List.append_nil,
      List.flatten_cons (l := piece), List.filter_append]

theorem Text.head?_join {sep : Text} {pieces : List Text} (h : ∀ piece ∈ pieces, piece ≠ []) :
    (Text.join sep pieces).head? = pieces.flatten.head? := by
  cases pieces with
  | nil => rfl
  | cons piece rest =>
    obtain ⟨c, tail, rfl⟩ := List.exists_cons_of_ne_nil (h piece List.mem_cons_self)
    cases rest <;> rfl

section Joining

variable {f : Char → Char} {name : Text} {c : Char}

theorem flatten_map_words (f : Char → Char) (name : Text) :
    ((words name).map (List.map f)).flatten = (name.filter inWord).map f := by
  rw [← List.map_flatten, flatten_words]

/-- Without underscores, the joined words are the name in other letters. -/
theorem filter_joinWords (hf : ChangesCase f) (name : Text) :
    (joinWords f name).filter inWord = (name.filter inWord).map f := by
  rw [joinWords, Text.filter_join_underscore, flatten_map_words, List.filter_eq_self]
  intro c hc
  obtain ⟨d, hd, rfl⟩ := List.mem_map.1 hc
  rw [hf.inWord_eq]
  exact (List.mem_filter.1 hd).2

/-- The joined words begin with the first character that is no underscore. -/
theorem head?_joinWords (f : Char → Char) (name : Text) :
    (joinWords f name).head? = (name.filter inWord).head?.map f := by
  rw [joinWords, Text.head?_join, flatten_map_words, List.head?_map]
  intro piece hpiece
  obtain ⟨w, hw, rfl⟩ := List.mem_map.1 hpiece
  exact mt List.map_eq_nil_iff.1 (word_of_mem_words hw).1

/-- The joined words are made of underscores and the name's characters in other letters. -/
theorem mem_joinWords (hf : ChangesCase f) (h : c ∈ joinWords f name) :
    c = '_' ∨ ∃ d ∈ name, f d = c := by
  by_cases hc : c = '_'
  · exact .inl hc
  · have hmem := List.mem_filter.2 ⟨h, inWord_of_ne hc⟩
    rw [filter_joinWords hf] at hmem
    obtain ⟨d, hd, hdc⟩ := List.mem_map.1 hmem
    exact .inr ⟨d, (List.mem_filter.1 hd).1, hdc⟩

end Joining

/-! ## 4. Symbol names -/

section SymbolNames

variable {name t : Text} {c : Char}

theorem eq_underscore_of_mem_start (h : c ∈ name.takeWhile (· == '_')) : c = '_' :=
  beq_iff_eq.1 (List.mem_takeWhile_imp (p := (· == '_')) h)

theorem isSymbolName_iff_head? : isSymbolName t = true ↔
    (∃ c, t.head? = some c ∧ (c.isAlpha = true ∨ c = '_')) ∧ ∀ c ∈ t, isSymbolPart c = true := by
  rw [isSymbolName_iff]
  constructor
  · rintro ⟨c, rest, rfl, hc, hrest⟩
    refine ⟨⟨c, rfl, hc⟩, List.forall_mem_cons.2 ⟨?_, hrest⟩⟩
    rcases hc with hc | rfl
    · simp [isSymbolPart, Char.isAlphanum, hc]
    · rfl
  · rintro ⟨⟨c, hhead, hc⟩, hall⟩
    obtain ⟨rest, rfl⟩ := List.head?_eq_some_iff.1 hhead
    exact ⟨c, rest, rfl, hc, (List.forall_mem_cons.1 hall).2⟩

theorem isSymbolPart_of_mem_joinWords {f : Char → Char} (hf : ChangesCase f)
    (h : isSymbolName name = true) : ∀ c ∈ joinWords f name, isSymbolPart c = true := by
  intro c hc
  rcases mem_joinWords hf hc with rfl | ⟨d, hd, rfl⟩
  · rfl
  · exact hf.isSymbolPart ((isSymbolName_iff_head?.1 h).2 d hd)

/-- The small form of a symbol name is a symbol name if the first character that is no underscore is
a letter. -/
theorem isSymbolName_snakeCase_iff (h : isSymbolName name = true) :
    isSymbolName (snakeCase name) = true ↔
      ∃ c, (name.filter inWord).head? = some c ∧ c.isAlpha = true := by
  rw [snakeCase_eq, isSymbolName_iff_head?,
    and_iff_left (isSymbolPart_of_mem_joinWords changesCase_toLower h), head?_joinWords]
  constructor
  · rintro ⟨c, hhead, hc⟩
    obtain ⟨d, hd, rfl⟩ := Option.map_eq_some_iff.1 hhead
    have hword : inWord d = true := (List.mem_filter.1 (List.mem_of_head? hd)).2
    rw [changesCase_toLower.letter, changesCase_toLower.eq_underscore_iff] at hc
    exact ⟨d, hd, hc.resolve_right (bne_iff_ne.1 hword)⟩
  · rintro ⟨d, hd, halpha⟩
    exact ⟨d.toLower, by rw [hd]; rfl, .inl (by rw [changesCase_toLower.letter, halpha])⟩

/-- The big form of a symbol name is a symbol name. -/
theorem isSymbolName_screamingCase (h : isSymbolName name = true) :
    isSymbolName (screamingCase name) = true := by
  obtain ⟨c, rest, rfl, hc, hrest⟩ := isSymbolName_iff.1 h
  rw [screamingCase_eq, isSymbolName_iff_head?]
  constructor
  · by_cases hunderscore : c = '_'
    · subst hunderscore
      exact ⟨'_', rfl, .inr rfl⟩
    · have hletter := hc.resolve_right hunderscore
      refine ⟨c.toUpper, ?_, .inl (by rw [changesCase_toUpper.letter, hletter])⟩
      rw [List.takeWhile_cons_of_neg (by simpa using hunderscore), List.nil_append,
        head?_joinWords, List.filter_cons_of_pos (inWord_of_ne hunderscore)]
      rfl
  · intro d hd
    rcases List.mem_append.1 hd with hd | hd
    · rw [eq_underscore_of_mem_start hd]
      rfl
    · exact isSymbolPart_of_mem_joinWords changesCase_toUpper h d hd

/-- The big form has no small letters. -/
theorem isLower_of_mem_screamingCase (h : c ∈ screamingCase name) : c.isLower = false := by
  rcases List.mem_append.1 h with h | h
  · rw [eq_underscore_of_mem_start h]
    rfl
  · rcases mem_joinWords changesCase_toUpper h with rfl | ⟨d, _, rfl⟩
    · rfl
    · exact Char.isLower_toUpper_eq_false d

/-- Without underscores, the big form is the name in capitals. -/
theorem filter_screamingCase (name : Text) :
    (screamingCase name).filter inWord = (name.filter inWord).map Char.toUpper := by
  have hstart : (name.takeWhile (· == '_')).filter inWord = [] := by
    rw [List.filter_eq_nil_iff]
    intro c hc
    rw [eq_underscore_of_mem_start hc]
    decide
  rw [screamingCase_eq, List.filter_append, hstart, List.nil_append,
    filter_joinWords changesCase_toUpper]

end SymbolNames

/-! ## 5. Whole words -/

section Letters

variable {c : Char}

theorem isLower_eq_not_isUpper (h : c.isAlpha = true) : c.isLower = !c.isUpper := by
  cases hupper : c.isUpper with
  | false => simpa [Char.isAlpha, hupper] using h
  | true => simpa using Char.not_isLower_of_isUpper hupper

theorem isDigit_eq_false (h : c.isAlpha = true) : c.isDigit = false := by
  simp only [Char.isAlpha, Char.isUpper, Char.isLower, Char.isDigit, Bool.or_eq_true,
    Bool.and_eq_true, decide_eq_true_eq, UInt32.le_iff_toNat_le, Bool.and_eq_false_iff,
    decide_eq_false_iff_not] at h ⊢
  simp only [Char.reduceVal, UInt32.reduceToNat] at h ⊢
  omega

/-- After a letter, a word begins with a capital that stands behind a small letter or in front of
one. -/
theorem beginsWord_iff {previous : Char} {next : Option Char} (h : previous.isAlpha = true) :
    beginsWord previous c next = true ↔
      c.isUpper = true ∧ (previous.isUpper = true → next.any Char.isLower = true) := by
  rw [beginsWord, isLower_eq_not_isUpper h, isDigit_eq_false h]
  cases c.isUpper <;> cases previous.isUpper <;> simp

end Letters

/-- No word begins in the text, `previous` being the character before it. -/
def Uncut (previous : Char) : Text → Prop
  | [] => True
  | c :: rest => ¬ beginsWord previous c rest.head? ∧ Uncut c rest

theorem wordsFrom_eq_singleton_iff {current t : Text} {previous : Char} (ht : '_' ∉ t) :
    wordsFrom (current ++ [previous]) t = [current ++ previous :: t] ↔ Uncut previous t := by
  induction t generalizing current previous with
  | nil => simp [wordsFrom, Uncut]
  | cons c rest ih =>
    rw [List.mem_cons, not_or] at ht
    rw [wordsFrom, if_neg (Ne.symm ht.1), List.getLast?_concat]
    by_cases hbegins : beginsWord previous c rest.head?
    · simp [hbegins, Uncut]
    · have hnext := @ih (current ++ [previous]) c ht.2
      rw [List.append_assoc, List.append_assoc, List.singleton_append, List.singleton_append]
        at hnext
      simp [hbegins, Uncut, hnext]

/-- A word goes on as long as its small letters, or its capitals, do. -/
theorem uncut_iff {previous : Char} {t : Text} (hprevious : previous.isAlpha = true)
    (ht : ∀ c ∈ t, c.isAlpha = true) : Uncut previous t ↔
      (∀ c ∈ t, c.isLower = true) ∨ (previous.isUpper = true ∧ ∀ c ∈ t, c.isUpper = true) := by
  induction t generalizing previous with
  | nil => simp [Uncut]
  | cons c rest ih =>
    obtain ⟨hc, hrest⟩ := List.forall_mem_cons.1 ht
    rw [Uncut, beginsWord_iff hprevious, ih hc hrest, List.forall_mem_cons, List.forall_mem_cons,
      isLower_eq_not_isUpper hc]
    cases hupper : c.isUpper with
    | false => simp
    | true =>
      -- The letter behind the capital decides, and it decides for all that follow.
      cases rest with
      | nil => cases previous.isUpper <;> simp
      | cons d rest =>
        rw [List.forall_mem_cons, List.forall_mem_cons, List.head?_cons, Option.any_some,
          isLower_eq_not_isUpper (hrest d List.mem_cons_self)]
        cases previous.isUpper <;> cases d.isUpper <;> simp

/-- A word of letters is left whole if it is in small letters, in capitals, or in small letters
after a capital. -/
theorem words_eq_self_iff {c : Char} {t : Text} (hletters : ∀ d ∈ c :: t, d.isAlpha = true) :
    words (c :: t) = [c :: t] ↔
      (∀ d ∈ t, d.isLower = true) ∨ (c.isUpper = true ∧ ∀ d ∈ t, d.isUpper = true) := by
  obtain ⟨hc, ht⟩ := List.forall_mem_cons.1 hletters
  have hunderscore : '_' ∉ t := fun hmem => absurd (ht _ hmem) (by decide)
  have hne : c ≠ '_' := by rintro rfl; exact absurd hc (by decide)
  have hwhole : wordsFrom ([] ++ [c]) t = [[] ++ c :: t] ↔ Uncut c t :=
    wordsFrom_eq_singleton_iff hunderscore
  rw [← uncut_iff hc ht, ← hwhole, words, wordsFrom, if_neg hne]
  rfl

/-- The ways to write a word that leave it whole: in small letters, with a capital in front, and in
capitals. -/
def casings : Text → List Text
  | [] => []
  | c :: t => [c :: t, c.toUpper :: t, (c :: t).map Char.toUpper]

section Casings

variable {v w name : Text}

theorem map_eq_self {f : Char → Char} {t : Text} (h : ∀ c ∈ t, f c = c) : t.map f = t :=
  (List.map_congr_left h).trans (List.map_id' t)

theorem toLower_eq_self {c : Char} (h : c.isLower = true) : c.toLower = c :=
  Char.toLower_eq_of_not_isUpper (Char.not_isUpper_of_isLower h)

theorem toUpper_toLower_eq_self {c : Char} (h : c.isUpper = true) : c.toLower.toUpper = c := by
  rw [Char.toUpper_toLower_eq_toUpper,
    Char.toUpper_eq_of_not_isLower (Char.not_isLower_of_isUpper h)]

theorem isAlpha_of_isLower {c : Char} (h : c.isLower = true) : c.isAlpha = true := by
  simp [Char.isAlpha, h]

theorem mem_casings_of_words (hv : words v = [v]) (hletters : ∀ c ∈ v, c.isAlpha = true) :
    v ∈ casings (v.map Char.toLower) := by
  cases v with
  | nil => cases hv
  | cons c t =>
    rw [List.map_cons, casings, List.mem_cons, List.mem_cons, List.mem_singleton]
    rcases (words_eq_self_iff hletters).1 hv with ht | ⟨hc, ht⟩
    · have hmap : t.map Char.toLower = t :=
        map_eq_self fun d hd => toLower_eq_self (ht d hd)
      rw [hmap]
      cases hupper : c.isUpper with
      | false => exact .inl (by rw [Char.toLower_eq_of_not_isUpper (by simp [hupper])])
      | true => exact .inr (.inl (by rw [toUpper_toLower_eq_self hupper]))
    · have hmap : (t.map Char.toLower).map Char.toUpper = t := by
        rw [List.map_map]
        exact map_eq_self fun d hd => toUpper_toLower_eq_self (ht d hd)
      exact .inr (.inr (by rw [List.map_cons, hmap, toUpper_toLower_eq_self hc]))

theorem words_of_mem_casings (hw : ∀ c ∈ w, c.isLower = true) (hv : v ∈ casings w) :
    words v = [v] ∧ v.map Char.toLower = w := by
  cases w with
  | nil => cases hv
  | cons c t =>
    have hletters : ∀ d ∈ c :: t, d.isAlpha = true := fun d hd => isAlpha_of_isLower (hw d hd)
    have hlower : ∀ d ∈ c :: t, d.toLower = d := fun d hd => toLower_eq_self (hw d hd)
    obtain ⟨hc, ht⟩ := List.forall_mem_cons.1 hw
    obtain ⟨hcletter, htletters⟩ := List.forall_mem_cons.1 hletters
    rw [casings, List.mem_cons, List.mem_cons, List.mem_singleton] at hv
    rcases hv with rfl | rfl | rfl
    · exact ⟨(words_eq_self_iff hletters).2 (.inl ht), map_eq_self hlower⟩
    · refine ⟨(words_eq_self_iff ?_).2 (.inl ht), ?_⟩
      · exact List.forall_mem_cons.2 ⟨by rwa [Char.isAlpha_toUpper_eq_isAlpha], htletters⟩
      · rw [List.map_cons, Char.toLower_toUpper_eq_toLower, ← List.map_cons]
        exact map_eq_self hlower
    · refine ⟨(words_eq_self_iff ?_).2 (.inr ⟨?_, ?_⟩), ?_⟩
      · rw [← List.map_cons, List.forall_mem_map]
        exact fun d hd => by rw [Char.isAlpha_toUpper_eq_isAlpha, hletters d hd]
      · rw [Char.isUpper_toUpper_eq_isAlpha, hcletter]
      · rw [List.forall_mem_map]
        exact fun d hd => by rw [Char.isUpper_toUpper_eq_isAlpha, htletters d hd]
      · rw [List.map_map]
        refine map_eq_self fun d hd => ?_
        rw [Function.comp_apply, Char.toLower_toUpper_eq_toLower, hlower d hd]

/-- Joined words without an underscore are a single word. -/
theorem exists_of_join_eq {pieces : List Text} (h : Text.join "_" pieces = w) (hw : w ≠ [])
    (hunderscore : '_' ∉ w) : pieces = [w] := by
  match pieces, h with
  | [], h => exact absurd h.symm hw
  | [piece], h => rw [← h]; rfl
  | first :: second :: rest, h =>
    refine absurd ?_ hunderscore
    rw [← h, Text.join]
    simp

/-- The names whose small form is a given word of small letters. -/
theorem snakeCase_eq_iff (hw : w ≠ []) (hlower : ∀ c ∈ w, c.isLower = true) :
    snakeCase name = w ↔
      ∃ v ∈ casings w, ∃ i j, name = List.replicate i '_' ++ v ++ List.replicate j '_' := by
  have hunderscore : '_' ∉ w := fun hmem => absurd (hlower _ hmem) (by decide)
  constructor
  · intro h
    have hpieces := exists_of_join_eq h hw hunderscore
    obtain ⟨v, hv, hmap⟩ := List.map_eq_singleton_iff.1 hpieces
    obtain ⟨hwhole, hname⟩ := words_eq_singleton_iff.1 hv
    refine ⟨v, hmap ▸ mem_casings_of_words hwhole fun c hc => ?_, hname⟩
    have hc' := isAlpha_of_isLower (hlower c.toLower (hmap ▸ List.mem_map_of_mem hc))
    rwa [Char.isAlpha_toLower_eq_isAlpha] at hc'
  · rintro ⟨v, hv, hname⟩
    obtain ⟨hwhole, hmap⟩ := words_of_mem_casings hlower hv
    rw [snakeCase, words_eq_singleton_iff.2 ⟨hwhole, hname⟩]
    exact hmap

end Casings

end ForeignCall
