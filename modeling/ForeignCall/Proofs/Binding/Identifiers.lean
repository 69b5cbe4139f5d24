import ForeignCall.Proofs.Binding.Names
import ForeignCall.Proofs.Binding.Words

/-!
# Identifiers

Names become identifiers that can be written. If the names of methods are refused, one of them is
reserved, or two things would have one name.

* `writable_identOf`, `writable_constName`: what is made of a symbol name can be written.
* `constName_ne`: no method is called like its own constant.
* `refusal_of_methodNames`: why the names of methods are refused.
-/

namespace ForeignCall

/-! ## 1. Writable identifiers -/

/-- The identifier can be written: it is a symbol name, none of the words that are no names, and
written raw just if it is a keyword. -/
structure Ident.Writable (i : Ident) : Prop where
  symbol : isSymbolName i.name = true
  named : i.name ∉ unwritable
  raw : i.raw = true ↔ i.name ∈ keywords

section Writable

variable {name : Text}

/-- Only keywords are written raw. -/
theorem text_identOf (h : name ∉ keywords) : (identOf name).text = name := by
  simp [identOf, Ident.text, h]

theorem writable_identOf (h : isSymbolName name = true) (hname : name ∉ unwritable) :
    (identOf name).Writable :=
  ⟨h, hname, decide_eq_true_iff⟩

theorem writable_of_typeIdent {i : Ident} (h : typeIdent name = .ok i) : i.Writable := by
  obtain ⟨hsymbol, hname, hkeyword, rfl⟩ := typeIdent_eq_ok_iff.1 h
  exact ⟨hsymbol, hname, iff_of_false Bool.false_ne_true hkeyword⟩

end Writable

/-! ## 2. Constants -/

section Constants

variable {methods : List Text} {name : Text}

/-- Underscores alone stay as they are. -/
theorem screamingCase_replicate (n : Nat) :
    screamingCase (List.replicate n '_') = List.replicate n '_' := by
  rw [screamingCase, words_replicate, List.takeWhile_replicate]
  simp [Text.join]

theorem constName_eq_or (methods : List Text) (name : Text) :
    (screamingCase name ∈ methods ∧ constName methods name = screamingCase name ++ "_ID") ∨
    (screamingCase name ∉ methods ∧ constName methods name = screamingCase name) := by
  by_cases h : screamingCase name ∈ methods
  · exact .inl ⟨h, if_pos h⟩
  · exact .inr ⟨h, if_neg h⟩

theorem isLower_of_mem_constName {c : Char} (h : c ∈ constName methods name) :
    c.isLower = false := by
  have hsuffix : ∀ c ∈ "_ID".toList, c.isLower = false := by simp
  rcases constName_eq_or methods name with ⟨_, heq⟩ | ⟨_, heq⟩
  · rw [heq] at h
    exact (List.mem_append.1 h).elim isLower_of_mem_screamingCase (hsuffix c)
  · rw [heq] at h
    exact isLower_of_mem_screamingCase h

/-- A word with a small letter is no constant. -/
theorem constName_ne_of_any_isLower {word : Text} (h : word.any Char.isLower = true) :
    constName methods name ≠ word := by
  rintro rfl
  obtain ⟨c, hc, hlower⟩ := List.any_eq_true.1 h
  rw [isLower_of_mem_constName hc] at hlower
  cases hlower

/-- No method is called like its own constant. -/
theorem constName_ne (h : name ∈ methods) : constName methods name ≠ name := by
  intro heq
  rcases constName_eq_or methods name with ⟨_, hconst⟩ | ⟨hmem, hconst⟩
  · have hlength := congrArg (fun t => (t.filter inWord).length) (hconst.symm.trans heq)
    have hsuffix : ("_ID".toList.filter inWord).length = 2 := by decide
    simp only [List.filter_append, List.length_append, filter_screamingCase, List.length_map,
      hsuffix] at hlength
    omega
  · rw [hconst.symm.trans heq] at hmem
    exact hmem h

theorem constName_ne_underscore (h : name ∈ methods) : constName methods name ≠ "_" := by
  intro heq
  rcases constName_eq_or methods name with ⟨_, hconst⟩ | ⟨hmem, hconst⟩
  · have hlength := congrArg List.length (hconst.symm.trans heq)
    simp at hlength
  · -- Then the name is made of underscores, so it is its own constant.
    have hfilter := congrArg (List.filter inWord) (hconst.symm.trans heq)
    rw [filter_screamingCase, show "_".toList.filter inWord = [] from rfl,
      List.map_eq_nil_iff, ← flatten_words] at hfilter
    have hwords : words name = [] := by
      cases hw : words name with
      | nil => rfl
      | cons w rest =>
        rw [hw, List.flatten_cons] at hfilter
        have hword := word_of_mem_words (hw ▸ List.mem_cons_self)
        exact absurd (List.append_eq_nil_iff.1 hfilter).1 hword.1
    rw [words_eq_nil_iff] at hwords
    rw [hwords, screamingCase_replicate, ← hwords] at hmem
    exact hmem h

theorem isSymbolName_append {s t : Text} (h : isSymbolName s = true)
    (ht : ∀ c ∈ t, isSymbolPart c = true) : isSymbolName (s ++ t) = true := by
  obtain ⟨c, rest, rfl, hc, hrest⟩ := isSymbolName_iff.1 h
  exact isSymbolName_iff.2 ⟨c, rest ++ t, rfl, hc, List.forall_mem_append.2 ⟨hrest, ht⟩⟩

/-- The constant of a method can be written as it is. -/
theorem writable_constName (h : isSymbolName name = true) (hmem : name ∈ methods) :
    (⟨constName methods name, false⟩ : Ident).Writable where
  symbol := by
    have hbig := isSymbolName_screamingCase h
    rcases constName_eq_or methods name with ⟨_, heq⟩ | ⟨_, heq⟩
    · rw [heq]
      exact isSymbolName_append hbig (List.all_eq_true.1 (by decide))
    · rwa [heq]
  named hname := by
    have hlower : ∀ word ∈ unwritable, word = "_" ∨ word.any Char.isLower = true := by
      decide +kernel
    rcases hlower _ hname with heq | hany
    · exact constName_ne_underscore hmem heq
    · exact constName_ne_of_any_isLower hany rfl
  raw := by
    simp only [Bool.false_eq_true, false_iff]
    intro hkeyword
    obtain ⟨hne, hlower⟩ := isLower_of_mem_keywords hkeyword
    obtain ⟨c, hc⟩ := List.exists_mem_of_ne_nil _ hne
    exact constName_ne_of_any_isLower (List.any_eq_true.2 ⟨c, hc, hlower c hc⟩) rfl

end Constants

/-! ## 3. Refused names -/

def refusedNames : List Text :=
  ["_", "crate", "self", "Self", "super", "bind", "CALL_SHAPES", "METHODS"]

theorem reserved_iff {name : Text} : Reserved name ↔ name ∈ refusedNames := by
  simp only [Reserved, unwritable, reservedFunctions, reservedConsts, refusedNames,
    List.mem_cons, List.not_mem_nil, or_false, or_assoc]

/-- The name `generated` is made for `source`, which is a method or constant of that name, or a
method whose constant has that name. -/
def Produces (methods : List Text) (source generated : Text) : Prop :=
  (source ∈ methods ∨ source ∈ reservedConsts) ∧ source = generated ∨
    source ∈ methods ∧ constName methods source = generated

/-- Why the names of methods are refused. -/
inductive Refusal (methods : List Text) : GenerateError → Prop
  | reserved {name : Text} : name ∈ methods → name ∈ refusedNames →
      Refusal methods (.reserved name)
  | collision {first second generated : Text} : first ≠ second →
      Produces methods first generated → Produces methods second generated →
      Refusal methods (.nameCollision first second generated)

section Refusals

variable {methods : List Text} {e : GenerateError}

theorem exists_of_mapM_methodIdent (h : methods.mapM methodIdent = .error e) :
    ∃ name ∈ methods, Reserved name ∧ e = .reserved name := by
  induction methods generalizing e with
  | nil => cases h
  | cons name rest ih =>
    rw [List.mapM_cons] at h
    rcases bind_eq_error_iff.1 h with hname | ⟨_, -, h⟩
    · by_cases hreserved : Reserved name
      · rw [methodIdent_of_reserved hreserved] at hname
        exact ⟨name, List.mem_cons_self, hreserved, (Except.error.inj hname).symm⟩
      · rw [methodIdent_of_not_reserved hreserved] at hname
        cases hname
    rcases bind_eq_error_iff.1 h with hrest | ⟨_, -, hpure⟩
    · obtain ⟨found, hmem, hfound⟩ := ih hrest
      exact ⟨found, List.mem_cons_of_mem _ hmem, hfound⟩
    · exact absurd hpure pure_ne_error

/-- A constant is refused if its name was taken at the beginning, or by a method before. -/
theorem exists_of_constNamesFrom {taken : List (Text × Text)} {names : List Text}
    (h : constNamesFrom methods taken names = .error e) :
    ∃ before second after first, names = before ++ second :: after ∧
      e = .nameCollision first second (constName methods second) ∧
      ((constName methods second, first) ∈ taken ∨
        first ∈ before ∧ constName methods first = constName methods second) := by
  induction names generalizing taken e with
  | nil => cases h
  | cons name rest ih =>
    rw [constNamesFrom] at h
    cases hfind : taken.find? (·.1 = constName methods name) with
    | some entry =>
      have hkey := List.find?_some hfind
      rw [decide_eq_true_eq] at hkey
      simp only [hfind] at h
      refine ⟨[], name, rest, entry.2, rfl, (Except.error.inj h).symm, .inl ?_⟩
      rw [← hkey]
      exact List.mem_of_find?_eq_some hfind
    | none =>
      simp only [hfind, map_eq_error_iff] at h
      obtain ⟨before, second, after, first, rfl, rfl, hfirst⟩ := ih h
      refine ⟨name :: before, second, after, first, rfl, rfl, ?_⟩
      rcases hfirst with htaken | ⟨hmem, heq⟩
      · rcases List.mem_cons.1 htaken with hhead | htaken
        · obtain ⟨heq, rfl⟩ := Prod.mk.inj hhead
          exact .inr ⟨List.mem_cons_self, heq.symm⟩
        · exact .inl htaken
      · exact .inr ⟨List.mem_cons_of_mem _ hmem, heq⟩

/-- If the constants of different methods are refused, two different things would have one name. -/
theorem refusal_of_constNames (hnodup : methods.Nodup) (h : constNames methods = .error e) :
    Refusal methods e := by
  obtain ⟨before, second, after, first, hsplit, rfl, hfirst⟩ := exists_of_constNamesFrom h
  have hsecond : second ∈ methods := by
    rw [hsplit]
    exact List.mem_append_right _ List.mem_cons_self
  rcases hfirst with htaken | ⟨hmem, heq⟩
  · obtain ⟨source, hsource, heq⟩ := List.mem_map.1 htaken
    obtain ⟨hconst, rfl⟩ := Prod.mk.inj heq
    refine .collision ?_ (.inl ⟨(List.mem_append.1 hsource).symm, hconst⟩) (.inr ⟨hsecond, rfl⟩)
    rintro rfl
    exact constName_ne hsecond hconst.symm
  · have hfirst : first ∈ methods := by
      rw [hsplit]
      exact List.mem_append_left _ hmem
    refine .collision ?_ (.inr ⟨hfirst, heq⟩) (.inr ⟨hsecond, rfl⟩)
    rintro rfl
    rw [hsplit, List.nodup_append] at hnodup
    exact hnodup.2.2 first hmem first List.mem_cons_self rfl

/-- If the names of different methods are refused, one is reserved, or two different things would
have one name. -/
theorem refusal_of_methodNames (hnodup : methods.Nodup) (h : methodNames methods = .error e) :
    Refusal methods e := by
  rcases bind_eq_error_iff.1 h with hidents | ⟨_, -, h⟩
  · obtain ⟨name, hmem, hname, rfl⟩ := exists_of_mapM_methodIdent hidents
    exact .reserved hmem (reserved_iff.1 hname)
  rcases bind_eq_error_iff.1 h with hconsts | ⟨_, -, hpure⟩
  · exact refusal_of_constNames hnodup hconsts
  · exact absurd hpure pure_ne_error

end Refusals
end ForeignCall
