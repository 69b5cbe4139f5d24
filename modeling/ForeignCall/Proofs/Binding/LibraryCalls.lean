import ForeignCall.Proofs.Binding.Resolver
import Mathlib.Data.List.Forall2

/-!
# What a resolver names

The resolver of a manifest is the text of a call with a library specification. The candidates are
the elements of an array, each a text literal, and whatever a candidate contains, its literal ends
where the candidate ends.

* `LibrarySpec.CalledBy` says which tokens are a call with a specification;
  `LibrarySpec.CalledBy.unique`: they are a call with no other.
* `Manifest.exists_around`: a candidate stands in the resolver as a literal, and the text around it
  does not depend on it.
* `Manifest.resolver_names_library`: the resolver is a call with the manifest's specification,
  before and after it is printed anew, and no other specification has the same resolver.
-/

namespace ForeignCall

/-! ## 1. Calls -/

/-- The tokens of a resolver up to the kind of the specification. -/
def callStart : List Token :=
  code ":: natbind_runtime :: resolve ( &:: natbind_runtime :: LibrarySpec ::"

/-- These elements stand for these texts, one for one. -/
abbrev Token.StandFor (items : List Token) (names : List Text) : Prop :=
  List.Forall₂ (fun item name => item.textValue? = some name) items names

/-- The tokens are a call of the registry with the specification. Candidates are the elements of an
array, with commas between them, and each is a literal of its candidate. -/
def LibrarySpec.CalledBy (ts : List Token) : LibrarySpec → Prop
  | .currentProcess => ts = callStart ++ code "CurrentProcess )"
  | .candidates names => ∃ items, Token.StandFor items names ∧
      ts = callStart ++ (code "candidates ( [" ++
        (commaSeparated (items.map fun item => [item]) ++ code "] ) )"))

/-- Literals with commas between them are read as the texts they stand for. -/
theorem Token.textList?_of_standFor {items : List Token} {names : List Text}
    (h : StandFor items names) (rest : List Token) :
    textList? (commaSeparated (items.map fun item => [item]) ++ .closing .square :: rest) =
      some (names, rest) := by
  induction h with
  | nil => rfl
  | @cons item name items names hitem hitems ih =>
    obtain ⟨t, rfl⟩ : ∃ t, item = .literal t := by
      cases item with
      | literal t => exact ⟨t, rfl⟩
      | _ => cases hitem
    cases hitems with
    | nil => simp [commaSeparated, textList?, hitem]
    | cons =>
      simp only [List.map_cons] at ih
      simp [commaSeparated, textList?, hitem, ih]

/-- The tokens of a call tell the specification. -/
theorem LibrarySpec.CalledBy.unique {spec spec' : LibrarySpec} {ts : List Token}
    (h : spec.CalledBy ts) (h' : spec'.CalledBy ts) : spec = spec' := by
  have hkind : ∀ rest : List Token, code "CurrentProcess )" ≠ code "candidates ( [" ++ rest := by
    intro rest heq
    have hcode : code "candidates ( [" =
        .word "candidates" :: [.opening .round, .opening .square] := by
      decide_cbv
    have hword : (code "CurrentProcess )").head? ≠ some (.word "candidates") := by decide_cbv
    exact hword (by rw [heq, hcode]; rfl)
  have hback : code "] ) )" = .closing .square :: [.closing .round, .closing .round] := by
    decide_cbv
  cases spec with
  | currentProcess =>
    cases spec' with
    | currentProcess => rfl
    | candidates names' =>
      obtain ⟨items', -, hts'⟩ := h'
      exact absurd (List.append_cancel_left (h.symm.trans hts')) (hkind _)
  | candidates names =>
    obtain ⟨items, hitems, hts⟩ := h
    cases spec' with
    | currentProcess => exact absurd (List.append_cancel_left (h'.symm.trans hts)) (hkind _)
    | candidates names' =>
      obtain ⟨items', hitems', hts'⟩ := h'
      have hlist := List.append_cancel_left (List.append_cancel_left (hts.symm.trans hts'))
      have hread := Token.textList?_of_standFor hitems [.closing .round, .closing .round]
      rw [← hback, hlist, hback, Token.textList?_of_standFor hitems'] at hread
      cases hread
      rfl

namespace Manifest

/-! ## 2. Tokens of resolvers -/

/-- A quoted text stands for the text. -/
theorem standFor_literals (names : List Text) :
    Token.StandFor (names.map fun name => .literal (Quoted.encode name)) names := by
  induction names with
  | nil => exact .nil
  | cons name names ih => exact .cons (Token.textValue?_encode name) ih

theorem calledBy_resolverCall (spec : LibrarySpec) : spec.CalledBy (resolverCall true spec) := by
  cases spec with
  | currentProcess =>
    show resolverCall true .currentProcess = callStart ++ code "CurrentProcess )"
    unfold resolverCall resolveNames specificationTokens specificationNames callStart
    repeat rw [String.toList_ofList]
    decide_cbv
  | candidates names =>
    refine ⟨_, standFor_literals names, ?_⟩
    have hfront : resolveNames.flatMap Grammar.rootedSegment ++ .opening .round :: .mark '&' true ::
        ((specificationNames (.candidates [])).flatMap Grammar.rootedSegment ++
          [.opening .round, .opening .square]) = callStart ++ code "candidates ( [" := by
      unfold resolveNames specificationNames callStart
      repeat rw [String.toList_ofList]
      decide_cbv
    have hback : code "] ) )" = [.closing .square, .closing .round, .closing .round] := by
      decide_cbv
    rw [← List.append_assoc, ← hfront, hback]
    simp [resolverCall, specificationTokens, specificationNames, bracketed, Token.literals,
      Function.comp_def]

theorem exists_calledBy_resolver (m : Manifest) :
    ∃ ts, Token.lex m.resolver = some ts ∧ m.library.CalledBy ts :=
  ⟨_, m.lex_resolver, calledBy_resolverCall m.library⟩

/-! ## 3. Resolvers as texts -/

/-- What a resolver is does not depend on anything else in the manifest. -/
theorem resolver_eq_iff {m m' : Manifest} : m.resolver = m'.resolver ↔ m.library = m'.library := by
  constructor
  · intro h
    obtain ⟨ts, hlex, hcalled⟩ := m.exists_calledBy_resolver
    obtain ⟨ts', hlex', hcalled'⟩ := m'.exists_calledBy_resolver
    rw [h, hlex'] at hlex
    cases hlex
    exact hcalled.unique hcalled'
  · intro h
    unfold resolver
    rw [h]

/-- A list with something before each item but the first, around one of its items. -/
theorem exists_join_around (separator : Text) (before after : List Text) :
    ∃ front rest, ∀ item,
      Text.join separator (before ++ item :: after) = front ++ (item ++ rest) := by
  induction before with
  | nil =>
    cases after with
    | nil => exact ⟨[], [], fun item => by simp [Text.join]⟩
    | cons next after =>
      exact ⟨[], separator ++ Text.join separator (next :: after), fun item => by simp [Text.join]⟩
  | cons first before ih =>
    obtain ⟨front, rest, h⟩ := ih
    refine ⟨first ++ separator ++ front, rest, fun item => ?_⟩
    have hcons : Text.join separator (first :: (before ++ item :: after)) =
        first ++ separator ++ Text.join separator (before ++ item :: after) := by
      cases before <;> rfl
    rw [List.cons_append, hcons, h, List.append_assoc _ front]

/-- The text around the literal of a candidate does not depend on the candidate. -/
theorem exists_around (before after : List Text) :
    ∃ front rest, ∀ (m : Manifest) name, m.library = .candidates (before ++ name :: after) →
      m.resolver = front ++ (Quoted.encode name ++ rest) := by
  obtain ⟨front, rest, hjoin⟩ := exists_join_around ", "
    (before.map Quoted.encode) (after.map Quoted.encode)
  refine ⟨"::natbind_runtime::resolve(&::natbind_runtime::LibrarySpec::".toList ++
    ("candidates([".toList ++ front), rest ++ ("])".toList ++ ")".toList), fun m name h => ?_⟩
  unfold resolver
  rw [h]
  simp only [List.map_append, List.map_cons, hjoin, List.append_assoc]

/-- For every manifest, whatever its candidates are called, the resolver is the text of a call with
the manifest's specification: its array has one element for each candidate, a literal that stands
for it. So it is still when the expression was read and printed again for generated code. Two
manifests have one resolver just if they have one specification. The literal of a candidate ends
where the candidate ends, and the text before and after it is the same for any other candidate in
its place. -/
theorem resolver_names_library (m : Manifest) :
    (∃ ts, Token.lex m.resolver = some ts ∧ m.library.CalledBy ts) ∧
    (∃ printed, resolverTokens m.resolver = .ok printed ∧
      LibrarySpec.ofResolver? printed = some m.library) ∧
    (∀ m' : Manifest, m.resolver = m'.resolver ↔ m.library = m'.library) ∧
    ∀ before after, ∃ front rest, ∀ name, m.library = .candidates (before ++ name :: after) →
      m.resolver = front ++ (Quoted.encode name ++ rest) ∧
      Literal.text? (Quoted.encode name ++ rest) = some (name, rest) ∧
      ∀ (m' : Manifest) other, m'.library = .candidates (before ++ other :: after) →
        m'.resolver = front ++ (Quoted.encode other ++ rest) := by
  refine ⟨m.exists_calledBy_resolver, m.ofResolver?_tokens, fun m' => resolver_eq_iff,
    fun before after => ?_⟩
  obtain ⟨front, rest, haround⟩ := exists_around before after
  exact ⟨front, rest, fun name hname =>
    ⟨haround m name hname, Literal.text?_encode_append name rest, haround⟩⟩

end Manifest
end ForeignCall
