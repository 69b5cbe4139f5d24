import ForeignCall.Binding.Generate
import ForeignCall.Binding.Resolver
import ForeignCall.Manifest
import ForeignCall.Proofs.Source.Calls

/-!
# The resolver of a manifest

The expression that a manifest writes for its libraries is read as an expression, and the tokens
that are printed for it tell the libraries again, whatever their names contain.

* `Manifest.lex_resolver` gives the tokens of the expression, `Manifest.resolverTokens_resolver`
  what is printed for them.
* `Manifest.ofResolver?_tokens`: the printed tokens tell the libraries of the manifest.
-/

namespace ForeignCall

/-! ## 1. Lists of texts -/

namespace Token

theorem textValue?_encode (t : Text) : (Token.literal (Quoted.encode t)).textValue? = some t := by
  have htext := Literal.text?_encode_append t []
  rw [List.append_nil] at htext
  rw [textValue?, htext]

theorem textList?_literals (names : List Text) (rest : List Token) :
    textList? (literals names ++ .closing .square :: rest) = some (names, rest) := by
  induction names with
  | nil => rfl
  | cons name names ih =>
    cases names with
    | nil =>
      have hvalue := textValue?_encode name
      simp [literals, commaSeparated, textList?, hvalue]
    | cons next names =>
      have hvalue := textValue?_encode name
      have hlist : literals (name :: next :: names) ++ .closing .square :: rest =
          .literal (Quoted.encode name) :: .mark ',' false ::
            (literals (next :: names) ++ .closing .square :: rest) := by
        simp [literals, commaSeparated]
      simp [hlist, textList?, hvalue, ih]

end Token

/-! ## 2. Tokens -/

/-- The names in the path of the function that a resolver calls. -/
def resolveNames : List Text := ["natbind_runtime", "resolve"]

/-- The names in the path of a specification. -/
def specificationNames : LibrarySpec → List Text
  | .currentProcess => ["natbind_runtime", "LibrarySpec", "CurrentProcess"]
  | .candidates _ => ["natbind_runtime", "LibrarySpec", "candidates"]

/-- The tokens of a specification in a resolver. -/
def specificationTokens (spec : LibrarySpec) : List Token :=
  (specificationNames spec).flatMap Grammar.rootedSegment ++ match spec with
    | .currentProcess => []
    | .candidates names => bracketed .round (bracketed .square (Token.literals names))

/-- The tokens of a resolver; `glued` says that the sign of the reference is glued to the colon
after it. -/
def resolverCall (glued : Bool) (spec : LibrarySpec) : List Token :=
  resolveNames.flatMap Grammar.rootedSegment ++
    bracketed .round (.mark '&' glued :: specificationTokens spec)

namespace Manifest

section Reading

variable {rest : Text} {m : Manifest}

set_option maxRecDepth 10000 in
/-- What stands in front of the names. -/
theorem lexes_front (names : List Text) :
    Token.Lexes ("::natbind_runtime::resolve(&::natbind_runtime::LibrarySpec::".toList ++
        "candidates([".toList)
      (resolveNames.flatMap Grammar.rootedSegment ++ .opening .round :: .mark '&' true ::
        ((specificationNames (.candidates names)).flatMap Grammar.rootedSegment ++
          [.opening .round, .opening .square]))
      [] [.square, .round, .round] rest := by
  unfold resolveNames specificationNames
  repeat rw [String.toList_ofList]
  refine ⟨19, by decide, fun n => ?_⟩
  rw [← Token.foldr_map_cons]
  rfl

/-- What stands behind the names. -/
theorem lexes_back :
    Token.Lexes [']', ')', ')'] [.closing .square, .closing .round, .closing .round]
      [.square, .round, .round] [] rest := by
  refine ⟨3, by decide, fun n => ?_⟩
  rw [← Token.foldr_map_cons]
  rfl

theorem lex_candidates {names : List Text} (h : m.library = .candidates names) :
    Token.lex m.resolver = some (resolverCall true m.library) := by
  let joined := Text.join ", " (names.map Quoted.encode)
  have hback : "])".toList ++ ")".toList = [']', ')', ')'] := by decide +kernel
  have hresolver : m.resolver =
      "::natbind_runtime::resolve(&::natbind_runtime::LibrarySpec::".toList ++
        "candidates([".toList ++ (joined ++ [']', ')', ')']) := by
    unfold resolver
    rw [h, ← hback]
    simp only [joined, List.append_assoc]
  have hnames : Token.Lexes (joined ++ [']', ')', ')'])
      (Token.literals names ++ [.closing .square, .closing .round, .closing .round])
      [.square, .round, .round] [] [] :=
    (Token.lexes_literals names).append lexes_back
  have hhead : m.resolver.head? = some ':' := by
    rw [hresolver]
    rfl
  rw [hresolver] at hhead ⊢
  rw [((lexes_front names).append hnames).lex_eq (by rw [hhead]; decide), h]
  simp [resolverCall, specificationTokens, bracketed]

theorem lex_currentProcess (h : m.library = .currentProcess) :
    Token.lex m.resolver = some (resolverCall true m.library) := by
  have hresolver : m.resolver =
      "::natbind_runtime::resolve(&::natbind_runtime::LibrarySpec::CurrentProcess)" := by
    unfold resolver
    rw [h]
    repeat rw [String.toList_ofList]
    decide +kernel
  rw [hresolver, h]
  unfold resolverCall resolveNames specificationTokens specificationNames
  repeat rw [String.toList_ofList]
  decide +kernel

end Reading

theorem lex_resolver (m : Manifest) :
    Token.lex m.resolver = some (resolverCall true m.library) := by
  cases h : m.library with
  | currentProcess => exact h ▸ lex_currentProcess h
  | candidates names => exact h ▸ lex_candidates h

end Manifest

/-! ## 3. What is printed -/

theorem isOperand_specificationTokens (spec : LibrarySpec) (n : Nat)
    (hwords : ∀ w ∈ specificationNames spec, w ∉ strictKeywords ∧ w ∉ Grammar.specialSegments) :
    IsOperand (n + 5) (specificationTokens spec) (specificationTokens spec) := by
  cases spec with
  | currentProcess => exact IsOperand.path hwords
  | candidates names =>
    have hnames : IsOperand (n + 3) (bracketed .square (Token.literals names))
        (bracketed .square (Token.literals names)) := by
      have harray := IsOperand.array (n := n + 1)
        (names.map fun name => ([.literal (Quoted.encode name)], [.literal (Quoted.encode name)]))
        (by simpa using fun name _ => IsOperand.literal (Quoted.encode name))
      simpa [IsOperand.readList, IsOperand.printedList, Token.literals, Function.comp_def]
        using harray
    exact IsOperand.call [(_, _)] hwords (List.forall_mem_singleton.2 hnames)

/-- No name in a resolver is a keyword. -/
theorem not_keyword (spec : LibrarySpec) : ∀ w ∈ resolveNames ++ specificationNames spec,
    w ∉ strictKeywords ∧ w ∉ Grammar.specialSegments := by
  have hnames : specificationNames spec ⊆
      specificationNames .currentProcess ++ specificationNames (.candidates []) := by
    cases spec with
    | currentProcess => exact List.subset_append_left _ _
    | candidates => exact List.subset_append_right _ _
  have hkeywords : ∀ w ∈ strictKeywords ++ Grammar.specialSegments, w ∉ resolveNames ++
      (specificationNames .currentProcess ++ specificationNames (.candidates [])) := by
    unfold strictKeywords Grammar.specialSegments resolveNames specificationNames
    repeat rw [String.toList_ofList]
    decide +kernel
  intro w hw
  have hw := List.append_subset.2 ⟨List.subset_append_left _ _,
    List.subset_append_of_subset_right _ hnames⟩ hw
  exact ⟨fun h => hkeywords w (List.mem_append_left _ h) hw,
    fun h => hkeywords w (List.mem_append_right _ h) hw⟩

theorem isOperand_resolverCall (glued : Bool) (spec : LibrarySpec) (n : Nat) :
    IsOperand (n + 8) (resolverCall glued spec) (resolverCall false spec) := by
  obtain ⟨hresolve, hspec⟩ := List.forall_mem_append.1 (not_keyword spec)
  have hreference : IsOperand (n + 6) (.mark '&' glued :: specificationTokens spec)
      (.mark '&' false :: specificationTokens spec) := by
    have hoperand := isOperand_specificationTokens spec n hspec
    cases spec with
    | currentProcess => exact hoperand.reference glued
    | candidates names => exact hoperand.reference glued
  exact IsOperand.call [(_, _)] hresolve (List.forall_mem_singleton.2 hreference)

theorem ofResolver?_resolverCall (spec : LibrarySpec) :
    LibrarySpec.ofResolver? (resolverCall false spec) = some spec := by
  cases spec with
  | currentProcess =>
    unfold resolverCall resolveNames specificationTokens specificationNames
    repeat rw [String.toList_ofList]
    decide +kernel
  | candidates names =>
    have hcode : resolverStart = resolveNames.flatMap Grammar.rootedSegment ++ .opening .round ::
        .mark '&' false ::
          ((specificationNames (.candidates [])).flatMap Grammar.rootedSegment).dropLast := by
      unfold resolverStart resolveNames specificationNames
      repeat rw [String.toList_ofList]
      decide +kernel
    have hstart : resolverCall false (.candidates names) = resolverStart ++ .word "candidates" ::
        .opening .round :: .opening .square ::
          (Token.literals names ++ .closing .square :: [.closing .round, .closing .round]) := by
      rw [hcode]
      simp [resolverCall, specificationTokens, bracketed]
      rfl
    rw [LibrarySpec.ofResolver?, hstart, Token.strip?_append]
    simp only [Option.bind_eq_bind, Option.bind_some, Token.textList?_literals, if_true]

/-- The resolver of a manifest is an expression. -/
theorem Manifest.resolverTokens_resolver (m : Manifest) :
    resolverTokens m.resolver = .ok (resolverCall false m.library) := by
  have hparse := IsOperand.parse?_eq (isOperand_resolverCall true m.library) (by decide)
  rw [resolverTokens, m.lex_resolver, Option.bind_some, hparse, orError]

/-- What is printed for it tells the libraries of the manifest. -/
theorem Manifest.ofResolver?_tokens (m : Manifest) :
    ∃ tokens, resolverTokens m.resolver = .ok tokens ∧
      LibrarySpec.ofResolver? tokens = some m.library :=
  ⟨_, m.resolverTokens_resolver, ofResolver?_resolverCall m.library⟩

end ForeignCall
