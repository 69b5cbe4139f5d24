import ForeignCall.Proofs.Text.Quoted

/-!
# Reading what was printed as tokens

A text that is printed piece by piece is read piece by piece. Quoted texts are read as the literals
they are, with commas between them.

* `Token.Lexes` says which tokens a piece of text is read as; `Token.Lexes.append` puts pieces
  together and `Token.Lexes.lex_eq` reads the whole.
* `Token.lexes_encode` and `Token.lexes_literals`: one quoted text and a list of them.
-/

namespace ForeignCall

/-! ## 1. Literals -/

namespace Literal

/-- What follows a quoted text, if no suffix is written at it. -/
theorem rest?_encode_append {rest : Text} (h : skipWord rest = rest) (t : Text) :
    rest? (Quoted.encode t ++ rest) = some rest := by
  have hquoted := quoted?_encode_append t rest
  simp only [rest?, hquoted, List.map_cons, List.cons_append, Option.map_some, List.findSome?_cons,
    id_eq, h]

end Literal

theorem leafToken?_encode_append {rest : Text} (h : skipWord rest = rest) (t : Text) :
    leafToken? (Quoted.encode t ++ rest) = some (.literal (Quoted.encode t), rest) := by
  have htake : (Quoted.encode t ++ rest).take
      ((Quoted.encode t ++ rest).length - rest.length) = Quoted.encode t := by
    rw [List.length_append, Nat.add_sub_cancel, List.take_left]
  rw [leafToken?, Literal.rest?_encode_append h]
  exact congrArg (fun written => some (Token.literal written, rest)) htake

namespace Token

/-! ## 2. Pieces -/

/-- In front of `rest` the text `s` is read as the tokens `ts`; `before` and `after` are the
brackets that are open. No more steps are made than there are characters. -/
def Lexes (s : Text) (ts : List Token) (before after : List Bracket) (rest : Text) : Prop :=
  ∃ steps ≤ s.length, ∀ n,
    lexFrom (n + steps) before (s ++ rest) = (lexFrom n after rest).map (ts ++ ·)

section Pieces

variable {s s' rest : Text} {ts ts' : List Token} {before between after pending : List Bracket}

theorem Lexes.append (h : Lexes s ts before between (s' ++ rest))
    (h' : Lexes s' ts' between after rest) : Lexes (s ++ s') (ts ++ ts') before after rest := by
  obtain ⟨steps, hsteps, h⟩ := h
  obtain ⟨steps', hsteps', h'⟩ := h'
  refine ⟨steps' + steps, ?_, fun n => ?_⟩
  · rw [List.length_append, Nat.add_comm]
    exact Nat.add_le_add hsteps hsteps'
  · rw [← Nat.add_assoc, List.append_assoc, h, h', Option.map_map]
    exact congrArg (Option.map · _) (funext fun _ => (List.append_assoc ts ts' _).symm)

/-- A text that is read to its end is read as these tokens. -/
theorem Lexes.lex_eq (h : Lexes s ts [] [] []) (hmark : s.head? ≠ some '\ufeff') :
    lex s = some ts := by
  obtain ⟨steps, hsteps, h⟩ := h
  obtain ⟨n, hn⟩ : ∃ n, s.length + 1 = n + 1 + steps := ⟨s.length - steps, by omega⟩
  have hread := h (n + 1)
  rw [List.append_nil, ← hn] at hread
  rw [lex, if_neg hmark, hread]
  simp [lexFrom]

/-- Tokens that are put in front one by one are put in front together. -/
theorem foldr_map_cons (ts : List Token) (r : Option (List Token)) :
    ts.foldr (fun t r => r.map (t :: ·)) r = r.map (ts ++ ·) := by
  induction ts with
  | nil => simp
  | cons t ts ih =>
    rw [List.foldr_cons, ih, Option.map_map]
    rfl

/-- What begins neither a comment nor a bracket is read as a word, a mark or a literal. -/
theorem lexFrom_leaf {c : Char} {s : Text} (hblank : isTokenBlank c = false)
    (hdoc : docComment? (c :: s) = none) (hcomment : plainComment? (c :: s) = none)
    (hmissing : Text.stripPrefix? missingExpression (c :: s) = none)
    (hleft : Bracket.all.find? (·.left = c) = none)
    (hright : Bracket.all.find? (·.right = c) = none) {t : Token}
    (hleaf : leafToken? (c :: s) = some (t, rest)) (n : Nat) :
    lexFrom (n + 1) pending (c :: s) = (lexFrom n pending rest).map (t :: ·) := by
  rw [lexFrom]
  simp only [hblank, hdoc, hcomment, hmissing, hleft, hright, hleaf, Bool.false_eq_true, if_false]

theorem lexes_encode (h : skipWord rest = rest) (t : Text) :
    Lexes (Quoted.encode t) [.literal (Quoted.encode t)] pending pending rest := by
  refine ⟨1, Nat.le_add_left 1 _, fun n => ?_⟩
  exact lexFrom_leaf rfl rfl rfl rfl rfl rfl (leafToken?_encode_append h t) n

theorem lexes_comma : Lexes ", " [.mark ',' false] pending pending rest :=
  ⟨2, by decide, fun _ => rfl⟩

/-! ## 3. Lists -/

def literals (names : List Text) : List Token :=
  commaSeparated (names.map fun name => [.literal (Quoted.encode name)])

theorem lexes_literals (names : List Text) :
    Lexes (Text.join ", " (names.map Quoted.encode)) (literals names) pending pending
      (']' :: rest) := by
  induction names with
  | nil => exact ⟨0, Nat.le_refl 0, fun n => by simp [Text.join, literals, commaSeparated]⟩
  | cons name names ih =>
    cases names with
    | nil => exact lexes_encode rfl name
    | cons next names =>
      have hname : Lexes (Quoted.encode name) [.literal (Quoted.encode name)] pending pending
          (", " ++ (Text.join ", " ((next :: names).map Quoted.encode) ++ ']' :: rest)) :=
        lexes_encode rfl name
      exact (hname.append lexes_comma).append ih

end Pieces

end Token
end ForeignCall
