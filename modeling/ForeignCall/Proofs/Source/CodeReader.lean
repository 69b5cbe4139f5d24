import ForeignCall.Binding.Code
import ForeignCall.Binding.Resolver
import ForeignCall.Proofs.Source.Legible

/-!
# Reading data off code

Code that was printed from data tells the data again. A reader expects certain tokens between the
data, and refuses everything else.

* `CodeReader.Gives` says what a reader reads off tokens, whatever follows them. A reader that takes
  one step after another gives what its steps give (`CodeReader.Gives.bind`).
* `CodeReader.Gives.choose` is a reader that goes by what stands in front, `CodeReader.Gives.many`
  and `CodeReader.Gives.listed` read lists.
* `Ident.ofToken?_token`, `Token.number?_ofNat` and `Token.textValue?_quoted`: names, numbers and
  texts are read back.
-/

namespace ForeignCall

/-! ## 1. Tokens -/

namespace Token

/-- The two differ at a place that both have. -/
def Diverge : List Token → List Token → Prop
  | a :: ts, b :: us => a ≠ b ∨ Diverge ts us
  | _, _ => False

instance decidableDiverge : (ts us : List Token) → Decidable (Diverge ts us)
  | a :: ts, b :: us =>
    have := decidableDiverge ts us
    inferInstanceAs (Decidable (a ≠ b ∨ Diverge ts us))
  | [], _ => isFalse id
  | _ :: _, [] => isFalse id

variable {ts us : List Token}

theorem Diverge.append (h : Diverge ts us) (vs ws : List Token) :
    Diverge (ts ++ vs) (us ++ ws) := by
  fun_induction Diverge ts us with
  | case1 a ts b us ih => exact h.imp_right ih
  | case2 => exact h.elim

theorem Diverge.append_right (h : Diverge ts us) (ws : List Token) : Diverge ts (us ++ ws) := by
  rw [← List.append_nil ts]
  exact h.append [] ws

theorem Diverge.append_left (h : Diverge ts us) (vs : List Token) :
    Diverge (vs ++ ts) (vs ++ us) := by
  induction vs with
  | nil => exact h
  | cons v vs ih => exact .inr ih

theorem Diverge.strip?_eq_none (h : Diverge ts us) (rest : List Token) :
    strip? ts (us ++ rest) = none := by
  fun_induction Diverge ts us with
  | case1 a ts b us ih =>
    rw [List.cons_append, strip?]
    split
    · next hab => exact ih (h.resolve_left fun hne => hne hab)
    · rfl
  | case2 => exact h.elim

theorem Diverge.of_head? {a b : Token} (ht : ts.head? = some a) (hu : us.head? = some b)
    (hne : a ≠ b) : Diverge ts us := by
  obtain ⟨ts, rfl⟩ := List.head?_eq_some_iff.1 ht
  obtain ⟨us, rfl⟩ := List.head?_eq_some_iff.1 hu
  exact .inl hne

theorem Diverge.ne_nil (h : Diverge ts us) : us ≠ [] := by
  rintro rfl
  cases ts <;> exact h

end Token

/-- Reads something off the front of tokens, and leaves what follows. -/
abbrev CodeReader (α : Type) := StateT (List Token) Option α

namespace CodeReader

variable {α β : Type}

def fixed (ts : List Token) : CodeReader Unit := fun rest => (Token.strip? ts rest).map ((), ·)

/-- Takes a token that `value?` gives something for. -/
def token (value? : Token → Option α) : CodeReader α
  | [] => none
  | t :: rest => (value? t).map (·, rest)

def within (b : Bracket) (p : CodeReader α) : CodeReader α := do
  fixed [.opening b]
  let a ← p
  fixed [.closing b]
  return a

/-- Goes by the first of the fronts that stands here. -/
def choose (table : List (List Token × CodeReader α)) : CodeReader α := fun ts =>
  table.findSome? fun entry => (Token.strip? entry.1 ts).bind entry.2

/-- What the table has for the tokens that stand here. -/
def oneOf (table : List (List Token × α)) : CodeReader α :=
  choose (table.map fun entry => (entry.1, pure entry.2))

/-- Items up to the tokens `stop`, of which there are at most `n`; the first is number `k`. -/
def manyUpTo (stop : List Token) (item : Nat → CodeReader α) : Nat → Nat → CodeReader (List α)
  | _, 0 => do
    fixed stop
    return []
  | k, n + 1 =>
    (do
      fixed stop
      return []) <|> (do
      let a ← item k
      let as ← manyUpTo stop item (k + 1) n
      return a :: as)

/-- Items up to the tokens `stop`. Each takes a token at least. -/
def many (stop : List Token) (item : Nat → CodeReader α) : CodeReader (List α) := fun ts =>
  manyUpTo stop item 0 ts.length ts

def block (b : Bracket) (item : CodeReader α) : CodeReader (List α) := do
  fixed [.opening b]
  many [.closing b] fun _ => item

/-- Items between brackets, with a comma between neighbours; `front` stands before the first. -/
def listed (b : Bracket) (front : List Token) (item : Nat → CodeReader α) :
    CodeReader (List α) := do
  fixed (.opening b :: front)
  (do
    fixed [.closing b]
    return []) <|> (do
    let a ← item 0
    let as ← many [.closing b] fun k => do
      fixed [.mark ',' false]
      item (k + 1)
    return a :: as)

/-! ## 2. Steps -/

/-- The tokens are read as `a`, whatever follows them. -/
def Gives (p : CodeReader α) (ts : List Token) (a : α) : Prop :=
  ∀ rest, p (ts ++ rest) = some (a, rest)

/-- Tokens that begin like this are not read. -/
def Refuses (p : CodeReader α) (ts : List Token) : Prop := ∀ rest, p (ts ++ rest) = none

theorem Refuses.fixed {ts us : List Token} (h : Token.Diverge ts us) : Refuses (fixed ts) us :=
  fun rest => by rw [CodeReader.fixed, h.strip?_eq_none, Option.map_none]

theorem Refuses.append {p : CodeReader α} {ts : List Token} (h : Refuses p ts) (us : List Token) :
    Refuses p (ts ++ us) := fun rest => by
  rw [List.append_assoc]
  exact h _

theorem Refuses.bind {p : CodeReader α} {ts : List Token} (h : Refuses p ts)
    (f : α → CodeReader β) : Refuses (p >>= f) ts := fun rest => by
  change (p (ts ++ rest)).bind _ = none
  rw [h rest, Option.bind_none]

namespace Gives

variable {p q : CodeReader α} {f : α → CodeReader β} {ts us : List Token} {a : α} {b : β}

theorem pure (a : α) : Gives (pure a) [] a := fun _ => rfl

theorem bind (hp : Gives p ts a) (hf : Gives (f a) us b) : Gives (p >>= f) (ts ++ us) b :=
  fun rest => by
    change (p (ts ++ us ++ rest)).bind _ = _
    rw [List.append_assoc, hp, Option.bind_some]
    exact hf rest

/-- The last step. -/
theorem map {g : α → β} (hp : Gives p ts a) : Gives (do return g (← p)) ts (g a) := by
  rw [← List.append_nil ts]
  exact hp.bind (pure (g a))

theorem fixed (ts : List Token) : Gives (fixed ts) ts () := fun rest => by
  rw [CodeReader.fixed, Token.strip?_append, Option.map_some]

theorem token {value? : Token → Option α} {t : Token} (h : value? t = some a) :
    Gives (token value?) [t] a := fun rest => by
  change (value? t).map _ = _
  rw [h]
  rfl

/-- A step that takes one token. -/
theorem cons {t : Token} (hp : Gives p [t] a) (hf : Gives (f a) us b) :
    Gives (p >>= f) (t :: us) b :=
  hp.bind hf

theorem within (k : Bracket) (hp : Gives p ts a) : Gives (within k p) (bracketed k ts) a :=
  (fixed [.opening k]).cons (hp.bind (fixed [.closing k]).map)

theorem orElse_left (h : Gives p ts a) (q : CodeReader α) : Gives (p <|> q) ts a := fun rest => by
  change (p (ts ++ rest) <|> q (ts ++ rest)) = _
  rw [h]
  rfl

theorem orElse_right (hp : Refuses p ts) (hq : Gives q ts a) : Gives (p <|> q) ts a :=
  fun rest => by
    change (p (ts ++ rest) <|> q (ts ++ rest)) = _
    rw [hp, hq]
    rfl

/-- If no front stands where another does, each leads to its own reader. -/
theorem choose {table : List (List Token × CodeReader α)} {front : List Token}
    (hfronts : (table.map Prod.fst).Pairwise Token.Diverge) (hmem : (front, p) ∈ table)
    (hp : Gives p ts a) : Gives (choose table) (front ++ ts) a := by
  intro rest
  rw [CodeReader.choose]
  induction table with
  | nil => exact absurd hmem List.not_mem_nil
  | cons entry table ih =>
    obtain ⟨hentry, hfronts⟩ := List.pairwise_cons.1 hfronts
    rw [List.findSome?_cons]
    rcases List.mem_cons.1 hmem with rfl | hmem
    · rw [List.append_assoc, Token.strip?_append, Option.bind_some]
      dsimp only
      rw [hp]
    · have hdiverge := hentry front (List.mem_map_of_mem hmem)
      rw [List.append_assoc, hdiverge.strip?_eq_none, Option.bind_none, ← List.append_assoc]
      exact ih hfronts hmem

theorem choose_pure {table : List (List Token × CodeReader α)}
    (hfronts : (table.map Prod.fst).Pairwise Token.Diverge) (hmem : (ts, Pure.pure a) ∈ table) :
    Gives (CodeReader.choose table) ts a := by
  rw [← List.append_nil ts]
  exact choose hfronts hmem (pure a)

theorem oneOf {table : List (List Token × α)}
    (hfronts : (table.map Prod.fst).Pairwise Token.Diverge) (hmem : (ts, a) ∈ table) :
    Gives (oneOf table) ts a := by
  refine choose_pure ?_ (List.mem_map_of_mem hmem)
  rwa [List.map_map]

end Gives

theorem Refuses.choose {table : List (List Token × CodeReader α)} {ts : List Token}
    (h : ∀ front ∈ table.map Prod.fst, Token.Diverge front ts) : Refuses (choose table) ts := by
  intro rest
  rw [CodeReader.choose, List.findSome?_eq_none_iff]
  intro entry hentry
  rw [(h entry.1 (List.mem_map_of_mem hentry)).strip?_eq_none, Option.bind_none]

/-! ## 3. Lists -/

theorem commaSeparated_cons (part : List Token) (parts : List (List Token)) :
    commaSeparated (part :: parts) = part ++ (parts.map (.mark ',' false :: ·)).flatten := by
  induction parts generalizing part with
  | nil => rw [commaSeparated, List.map_nil, List.flatten_nil, List.append_nil]
  | cons next parts ih =>
    rw [commaSeparated, ih, List.map_cons, List.flatten_cons, List.cons_append]

/-- Each item is read off its part; the first is number `k`. -/
inductive GivesEach (item : Nat → CodeReader α) : Nat → List (List Token) → List α → Prop
  | nil {k : Nat} : GivesEach item k [] []
  | cons {k : Nat} {part : List Token} {parts : List (List Token)} {a : α} {as : List α} :
    Gives (item k) part a → GivesEach item (k + 1) parts as →
    GivesEach item k (part :: parts) (a :: as)

namespace GivesEach

variable {item : Nat → CodeReader α} {stop : List Token} {parts : List (List Token)} {as : List α}
  {k : Nat}

/-- Items that are read alike at every place. -/
theorem of_forall {p : CodeReader α} {tokens : α → List Token} {as : List α} {k : Nat}
    (h : ∀ a ∈ as, Gives p (tokens a) a) : GivesEach (fun _ => p) k (as.map tokens) as := by
  induction as generalizing k with
  | nil => exact .nil
  | cons a as ih =>
    obtain ⟨ha, has⟩ := List.forall_mem_cons.1 h
    exact .cons ha (ih has)

theorem manyUpTo (h : GivesEach item k parts as) (hstop : ∀ part ∈ parts, Token.Diverge stop part)
    {n : Nat} (hn : parts.length ≤ n) :
    Gives (manyUpTo stop item k n) (parts.flatten ++ stop) as := by
  induction h generalizing n with
  | nil =>
    cases n with
    | zero => exact (Gives.fixed stop).map
    | succ n => exact .orElse_left (Gives.fixed stop).map _
  | @cons k part parts a as ha _ ih =>
    obtain ⟨hpart, hparts⟩ := List.forall_mem_cons.1 hstop
    obtain ⟨n, rfl⟩ := Nat.exists_eq_add_one_of_ne_zero (Nat.ne_zero_of_lt hn)
    have hrest := ih hparts (Nat.le_of_succ_le_succ hn)
    rw [List.flatten_cons, List.append_assoc]
    exact .orElse_right (Refuses.bind (.fixed (hpart.append_right _)) _) (ha.bind hrest.map)

/-- Items with a comma before each. -/
theorem comma (h : GivesEach item (k + 1) parts as) :
    GivesEach (fun k => do
      fixed [.mark ',' false]
      item (k + 1)) k (parts.map (.mark ',' false :: ·)) as := by
  generalize hnext : k + 1 = next at h
  induction h generalizing k with
  | nil => exact .nil
  | cons ha _ ih =>
    subst hnext
    exact .cons ((Gives.fixed _).cons ha) (ih rfl)

end GivesEach

namespace Gives

variable {item : Nat → CodeReader α} {front stop : List Token} {parts : List (List Token)}
  {as : List α}

theorem many (h : GivesEach item 0 parts as) (hstop : ∀ part ∈ parts, Token.Diverge stop part) :
    Gives (many stop item) (parts.flatten ++ stop) as := by
  intro rest
  refine h.manyUpTo hstop ?_ rest
  -- There is a token for each item, since none of them is what they end with.
  have hlength := List.length_le_sum_of_one_le (parts.map List.length) (by
    rw [List.forall_mem_map]
    exact fun part hpart => List.length_pos_iff.2 (hstop part hpart).ne_nil)
  rw [List.length_map, ← List.length_flatten] at hlength
  simp only [List.length_append]
  omega

/-- Items before another step. -/
theorem many_bind {f : List α → CodeReader β} {us : List Token} {b : β}
    (h : GivesEach item 0 parts as) (hstop : ∀ part ∈ parts, Token.Diverge stop part)
    (hf : Gives (f as) us b) :
    Gives (CodeReader.many stop item >>= f) (parts.flatten ++ (stop ++ us)) b := by
  rw [← List.append_assoc]
  exact (many h hstop).bind hf

theorem block {b : Bracket} {item : CodeReader α} {tokens : α → List Token}
    (h : ∀ a ∈ as, Gives item (tokens a) a)
    (hstop : ∀ a ∈ as, Token.Diverge [.closing b] (tokens a)) :
    Gives (block b item) (bracketed b (as.flatMap tokens)) as := by
  rw [List.flatMap_def]
  exact (fixed [.opening b]).cons (many (.of_forall h) (List.forall_mem_map.2 hstop))

theorem listed {b : Bracket} (h : GivesEach item 0 parts as)
    (hstop : ∀ part ∈ parts, Token.Diverge [.closing b] part) :
    Gives (listed b front item) (bracketed b (front ++ commaSeparated parts)) as := by
  have htokens : bracketed b (front ++ commaSeparated parts) =
      (.opening b :: front) ++ (commaSeparated parts ++ [.closing b]) := by
    rw [bracketed, List.append_assoc, List.cons_append]
  rw [htokens]
  refine (fixed _).bind ?_
  cases h with
  | nil => exact .orElse_left (fixed [.closing b]).map _
  | @cons _ part parts a as ha has =>
    obtain ⟨hpart, hparts⟩ := List.forall_mem_cons.1 hstop
    rw [commaSeparated_cons, List.append_assoc]
    refine .orElse_right (Refuses.bind (.fixed (hpart.append_right _)) _) (ha.bind ?_)
    refine (many has.comma (List.forall_mem_map.2 fun part _ => ?_)).map
    exact .inl nofun

end Gives

end CodeReader

/-! ## 4. Names, numbers and texts -/

namespace Text

def between? (before after t : Text) : Option Text := do
  let rest ← stripPrefix? before t
  let inner ← stripPrefix? after.reverse rest.reverse
  return inner.reverse

theorem between?_append (before inner after : Text) :
    between? before after (before ++ (inner ++ after)) = some inner := by
  simp [between?, stripPrefix?_append]

def nat? (digits : Text) : Option Nat :=
  if digits ≠ [] ∧ digits.all Char.isDigit then some (Nat.ofDigitChars 10 digits 0) else none

theorem nat?_ofNat (n : Nat) : nat? (ofNat n) = some n := by
  have hdigits : (ofNat n).all Char.isDigit = true :=
    List.all_eq_true.2 fun c hc => Nat.isDigit_of_mem_toDigits (by decide) (by decide) hc
  rw [nat?, if_pos ⟨Nat.toDigits_ne_nil, hdigits⟩, ofNat,
    Nat.ofDigitChars_toDigits (by decide) (by decide)]

end Text

namespace Token

def word? : Token → Option Text
  | .word w => some w
  | _ => none

def local? (letter : Char) : Token → Option Nat
  | .word (c :: digits) => if c = letter then Text.nat? digits else none
  | _ => none

def number? (suffix : Text) : Token → Option Nat
  | .literal t => (Text.between? [] suffix t).bind Text.nat?
  | _ => none

theorem local?_ofNat (letter : Char) (n : Nat) :
    local? letter (.word (letter :: Text.ofNat n)) = some n := by
  rw [local?, if_pos rfl, Text.nat?_ofNat]

theorem number?_ofNat (n : Nat) (suffix : Text) :
    number? suffix (.literal (Text.ofNat n ++ suffix)) = some n := by
  rw [number?, ← List.nil_append (Text.ofNat n ++ suffix), Text.between?_append, Option.bind_some,
    Text.nat?_ofNat]

theorem textValue?_quoted (t : Text) : (quoted t).textValue? = some t := by
  have hchars : (t.map Char.toNat).map Char.ofNat = t := by
    rw [List.map_map]
    exact List.map_id'' Char.ofNat_toNat t
  have htext : Literal.text? (Quoted.literal t) = some (t, []) := by
    rw [Literal.text?, ← List.append_nil (Quoted.literal t), Literal.quoted?_literal,
      Option.map_some, hchars]
  rw [quoted, textValue?, htext]

end Token

/-- The identifier that is written like this, raw or not. -/
def Ident.ofToken? : Token → Option Ident
  | .word w =>
    match Text.stripPrefix? "r#" w with
    | some name => some ⟨name, true⟩
    | none => some ⟨w, false⟩
  | _ => none

theorem Ident.ofToken?_token {i : Ident} (h : isSymbolName i.name = true) :
    ofToken? i.token = some i := by
  obtain ⟨name, raw⟩ := i
  cases raw with
  | true => rw [token, text, if_pos rfl, ofToken?, Text.stripPrefix?_append]
  | false =>
    have hstrip : Text.stripPrefix? "r#" name = none := by
      rw [Option.eq_none_iff_forall_ne_some]
      intro rest hrest
      have hparts := (isSymbolName_iff_head?.1 h).2 '#'
      rw [Text.stripPrefix?_eq_some_iff.1 hrest] at hparts
      exact absurd (hparts (by simp)) (by decide)
    rw [token, text, if_neg Bool.false_ne_true, ofToken?, hstrip]

namespace CodeReader

/-- What a comment has in backquotes between two fixed texts. -/
def doc (before after : Text) : CodeReader Text := do
  fixed [.mark '#' false]
  within .square do
    fixed (code "doc =")
    token fun t => t.textValue?.bind (Text.between? (before ++ ['\x60']) ('\x60' :: after))

def word : CodeReader Text := token Token.word?

def ident : CodeReader Ident := token Ident.ofToken?

def quoted : CodeReader Text := token Token.textValue?

def number (suffix : Text) : CodeReader Nat := token (Token.number? suffix)

namespace Gives

theorem doc (before inner after : Text) :
    Gives (doc before after) (docTokens (before ++ backquoted inner ++ after)) inner := by
  refine (fixed _).cons (.within .square ((fixed _).bind (.token ?_)))
  have hinner : before ++ backquoted inner ++ after =
      (before ++ ['\x60']) ++ (inner ++ ('\x60' :: after)) := by
    simp [backquoted]
  rw [Token.textValue?_quoted, Option.bind_some, hinner, Text.between?_append]

theorem word (w : Text) : Gives word [.word w] w := .token rfl

theorem ident {i : Ident} (h : isSymbolName i.name = true) : Gives ident [i.token] i :=
  .token (Ident.ofToken?_token h)

theorem quoted (t : Text) : Gives quoted [.quoted t] t := .token (Token.textValue?_quoted t)

theorem number (n : Nat) (suffix : Text) :
    Gives (number suffix) [.literal (Text.ofNat n ++ suffix)] n :=
  .token (Token.number?_ofNat n suffix)

end Gives

end CodeReader
end ForeignCall
