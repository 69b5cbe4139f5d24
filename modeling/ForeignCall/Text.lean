/-!
# Text

A text is the list of its characters, so that cutting, joining and comparing are functions on lists.
Texts are ordered character by character, which is also the order of their UTF-8 bytes.

* `Text.splitOnce` and `Text.splitAll` cut at a separator; `join_splitAll` says nothing is lost.
* `Text.stripPrefix?` takes a fixed beginning away.
-/

namespace ForeignCall

/-- A text: its characters in order. -/
abbrev Text := List Char

/-- A string literal may stand where a text is wanted. -/
instance : Coe String Text := ⟨String.toList⟩

/-- Texts are compared character by character. -/
instance : LawfulBEq Text := inferInstance

/-- The order of a dictionary, items being compared by their keys. -/
def lexLe {α : Type} (key : α → Nat) : List α → List α → Bool
  | [], _ => true
  | _ :: _, [] => false
  | a :: s, b :: t => key a < key b || (key a == key b && lexLe key s t)

namespace Text

def ofNat (n : Nat) : Text := Nat.toDigits 10 n

/-- A number in decimal, with a minus sign if it is negative. -/
def ofInt : Int → Text
  | .ofNat n => ofNat n
  | .negSucc n => '-' :: ofNat (n + 1)

/-- A number in lower-case hexadecimal, without a mark. -/
def hex (n : Nat) : Text := Nat.toDigits 16 n

/-- The value of a hexadecimal digit. -/
def hexDigit? (c : Char) : Option Nat :=
  if '0' ≤ c ∧ c ≤ '9' then some (c.toNat - '0'.toNat)
  else if 'a' ≤ c ∧ c ≤ 'f' then some (c.toNat - 'a'.toNat + 10)
  else if 'A' ≤ c ∧ c ≤ 'F' then some (c.toNat - 'A'.toNat + 10)
  else none

/-- The number is that of a character. -/
def isScalar (n : Nat) : Bool := n < 0xD800 || (0xE000 ≤ n && n < 0x110000)

/-- The parts before and after the first `sep`, if there is one. -/
def splitOnce (sep : Char) : Text → Option (Text × Text)
  | [] => none
  | c :: rest =>
    if c = sep then some ([], rest)
    else (splitOnce sep rest).map fun parts => (c :: parts.1, parts.2)

/-- Puts a character in front of the first piece. -/
def consHead (c : Char) : List Text → List Text
  | [] => [[c]]
  | piece :: rest => (c :: piece) :: rest

/-- The pieces between the separators; there is always at least one. -/
def splitAll (sep : Char) : Text → List Text
  | [] => [[]]
  | c :: rest => if c = sep then [] :: splitAll sep rest else consHead c (splitAll sep rest)

/-- What follows `start`, if the text begins with it. -/
def stripPrefix? : Text → Text → Option Text
  | [], t => some t
  | _ :: _, [] => none
  | a :: start, c :: rest => if a = c then stripPrefix? start rest else none

/-- The pieces with `sep` between neighbours. -/
def join (sep : Text) : List Text → Text
  | [] => []
  | [piece] => piece
  | piece :: next :: rest => piece ++ sep ++ join sep (next :: rest)

/-- Puts `sep` between a piece and the pieces that follow it. -/
theorem join_cons_cons (sep piece next : Text) (rest : List Text) :
    join sep (piece :: next :: rest) = piece ++ sep ++ join sep (next :: rest) := rfl

theorem join_consHead (sep : Text) (c : Char) :
    ∀ pieces : List Text, join sep (consHead c pieces) = c :: join sep pieces
  | [] => rfl
  | [_] => rfl
  | _ :: _ :: _ => rfl

theorem splitAll_ne_nil (sep : Char) : ∀ t : Text, splitAll sep t ≠ []
  | [] => by simp [splitAll]
  | c :: rest => by
    unfold splitAll
    split
    · simp
    · cases h : splitAll sep rest <;> simp [consHead]

/-- Cutting loses nothing but the separators. -/
theorem join_splitAll (sep : Char) (t : Text) : join [sep] (splitAll sep t) = t := by
  induction t with
  | nil => rfl
  | cons c rest ih =>
    unfold splitAll
    split
    · rename_i h
      cases hp : splitAll sep rest with
      | nil => exact absurd hp (splitAll_ne_nil sep rest)
      | cons piece more => rw [join_cons_cons, ← hp, ih, h]; rfl
    · rw [join_consHead, ih]

/-- A successful cut puts the separator back between the parts, and the first part has none. -/
theorem splitOnce_eq_some {sep : Char} {t before after : Text}
    (h : splitOnce sep t = some (before, after)) : t = before ++ sep :: after ∧ sep ∉ before := by
  induction t generalizing before with
  | nil => simp [splitOnce] at h
  | cons c rest ih =>
    unfold splitOnce at h
    split at h
    · rename_i hc
      simp only [Option.some.injEq, Prod.mk.injEq] at h
      obtain ⟨rfl, rfl⟩ := h
      simp [hc]
    · rename_i hc
      obtain ⟨parts, hp, he⟩ := Option.map_eq_some_iff.1 h
      simp only [Prod.mk.injEq] at he
      obtain ⟨rfl, rfl⟩ := he
      obtain ⟨ht, hn⟩ := ih hp
      refine ⟨by rw [ht]; rfl, ?_⟩
      simpa [hn] using fun h => hc h.symm

/-- `a` comes before `b` or is equal to it: at the first difference it has the smaller character, or
it is the beginning of `b`. -/
def le (a b : Text) : Bool := lexLe Char.toNat a b

/-- A letter of the ASCII alphabet in lower case; any other character as it is. -/
def lower (t : Text) : Text := t.map Char.toLower

/-- A letter of the ASCII alphabet in upper case; any other character as it is. -/
def upper (t : Text) : Text := t.map Char.toUpper

/-- The text filled up with spaces on the left to at least `width` characters. -/
def padLeft (width : Nat) (t : Text) : Text := List.replicate (width - t.length) ' ' ++ t

/-- The text filled up with spaces on the right to at least `width` characters. -/
def padRight (width : Nat) (t : Text) : Text := t ++ List.replicate (width - t.length) ' '

end Text
end ForeignCall
