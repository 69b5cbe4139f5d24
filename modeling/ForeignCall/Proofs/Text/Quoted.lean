import ForeignCall.Source.Lexer

/-!
# Reading quoted texts

What is written between quotes for a reader is a literal of source code, and the literal means the
text: every escape is read back as its character.

* `Literal.body?_escape`: one character, escaped or not, is read back.
* `Literal.text?_encode_append`: a quoted text is read back, and reading stops behind it.
-/

namespace ForeignCall
namespace Literal

/-! ## 1. Numbers of characters -/

theorem hexDigit?_digitChar {d : Nat} (h : d < 16) : Text.hexDigit? d.digitChar = some d := by
  have hall : ∀ d < 16, Text.hexDigit? (Nat.digitChar d) = some d := by decide
  exact hall d h

theorem scalarDigits_cons_of_digit {value digits d : Nat} {c : Char}
    (hc : Text.hexDigit? c = some d) (h : digits < 6) (rest : Text) :
    scalarDigits value digits (c :: rest) = scalarDigits (value * 16 + d) (digits + 1) rest := by
  rw [scalarDigits, hc]
  exact if_neg (Nat.ne_of_lt h)

/-- Reading the digits of a number gives the number. -/
theorem scalarDigits_toDigits {n : Nat} (h : (Nat.toDigits 16 n).length ≤ 6) (rest : Text) :
    scalarDigits 0 0 (Nat.toDigits 16 n ++ rest) =
      scalarDigits n (Nat.toDigits 16 n).length rest := by
  induction n using Nat.strongRecOn generalizing rest with
  | ind n ih =>
    rw [Nat.toDigits_eq_if (by decide)] at h ⊢
    split
    · next hn =>
      rw [List.singleton_append, scalarDigits_cons_of_digit (hexDigit?_digitChar hn) (by decide),
        Nat.zero_mul, Nat.zero_add]
      rfl
    · next hn =>
      rw [if_neg hn, List.length_append, List.length_singleton] at h
      have hdigit := hexDigit?_digitChar (Nat.mod_lt n (show 0 < 16 by decide))
      rw [List.append_assoc, ih (n / 16) (by omega) (by omega), List.singleton_append,
        scalarDigits_cons_of_digit hdigit (by omega), Nat.div_add_mod', List.length_append,
        List.length_singleton]

theorem isScalar_toNat (c : Char) : Text.isScalar c.toNat = true := by
  have hvalid : c.toNat < 0xD800 ∨ 0xDFFF < c.toNat ∧ c.toNat < 0x110000 := c.valid
  simp only [Text.isScalar, Bool.or_eq_true, Bool.and_eq_true, decide_eq_true_eq]
  omega

theorem scalarDigits_hex_toNat (c : Char) (rest : Text) :
    scalarDigits 0 0 (Text.hex c.toNat ++ '\x7d' :: rest) = some (c.toNat, rest) := by
  have hvalid : c.toNat < 0xD800 ∨ 0xDFFF < c.toNat ∧ c.toNat < 0x110000 := c.valid
  have hlength : (Nat.toDigits 16 c.toNat).length ≤ 6 :=
    (Nat.length_toDigits_le_iff (by decide) (by decide)).2 (by omega)
  have hne : (Nat.toDigits 16 c.toNat).length ≠ 0 := by
    rw [Nat.toDigits_eq_if (by decide)]
    split <;> simp
  have hbrace : Text.hexDigit? '\x7d' = none := by decide
  rw [Text.hex, scalarDigits_toDigits hlength, scalarDigits, hbrace]
  simp [hne, isScalar_toNat]

/-! ## 2. Characters -/

/-- A character that is not escaped stands for itself. -/
theorem body?_cons_plain {c : Char} (hquote : c ≠ '"') (hslash : c ≠ '\\') (hreturn : c ≠ '\r')
    (n : Nat) (rest : Text) :
    body? .text (n + 1) (c :: rest) =
      (body? .text n rest).map fun r => (c.toNat :: r.1, r.2) := by
  rw [body?]
  · rfl
  all_goals simp_all

/-- An escape that is no line end stands for its character. -/
theorem body?_cons_escape {c : Char} {rest after : Text} {value : Nat}
    (hline : c ≠ '\n') (hreturn : c ≠ '\r') (h : escape? .text (c :: rest) = some (value, after))
    (n : Nat) :
    body? .text (n + 1) ('\\' :: c :: rest) =
      (body? .text n after).map fun r => (value :: r.1, r.2) := by
  rw [body?]
  · rw [h, Option.bind_some]
  · rintro _ ⟨⟩
    exact hline rfl
  · rintro _ ⟨⟩
    exact hreturn rfl

theorem escape?_scalar (c : Char) (rest : Text) :
    escape? .text ('u' :: '\x7b' :: (Text.hex c.toNat ++ '\x7d' :: rest)) =
      some (c.toNat, rest) := by
  simp [escape?, scalarDigits_hex_toNat]

/-- A character, escaped or not, is read back. -/
theorem body?_escape (c : Char) (n : Nat) (rest : Text) :
    body? .text (n + 1) (Quoted.escape c ++ rest) =
      (body? .text n rest).map fun r => (c.toNat :: r.1, r.2) := by
  unfold Quoted.escape
  split
  · exact body?_cons_escape (by decide) (by decide) rfl n
  · exact body?_cons_escape (by decide) (by decide) rfl n
  · exact body?_cons_escape (by decide) (by decide) rfl n
  · exact body?_cons_escape (by decide) (by decide) rfl n
  · exact body?_cons_escape (by decide) (by decide) rfl n
  · exact body?_cons_escape (by decide) (by decide) rfl n
  · next hzero htab hreturn hline hslash hquote =>
    split
    · have hshape : "\\u".toList ++ '\x7b' :: (Text.hex c.toNat ++ ['\x7d']) ++ rest =
          '\\' :: 'u' :: '\x7b' :: (Text.hex c.toNat ++ '\x7d' :: rest) := by simp
      rw [hshape, body?_cons_escape (by decide) (by decide) (escape?_scalar c rest)]
    · exact body?_cons_plain hquote hslash hreturn n rest

/-! ## 3. Texts -/

theorem length_le_flatMap_escape (t : Text) : t.length ≤ (t.flatMap Quoted.escape).length := by
  have hpos : ∀ c, 1 ≤ (Quoted.escape c).length := by
    intro c
    unfold Quoted.escape
    split <;> try split
    all_goals simp
  induction t with
  | nil => exact Nat.le_refl 0
  | cons c t ih =>
    rw [List.flatMap_cons, List.length_append, List.length_cons, Nat.add_comm]
    exact Nat.add_le_add (hpos c) ih

/-- The contents of a quoted text are read back up to the closing quote. -/
theorem body?_flatMap_escape {t : Text} {n : Nat} (h : t.length < n) (rest : Text) :
    body? .text n (t.flatMap Quoted.escape ++ '"' :: rest) = some (t.map Char.toNat, rest) := by
  induction t generalizing n with
  | nil =>
    obtain ⟨n, rfl⟩ := Nat.exists_eq_add_one_of_ne_zero (Nat.ne_of_gt h)
    rfl
  | cons c t ih =>
    obtain ⟨n, rfl⟩ := Nat.exists_eq_add_one_of_ne_zero (Nat.ne_zero_of_lt h)
    rw [List.flatMap_cons, List.append_assoc, body?_escape, ih (Nat.lt_of_succ_lt_succ h)]
    rfl

/-- A quoted text is a literal that stands for the text, whatever follows it. -/
theorem quoted?_encode_append (t rest : Text) :
    quoted? .text "" "r" (Quoted.encode t ++ rest) = some (t.map Char.toNat, rest) := by
  have hstart : Text.stripPrefix? ("".toList ++ "\"") (Quoted.encode t ++ rest) =
      some (t.flatMap Quoted.escape ++ '"' :: rest) := by
    rw [Quoted.encode, List.cons_append, List.append_assoc]
    rfl
  have hlength : t.length < (t.flatMap Quoted.escape ++ '"' :: rest).length + 1 := by
    rw [List.length_append]
    have := length_le_flatMap_escape t
    omega
  rw [quoted?, hstart]
  exact body?_flatMap_escape hlength rest

theorem text?_encode_append (t rest : Text) :
    text? (Quoted.encode t ++ rest) = some (t, rest) := by
  have hchars : (t.map Char.toNat).map Char.ofNat = t := by
    rw [List.map_map]
    exact List.map_id'' Char.ofNat_toNat t
  rw [text?, quoted?_encode_append, Option.map_some, hchars]

end Literal
end ForeignCall
