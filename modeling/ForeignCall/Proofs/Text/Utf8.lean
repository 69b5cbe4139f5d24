import ForeignCall.Text.Utf8

/-!
# Reading what was written

The bytes of a character have one of four forms. Each is recognized whatever follows it, so reading
the bytes of a text gives the text.

* `Utf8.form_encodeChar`: the bytes of a character have a form with the number of the character.
* `Utf8.Form.front`: what has a form is a front.
* `Utf8.decode_encode_append` and `Utf8.decode_encode`: a text is read back, and reading goes on
  behind it.
-/

namespace ForeignCall
namespace Utf8

/-! ## 1. Bytes -/

theorem toNat_byte {n : Nat} (h : n < 256) : (UInt8.ofNat n).toNat = n := by
  rw [UInt8.toNat_ofNat']
  exact Nat.mod_eq_of_lt h

theorem isTail_iff {b : UInt8} : isTail b = true ↔ 0x80 ≤ b.toNat ∧ b.toNat ≤ 0xBF := by
  simp [isTail, UInt8.le_iff_toNat_le]

theorem isTail_byte (n : Nat) : isTail (UInt8.ofNat (n % 64 + 128)) = true := by
  rw [isTail_iff, toNat_byte (by omega)]
  omega

/-- A tail byte may come second, unless the form would be too long, or the character a surrogate or
too large. -/
theorem secondFits_of_isTail {a b : UInt8} (hb : isTail b = true)
    (long₃ : a.toNat = 0xE0 → 0xA0 ≤ b.toNat) (surrogate : a.toNat = 0xED → b.toNat ≤ 0x9F)
    (long₄ : a.toNat = 0xF0 → 0x90 ≤ b.toNat) (large : a.toNat = 0xF4 → b.toNat ≤ 0x8F) :
    secondFits a b = true := by
  obtain ⟨hlow, hhigh⟩ := isTail_iff.1 hb
  simp only [secondFits, beq_iff_eq, ← UInt8.toNat_inj, UInt8.le_iff_toNat_le, UInt8.reduceToNat]
  by_cases hE0 : a.toNat = 0xE0
  · simp [hE0, long₃ hE0, hhigh]
  by_cases hED : a.toNat = 0xED
  · simp [hED, hlow, surrogate hED]
  by_cases hF0 : a.toNat = 0xF0
  · simp [hF0, long₄ hF0, hhigh]
  by_cases hF4 : a.toNat = 0xF4
  · simp [hF4, hlow, large hF4]
  · simpa [hE0, hED, hF0, hF4] using hb

/-! ## 2. Forms -/

/-- The bytes are those of the character with this number: one byte, or a first byte from which
their number can be told and bytes with six bits each. -/
inductive Form (n : Nat) : Bytes → Prop
  | one {a : UInt8} : a.toNat < 0x80 → n = a.toNat → Form n [a]
  | two {a b : UInt8} : 0xC2 ≤ a.toNat → a.toNat ≤ 0xDF → isTail b = true →
      n = a.toNat % 32 * 64 + b.toNat % 64 → Form n [a, b]
  | three {a b c : UInt8} : 0xE0 ≤ a.toNat → a.toNat ≤ 0xEF → secondFits a b = true →
      isTail c = true → n = (a.toNat % 16 * 64 + b.toNat % 64) * 64 + c.toNat % 64 →
      Form n [a, b, c]
  | four {a b c d : UInt8} : 0xF0 ≤ a.toNat → a.toNat ≤ 0xF4 → secondFits a b = true →
      isTail c = true → isTail d = true →
      n = ((a.toNat % 8 * 64 + b.toNat % 64) * 64 + c.toNat % 64) * 64 + d.toNat % 64 →
      Form n [a, b, c, d]

/-- What has a form is a front, whatever follows. -/
theorem Form.front {n : Nat} {bytes : Bytes} (h : Form n bytes) (rest : Bytes) :
    ∃ lead tails, bytes = lead :: tails ∧
      front lead (tails ++ rest) = .char (Char.ofNat n) rest := by
  -- The range of the first byte decides the branch; the tails then fit.
  cases h with
  | @one a ha hn =>
    refine ⟨a, [], rfl, ?_⟩
    unfold Utf8.front
    simp [UInt8.lt_iff_toNat_lt, ha, hn]
  | @two a b hlow hhigh hb hn =>
    refine ⟨a, [b], rfl, ?_⟩
    have h1 : ¬ a.toNat < 0x80 := by omega
    unfold Utf8.front
    simp [UInt8.lt_iff_toNat_lt, UInt8.le_iff_toNat_le, h1, hlow, hhigh, hb, hn, assemble]
  | @three a b c hlow hhigh hb hc hn =>
    refine ⟨a, [b, c], rfl, ?_⟩
    have h1 : ¬ a.toNat < 0x80 := by omega
    have h2 : ¬ a.toNat ≤ 0xDF := by omega
    unfold Utf8.front
    simp [UInt8.lt_iff_toNat_lt, UInt8.le_iff_toNat_le, h1, h2, hlow, hhigh, hb, hc, hn, assemble]
  | @four a b c d hlow hhigh hb hc hd hn =>
    refine ⟨a, [b, c, d], rfl, ?_⟩
    have h1 : ¬ a.toNat < 0x80 := by omega
    have h2 : ¬ a.toNat ≤ 0xDF := by omega
    have h3 : ¬ a.toNat ≤ 0xEF := by omega
    unfold Utf8.front
    simp [UInt8.lt_iff_toNat_lt, UInt8.le_iff_toNat_le, h1, h2, h3, hlow, hhigh, hb, hc, hd, hn,
      assemble]

section Written

variable {n : Nat}

theorem form_two (hlow : 0x80 ≤ n) (hhigh : n < 0x800) :
    Form n [UInt8.ofNat (n / 64 % 32 + 192), UInt8.ofNat (n % 64 + 128)] := by
  have ha := toNat_byte (show n / 64 % 32 + 192 < 256 by omega)
  have hb := toNat_byte (show n % 64 + 128 < 256 by omega)
  exact .two (by omega) (by omega) (isTail_byte n) (by omega)

theorem form_three (hlow : 0x800 ≤ n) (hhigh : n < 0x10000) (hvalid : n < 0xD800 ∨ 0xDFFF < n) :
    Form n [UInt8.ofNat (n / 4096 % 16 + 224), UInt8.ofNat (n / 64 % 64 + 128),
      UInt8.ofNat (n % 64 + 128)] := by
  have ha := toNat_byte (show n / 4096 % 16 + 224 < 256 by omega)
  have hb := toNat_byte (show n / 64 % 64 + 128 < 256 by omega)
  have hc := toNat_byte (show n % 64 + 128 < 256 by omega)
  have hsecond : secondFits (UInt8.ofNat (n / 4096 % 16 + 224))
      (UInt8.ofNat (n / 64 % 64 + 128)) = true :=
    secondFits_of_isTail (isTail_byte (n / 64)) (by omega) (by omega) (by omega) (by omega)
  exact .three (by omega) (by omega) hsecond (isTail_byte n) (by omega)

theorem form_four (hlow : 0x10000 ≤ n) (hhigh : n < 0x110000) :
    Form n [UInt8.ofNat (n / 262144 % 8 + 240), UInt8.ofNat (n / 4096 % 64 + 128),
      UInt8.ofNat (n / 64 % 64 + 128), UInt8.ofNat (n % 64 + 128)] := by
  have ha := toNat_byte (show n / 262144 % 8 + 240 < 256 by omega)
  have hb := toNat_byte (show n / 4096 % 64 + 128 < 256 by omega)
  have hc := toNat_byte (show n / 64 % 64 + 128 < 256 by omega)
  have hd := toNat_byte (show n % 64 + 128 < 256 by omega)
  have hsecond : secondFits (UInt8.ofNat (n / 262144 % 8 + 240))
      (UInt8.ofNat (n / 4096 % 64 + 128)) = true :=
    secondFits_of_isTail (isTail_byte (n / 4096)) (by omega) (by omega) (by omega) (by omega)
  exact .four (by omega) (by omega) hsecond (isTail_byte (n / 64)) (isTail_byte n) (by omega)

end Written

/-- The bytes of a character have the form of its number. -/
theorem form_encodeChar (c : Char) : Form c.toNat (String.utf8EncodeChar c) := by
  have hvalid : c.toNat < 0xD800 ∨ 0xDFFF < c.toNat ∧ c.toNat < 0x110000 := c.valid
  have hval : c.val.toNat = c.toNat := rfl
  unfold String.utf8EncodeChar
  simp only [hval]
  split
  · next h => exact .one (by rw [toNat_byte (by omega)]; omega) (by rw [toNat_byte (by omega)])
  split
  · next h => exact form_two (by omega) (by omega)
  split
  · next h => exact form_three (by omega) (by omega) (by omega)
  · next h => exact form_four (by omega) (by omega)

/-! ## 3. Texts -/

theorem decode_cons_of_char {lead : UInt8} {rest r : Bytes} {c : Char}
    (h : front lead rest = .char c r) : decode (lead :: rest) = c :: decode r := by
  rw [decode]
  split <;> simp_all

theorem decode_encodeChar_append (c : Char) (rest : Bytes) :
    decode (String.utf8EncodeChar c ++ rest) = c :: decode rest := by
  obtain ⟨lead, tails, hbytes, hfront⟩ := (form_encodeChar c).front rest
  rw [Char.ofNat_toNat] at hfront
  rw [hbytes, List.cons_append, decode_cons_of_char hfront]

/-- A text is read back, and reading goes on behind it. -/
theorem decode_encode_append (t : Text) (rest : Bytes) :
    decode (encode t ++ rest) = t ++ decode rest := by
  induction t with
  | nil => rfl
  | cons c t ih =>
    have hcons : encode (c :: t) = String.utf8EncodeChar c ++ encode t := List.flatMap_cons
    rw [hcons, List.append_assoc, decode_encodeChar_append, ih, List.cons_append]

theorem decode_encode (t : Text) : decode (encode t) = t := by
  have h := decode_encode_append t []
  rwa [List.append_nil, decode, List.append_nil] at h

end Utf8
end ForeignCall
