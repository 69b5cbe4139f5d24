import ForeignCall.Proofs.Text.Order
import ForeignCall.Proofs.Text.Utf8
import Mathlib.Tactic.SplitIfs

/-!
# The order of bytes

Texts are in the order of their characters exactly if their bytes are in the order of a dictionary:
a longer form begins with a greater byte, and forms of one length have the digits of their numbers
as bytes.

* `Utf8.Form.append_lt`: a smaller character has smaller bytes, whatever follows the two.
* `Text.before_iff_encode_lt` and `Text.le_iff_encode_le`: the order of texts is that of their
  bytes.
-/

namespace ForeignCall
namespace Utf8

/-! ## 1. Characters -/

theorem cons_lt_cons_iff {a b : UInt8} {s t : Bytes} :
    a :: s < b :: t ↔ a.toNat < b.toNat ∨ (a.toNat = b.toNat ∧ s < t) := by
  rw [List.cons_lt_cons_iff, UInt8.lt_iff_toNat_lt, UInt8.toNat_inj]

/-- A second byte is a tail byte, large enough for the form not to be too long, and small enough for
the number to be that of a character. -/
theorem tail_of_secondFits {a b : UInt8} (h : secondFits a b = true) :
    0x80 ≤ b.toNat ∧ b.toNat ≤ 0xBF ∧ (a.toNat = 0xE0 → 0xA0 ≤ b.toNat) ∧
      (a.toNat = 0xF0 → 0x90 ≤ b.toNat) ∧ (a.toNat = 0xED → b.toNat ≤ 0x9F) ∧
      (a.toNat = 0xF4 → b.toNat ≤ 0x8F) := by
  simp only [secondFits, isTail, beq_iff_eq, ← UInt8.toNat_inj, UInt8.le_iff_toNat_le,
    UInt8.reduceToNat] at h
  split_ifs at h <;> simp at h <;> omega

section Forms

variable {m n : Nat} {bytes bytes' : Bytes}

/-- The first byte of a form and its number are in a range that the length decides. -/
theorem Form.range (h : Form n bytes) :
    ∃ a tails, bytes = a :: tails ∧
      ((tails.length = 0 ∧ a.toNat < 0x80 ∧ n < 0x80) ∨
        (tails.length = 1 ∧ 0xC2 ≤ a.toNat ∧ a.toNat ≤ 0xDF ∧ 0x80 ≤ n ∧ n < 0x800) ∨
        (tails.length = 2 ∧ 0xE0 ≤ a.toNat ∧ a.toNat ≤ 0xEF ∧ 0x800 ≤ n ∧ n < 0x10000) ∨
        (tails.length = 3 ∧ 0xF0 ≤ a.toNat ∧ 0x10000 ≤ n)) := by
  cases h with
  | @one a ha hn => exact ⟨a, [], rfl, .inl ⟨rfl, ha, by omega⟩⟩
  | @two a b hlow hhigh hb hn =>
    have := isTail_iff.1 hb
    exact ⟨a, [b], rfl, .inr (.inl ⟨rfl, hlow, hhigh, by omega, by omega⟩)⟩
  | @three a b c hlow hhigh hb hc hn =>
    have := tail_of_secondFits hb
    have := isTail_iff.1 hc
    exact ⟨a, [b, c], rfl, .inr (.inr (.inl ⟨rfl, hlow, hhigh, by omega, by omega⟩))⟩
  | @four a b c d hlow hhigh hb hc hd hn =>
    have := tail_of_secondFits hb
    have := isTail_iff.1 hc
    exact ⟨a, [b, c, d], rfl, .inr (.inr (.inr ⟨rfl, hlow, by omega⟩))⟩

theorem Form.length_le (hlt : m < n) (h : Form m bytes) (h' : Form n bytes') :
    bytes.length ≤ bytes'.length := by
  obtain ⟨a, tails, rfl, hrange⟩ := h.range
  obtain ⟨a', tails', rfl, hrange'⟩ := h'.range
  simp only [List.length_cons]
  omega

theorem Form.append_lt_of_length_lt (h : Form m bytes) (h' : Form n bytes')
    (hlength : bytes.length < bytes'.length) (s t : Bytes) : bytes ++ s < bytes' ++ t := by
  obtain ⟨a, tails, rfl, hrange⟩ := h.range
  obtain ⟨a', tails', rfl, hrange'⟩ := h'.range
  simp only [List.length_cons] at hlength
  rw [List.cons_append, List.cons_append, cons_lt_cons_iff]
  left
  omega

/-- A character with a smaller number has smaller bytes. -/
theorem Form.append_lt (hlt : m < n) (h : Form m bytes) (h' : Form n bytes') (s t : Bytes) :
    bytes ++ s < bytes' ++ t := by
  rcases Nat.lt_or_eq_of_le (Form.length_le hlt h h') with hlength | hlength
  · exact h.append_lt_of_length_lt h' hlength s t
  -- Of one length, the bytes are the digits of the numbers, the first difference deciding.
  cases h with
  | @one a ha hm =>
    cases h' with
    | one _ hn =>
      simp only [List.cons_append, cons_lt_cons_iff]
      omega
    | _ => cases hlength
  | @two a b hlow hhigh hb hm =>
    cases h' with
    | two _ _ hb' hn =>
      have := isTail_iff.1 hb
      have := isTail_iff.1 hb'
      simp only [List.cons_append, cons_lt_cons_iff]
      omega
    | _ => cases hlength
  | @three a b c hlow hhigh hb hc hm =>
    cases h' with
    | three _ _ hb' hc' hn =>
      have := tail_of_secondFits hb
      have := tail_of_secondFits hb'
      rw [isTail_iff] at hc hc'
      simp only [List.cons_append, cons_lt_cons_iff]
      omega
    | _ => cases hlength
  | @four a b c d hlow hhigh hb hc hd hm =>
    cases h' with
    | four _ _ hb' hc' hd' hn =>
      have := tail_of_secondFits hb
      have := tail_of_secondFits hb'
      rw [isTail_iff] at hc hd hc' hd'
      simp only [List.cons_append, cons_lt_cons_iff]
      omega
    | _ => cases hlength

end Forms

/-! ## 2. Texts -/

theorem encode_cons (c : Char) (t : Text) :
    encode (c :: t) = String.utf8EncodeChar c ++ encode t :=
  List.flatMap_cons

theorem encode_lt_of_lexLe {a b : Text} (hle : lexLe Char.toNat a b = true) (hne : a ≠ b) :
    encode a < encode b := by
  induction a generalizing b with
  | nil =>
    cases b with
    | nil => exact absurd rfl hne
    | cons c b =>
      obtain ⟨lead, tails, hbytes, _⟩ := (form_encodeChar c).range
      rw [encode_cons, hbytes]
      exact List.nil_lt_cons lead _
  | cons c a ih =>
    cases b with
    | nil => cases hle
    | cons c' b =>
      rw [encode_cons, encode_cons]
      rcases lexLe_cons_iff.1 hle with hlt | ⟨heq, htail⟩
      · exact (form_encodeChar c).append_lt hlt (form_encodeChar c') _ _
      · obtain rfl := Char.toNat_inj.1 heq
        have hne' : a ≠ b := fun h => hne (h ▸ rfl)
        exact List.append_left_lt (ih htail hne')

end Utf8

/-- The order of texts is that of their bytes. -/
theorem Text.before_iff_encode_lt {a b : Text} :
    Text.Before a b ↔ Utf8.encode a < Utf8.encode b := by
  constructor
  · rintro ⟨hle, hne⟩
    exact Utf8.encode_lt_of_lexLe hle hne
  · intro hlt
    have hne : a ≠ b := by
      rintro rfl
      exact List.lt_irrefl _ hlt
    have htotal : lexLe Char.toNat a b = true ∨ lexLe Char.toNat b a = true := lexLe_total a b
    rcases htotal with hle | hle
    · exact ⟨hle, hne⟩
    · exact absurd (Utf8.encode_lt_of_lexLe hle hne.symm) (List.lt_asymm hlt)

theorem Text.le_iff_encode_le {a b : Text} :
    Text.le a b = true ↔ Utf8.encode a ≤ Utf8.encode b := by
  rw [← List.not_lt, ← Text.before_iff_encode_lt]
  constructor
  · intro hle hbefore
    rw [hbefore.not_le] at hle
    cases hle
  · intro hbefore
    have htotal : Text.le a b = true ∨ Text.le b a = true := by simpa using Text.le_total a b
    rcases htotal with hle | hle
    · exact hle
    · by_cases he : b = a
      · rwa [he] at hle ⊢
      · exact absurd ⟨hle, he⟩ hbefore

end ForeignCall
