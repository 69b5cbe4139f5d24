import ForeignCall.Proofs.Text.ByteOrder

/-!
# Bytes that are no text

Bytes begin with the longest run of characters that can be read off them. What follows, if anything
does, begins with no character; reading puts U+FFFD there and goes on behind it.

* `Utf8.front_eq_char_iff`: a character is taken off the front exactly if its bytes stand there.
* `Utf8.valid?_eq_some_iff`: bytes are valid exactly if they are those of a text.
* `Utf8.exists_longest`: the longest valid beginning of any bytes, which reading keeps as it is.
* `Utf8.zero_mem_of_mem_decode`: reading makes no zero character.
-/

namespace ForeignCall
namespace Utf8

/-! ## 1. Fronts -/

section Fronts

variable {n : Nat} {bytes bytes' : Bytes} {lead : UInt8} {rest r : Bytes} {c : Char}

/-- What has a form has the number of a character. -/
theorem Form.isValidChar (h : Form n bytes) : n.isValidChar := by
  rw [Nat.isValidChar]
  cases h with
  | one ha hn => omega
  | two hlow hhigh hb hn => omega
  | three hlow hhigh hb hc hn =>
    have := tail_of_secondFits hb
    omega
  | four hlow hhigh hb hc hd hn =>
    have := tail_of_secondFits hb
    omega

/-- A number has one form. -/
theorem Form.unique (h : Form n bytes) (h' : Form n bytes') : bytes = bytes' := by
  have hlength : bytes.length = bytes'.length := by
    obtain ⟨a, tails, rfl, hrange⟩ := h.range
    obtain ⟨a', tails', rfl, hrange'⟩ := h'.range
    simp only [List.length_cons]
    omega
  cases h with
  | @one a ha hn =>
    cases h' with
    | one _ hn' =>
      simp only [List.cons.injEq, and_true, ← UInt8.toNat_inj]
      omega
    | _ => cases hlength
  | @two a b hlow hhigh hb hn =>
    cases h' with
    | two _ _ hb' hn' =>
      rw [isTail_iff] at hb hb'
      simp only [List.cons.injEq, and_true, ← UInt8.toNat_inj]
      omega
    | _ => cases hlength
  | @three a b c hlow hhigh hb hc hn =>
    cases h' with
    | three _ _ hb' hc' hn' =>
      have := tail_of_secondFits hb
      have := tail_of_secondFits hb'
      rw [isTail_iff] at hc hc'
      simp only [List.cons.injEq, and_true, ← UInt8.toNat_inj]
      omega
    | _ => cases hlength
  | @four a b c d hlow hhigh hb hc hd hn =>
    cases h' with
    | four _ _ hb' hc' hd' hn' =>
      have := tail_of_secondFits hb
      have := tail_of_secondFits hb'
      rw [isTail_iff] at hc hd hc' hd'
      simp only [List.cons.injEq, and_true, ← UInt8.toNat_inj]
      omega
    | _ => cases hlength

/-- The bytes of a character are all that has the form of its number. -/
theorem Form.eq_encodeChar (h : Form n bytes) : bytes = String.utf8EncodeChar (Char.ofNat n) := by
  have hnumber : (Char.ofNat n).toNat = n := by
    rw [Char.ofNat, dif_pos h.isValidChar]
    rfl
  have hform := form_encodeChar (Char.ofNat n)
  rw [hnumber] at hform
  exact h.unique hform

/-- A character that is taken off the front has the form of its number there. -/
theorem form_of_front (h : front lead rest = .char c r) :
    ∃ n tails, Form n (lead :: tails) ∧ c = Char.ofNat n ∧ rest = tails ++ r := by
  unfold front at h
  simp only [UInt8.lt_iff_toNat_lt, UInt8.le_iff_toNat_le, Bool.and_eq_true, decide_eq_true_eq,
    UInt8.reduceToNat] at h
  split at h
  · next hlow =>
    cases h
    exact ⟨_, [], .one hlow rfl, rfl, rfl⟩
  split at h
  · next hrange =>
    rcases rest with _ | ⟨b, rest⟩ <;> dsimp only at h
    · cases h
    · split at h
      · next hb =>
        cases h
        exact ⟨_, [b], .two hrange.1 hrange.2 hb rfl, rfl, rfl⟩
      · cases h
  split at h
  · next hrange =>
    rcases rest with _ | ⟨b, _ | ⟨c, rest⟩⟩ <;> dsimp only at h
    · cases h
    · split at h <;> cases h
    · split at h
      · cases h
      · next hb =>
        split at h
        · next hc =>
          cases h
          exact ⟨_, [b, c], .three hrange.1 hrange.2 (by simpa using hb) hc rfl, rfl, rfl⟩
        · cases h
  split at h
  · next hrange =>
    rcases rest with _ | ⟨b, _ | ⟨c, _ | ⟨d, rest⟩⟩⟩ <;> dsimp only at h
    · cases h
    · split at h <;> cases h
    · repeat' split at h
      all_goals cases h
    · split at h
      · cases h
      · next hb =>
        split at h
        · cases h
        · next hc =>
          split at h
          · next hd =>
            cases h
            exact ⟨_, [b, c, d], .four hrange.1 hrange.2 (by simpa using hb) (by simpa using hc) hd
              rfl, rfl, rfl⟩
          · cases h
  · cases h

/-- A character is taken off the front exactly if its bytes stand there. -/
theorem front_eq_char_iff :
    front lead rest = .char c r ↔ lead :: rest = String.utf8EncodeChar c ++ r := by
  constructor
  · intro h
    obtain ⟨n, tails, hform, rfl, rfl⟩ := form_of_front h
    rw [← hform.eq_encodeChar, List.cons_append]
  · intro h
    obtain ⟨lead', tails, hbytes, hfront⟩ := (form_encodeChar c).front r
    rw [Char.ofNat_toNat] at hfront
    rw [hbytes, List.cons_append, List.cons.injEq] at h
    rw [h.1, h.2, hfront]

/-- What is left behind a broken front stood there. -/
theorem suffix_of_front_eq_broken (h : front lead rest = .broken r) : r <:+ rest := by
  unfold front at h
  repeat' split at h
  all_goals
    cases h
    try simp only [List.suffix_rfl, List.nil_suffix, List.suffix_cons]
  exact (List.suffix_cons _ _).trans (List.suffix_cons _ _)

end Fronts

/-! ## 2. Valid bytes -/

section Valid

variable {bytes rest : Bytes} {lead : UInt8} {t u : Text}

/-- Bytes that are those of a text begin with its first character. -/
theorem cons_eq_encode_iff : lead :: rest = encode t ↔
    ∃ c more, t = c :: more ∧ front lead rest = .char c (encode more) := by
  constructor
  · intro h
    cases t with
    | nil => cases h
    | cons c more =>
      rw [encode_cons] at h
      exact ⟨c, more, rfl, front_eq_char_iff.2 h⟩
  · rintro ⟨c, more, rfl, hfront⟩
    rw [encode_cons, ← front_eq_char_iff.1 hfront]

/-- Bytes are valid exactly if they are those of a text. -/
theorem valid?_eq_some_iff : valid? bytes = some t ↔ bytes = encode t := by
  fun_induction valid? bytes generalizing t with
  | case1 =>
    rw [Option.some.injEq]
    constructor
    · rintro rfl
      rfl
    · intro h
      cases t with
      | nil => rfl
      | cons c more =>
        rw [encode_cons] at h
        exact absurd (List.append_eq_nil_iff.1 h.symm).1 String.utf8EncodeChar_ne_nil
  | case2 lead rest c r hfront ih =>
    simp only [Option.map_eq_some_iff, cons_eq_encode_iff, hfront, Front.char.injEq, ih]
    constructor
    · rintro ⟨more, rfl, rfl⟩
      exact ⟨c, more, rfl, rfl, rfl⟩
    · rintro ⟨_, more, rfl, rfl, rfl⟩
      exact ⟨more, rfl, rfl⟩
  | case3 lead rest r hfront =>
    simp only [cons_eq_encode_iff, hfront]
    simp

end Valid

/-! ## 3. The longest valid beginning -/

section Longest

variable {bytes rest : Bytes} {lead : UInt8} {t u : Text}

def Broken (bytes : Bytes) : Prop := ∀ c, ¬ String.utf8EncodeChar c <+: bytes

theorem broken_nil : Broken [] :=
  fun _ h => String.utf8EncodeChar_ne_nil (List.prefix_nil.1 h)

theorem broken_cons_iff : Broken (lead :: rest) ↔ ∃ r, front lead rest = .broken r := by
  constructor
  · intro h
    cases hfront : front lead rest with
    | char c r => exact absurd ⟨r, (front_eq_char_iff.1 hfront).symm⟩ (h c)
    | broken r => exact ⟨r, rfl⟩
  · rintro ⟨r, hfront⟩ c ⟨more, hmore⟩
    rw [front_eq_char_iff.2 hmore.symm] at hfront
    cases hfront

/-- Bytes are a text and what begins with no character. -/
theorem exists_longest (bytes : Bytes) : ∃ t rest, bytes = encode t ++ rest ∧ Broken rest := by
  fun_induction decode bytes with
  | case1 => exact ⟨[], [], rfl, broken_nil⟩
  | case2 lead rest c r hfront ih =>
    obtain ⟨t, broken, rfl, hbroken⟩ := ih
    refine ⟨c :: t, broken, ?_, hbroken⟩
    rw [front_eq_char_iff.1 hfront, encode_cons, List.append_assoc]
  | case3 lead rest r hfront ih =>
    exact ⟨[], lead :: rest, rfl, broken_cons_iff.2 ⟨r, hfront⟩⟩

/-- No longer text stands in front of what begins with no character. -/
theorem encode_prefix_iff (h : Broken rest) : encode u <+: encode t ++ rest ↔ u <+: t := by
  constructor
  · rintro ⟨after, hafter⟩
    induction u generalizing t with
    | nil => exact List.nil_prefix
    | cons c u ih =>
      rw [encode_cons, List.append_assoc] at hafter
      cases t with
      | nil => exact absurd ⟨_, hafter⟩ (h c)
      | cons d t =>
        rw [encode_cons, List.append_assoc] at hafter
        have hc : c = d := by
          have hread := congrArg decode hafter
          rw [decode_encodeChar_append, decode_encodeChar_append, List.cons.injEq] at hread
          exact hread.1
        subst hc
        exact List.cons_prefix_cons.2 ⟨rfl, ih (List.append_cancel_left hafter)⟩
  · rintro ⟨more, rfl⟩
    have happend : encode (u ++ more) = encode u ++ encode more := List.flatMap_append
    rw [happend, List.append_assoc]
    exact List.prefix_append _ _

/-- Reading puts U+FFFD where no character begins. -/
theorem head?_decode_of_broken (h : Broken bytes) (hne : bytes ≠ []) :
    (decode bytes).head? = some '\uFFFD' := by
  obtain ⟨lead, rest, rfl⟩ := List.exists_cons_of_ne_nil hne
  obtain ⟨r, hfront⟩ := broken_cons_iff.1 h
  rw [decode]
  split <;> simp_all

end Longest

/-! ## 4. Zero -/

section Zero

variable {n : Nat} {bytes : Bytes} {t : Text}

/-- No byte of a character is zero, except that of the zero character. -/
theorem Form.eq_zero_of_mem (h : Form n bytes) (hmem : 0 ∈ bytes) : n = 0 := by
  cases h <;> simp only [List.mem_cons, List.not_mem_nil, or_false, ← UInt8.toNat_inj,
    UInt8.toNat_zero] at hmem
  case one ha hn => omega
  case two hlow hhigh hb hn =>
    rw [isTail_iff] at hb
    omega
  case three hlow hhigh hb hc hn =>
    have := tail_of_secondFits hb
    rw [isTail_iff] at hc
    omega
  case four hlow hhigh hb hc hd hn =>
    have := tail_of_secondFits hb
    rw [isTail_iff] at hc hd
    omega

/-- Reading makes no zero character. -/
theorem zero_mem_of_mem_decode (h : '\x00' ∈ decode bytes) : 0 ∈ bytes := by
  fun_induction decode bytes with
  | case1 => cases h
  | case2 lead rest c r hfront ih =>
    rw [front_eq_char_iff.1 hfront, List.mem_append]
    rcases List.mem_cons.1 h with rfl | h
    · exact .inl (by decide)
    · exact .inr (ih h)
  | case3 lead rest r hfront ih =>
    rcases List.mem_cons.1 h with h | h
    · exact absurd h (by decide)
    · exact List.mem_cons_of_mem _ ((suffix_of_front_eq_broken hfront).subset (ih h))

theorem zero_mem_encode_iff : 0 ∈ encode t ↔ '\x00' ∈ t := by
  constructor
  · intro h
    obtain ⟨c, hc, hmem⟩ := List.mem_flatMap.1 h
    have hzero := (form_encodeChar c).eq_zero_of_mem hmem
    have hchar : c = '\x00' := Char.toNat_inj.1 hzero
    exact hchar ▸ hc
  · intro h
    refine zero_mem_of_mem_decode ?_
    rwa [decode_encode]

end Zero

end Utf8
end ForeignCall
