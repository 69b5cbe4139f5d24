import ForeignCall.Text

/-!
# UTF-8

Texts as bytes and back. Reading accepts any bytes: a character's bytes give the character, and each
longest run of bytes that begins a character but does not complete one gives one U+FFFD.

* `Utf8.encode` writes, `Utf8.decode` reads, `Utf8.valid?` reads only what `encode` writes.
-/

namespace ForeignCall

abbrev Bytes := List UInt8

namespace Utf8

def encode (t : Text) : Bytes := t.flatMap String.utf8EncodeChar

/-- A byte `10xxxxxx`. -/
def isTail (b : UInt8) : Bool := 0x80 ≤ b && b ≤ 0xBF

/-- The character with the payloads of `lead` and the bytes after it, six bits each. -/
def assemble (lead : Nat) (tails : Bytes) : Char :=
  Char.ofNat (tails.foldl (fun n b => n * 64 + b.toNat % 64) lead)

/-- What the front of a byte string is. -/
inductive Front where
  /-- The bytes of a character, and what follows them. -/
  | char (c : Char) (rest : Bytes)
  /-- Bytes that begin a character but do not complete it, and what follows them. -/
  | broken (rest : Bytes)

/-- The second byte may follow the first in a character of three or four bytes: no shorter form
exists, and the character is neither a surrogate nor above U+10FFFF. -/
def secondFits (lead b : UInt8) : Bool :=
  if lead == 0xE0 then 0xA0 ≤ b && b ≤ 0xBF
  else if lead == 0xED then 0x80 ≤ b && b ≤ 0x9F
  else if lead == 0xF0 then 0x90 ≤ b && b ≤ 0xBF
  else if lead == 0xF4 then 0x80 ≤ b && b ≤ 0x8F
  else isTail b

/-- Splits the first character off, given its first byte and what follows. -/
def front (lead : UInt8) (rest : Bytes) : Front :=
  if lead < 0x80 then .char (Char.ofNat lead.toNat) rest
  else if 0xC2 ≤ lead && lead ≤ 0xDF then
    match rest with
    | b :: r => if isTail b then .char (assemble (lead.toNat % 32) [b]) r else .broken rest
    | [] => .broken []
  else if 0xE0 ≤ lead && lead ≤ 0xEF then
    match rest with
    | b :: c :: r =>
      if !secondFits lead b then .broken rest
      else if isTail c then .char (assemble (lead.toNat % 16) [b, c]) r
      else .broken (c :: r)
    | [b] => if secondFits lead b then .broken [] else .broken [b]
    | [] => .broken []
  else if 0xF0 ≤ lead && lead ≤ 0xF4 then
    match rest with
    | b :: c :: d :: r =>
      if !secondFits lead b then .broken rest
      else if !isTail c then .broken (c :: d :: r)
      else if isTail d then .char (assemble (lead.toNat % 8) [b, c, d]) r
      else .broken (d :: r)
    | [b, c] =>
      if !secondFits lead b then .broken rest
      else if isTail c then .broken [] else .broken [c]
    | [b] => if secondFits lead b then .broken [] else .broken [b]
    | [] => .broken []
  else .broken rest

def Front.rest : Front → Bytes
  | .char _ r => r
  | .broken r => r

/-- The front takes the first byte and none that was not there. -/
theorem front_rest_length (lead : UInt8) (rest : Bytes) :
    (front lead rest).rest.length ≤ rest.length := by
  unfold front
  repeat' split
  all_goals simp [Front.rest] <;> omega

/-- Reads bytes as text; a broken front becomes U+FFFD. -/
def decode : Bytes → Text
  | [] => []
  | lead :: rest =>
    match _hf : front lead rest with
    | .char c r => c :: decode r
    | .broken r => '\uFFFD' :: decode r
  termination_by bytes => bytes.length
  decreasing_by
    all_goals
      have := front_rest_length lead rest
      rw [_hf] at this
      simp only [Front.rest] at this
      simp only [List.length_cons]
      omega

/-- Reads bytes as text if they are the bytes of one. -/
def valid? : Bytes → Option Text
  | [] => some []
  | lead :: rest =>
    match _hf : front lead rest with
    | .char c r => (valid? r).map (c :: ·)
    | .broken _ => none
  termination_by bytes => bytes.length
  decreasing_by
    have := front_rest_length lead rest
    rw [_hf] at this
    simp only [Front.rest] at this
    simp only [List.length_cons]
    omega

end Utf8
end ForeignCall
