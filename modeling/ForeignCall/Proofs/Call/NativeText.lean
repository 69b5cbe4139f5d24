import ForeignCall.Proofs.Call.RoundTrip
import ForeignCall.Proofs.Text.BrokenUtf8
import Mathlib.Data.List.TakeWhile

/-!
# Native texts

A native text is any bytes up to the first zero. What is read of it is a text that native code can
be given in turn: it reads the same again, and if the bytes were those of a text they are the same
bytes.

* `passes_of_zeroFree`: a text without a zero character can always be passed.
* `upString_stable`: what is read at any address, and what becomes of it when it is passed on.
-/

namespace ForeignCall

/-- The bytes of a native text: those before the first zero. -/
def nativeContent (bytes : Bytes) : Bytes := bytes.takeWhile (· != 0)

/-- Native code can be given the text. At every place of the arguments, and in every state of the
arena, it is accepted and lowered into a buffer with its bytes and a zero byte; until the call ends
the buffer stays as it is and reads as the text again. -/
def Passes (t : Text) : Prop :=
  ∀ (symbol : Text) (args : List Value) (position : Nat) (pool : Pool) (f : Frame),
    args[position]? = some (.string t) → (Frame.start pool).Later f →
    ∃ serial f', extract symbol args position .string = .ok (.string (some t)) ∧
      lower (.string (some t)) f = (.ok (.pointer (some (.buffer serial))), f') ∧
      ∀ g, f'.Later g →
        g.arena.bytes? serial = some (Utf8.encode t ++ [0]) ∧
        ∀ {σ : Type} (code : NativeCode σ) (s : σ),
          upString (code.read g.arena s) (some (.buffer serial)) = some t

/-- What is read of a native text, given its bytes. -/
structure ReadBack (content : Bytes) (t : Text) : Prop where
  zeroFree : '\x00' ∉ t
  passes : Passes t
  /-- Valid bytes are read as the text they are of, and passing it on gives these bytes. -/
  exact : ∀ u, Utf8.valid? content = some u → t = u ∧ Utf8.encode t = content
  /-- Reading goes on behind valid bytes. -/
  append : ∀ b₁ b₂ u, content = b₁ ++ b₂ → Utf8.valid? b₁ = some u →
    t = nativeText (b₁ ++ [0]) ++ nativeText (b₂ ++ [0])
  /-- The longest valid beginning is kept, and what follows it, if anything does, is replaced. -/
  longest : ∃ kept broken, content = Utf8.encode kept ++ broken ∧
    (∀ u, Utf8.encode u <+: content ↔ u <+: kept) ∧
    t = kept ++ nativeText (broken ++ [0]) ∧
    (broken ≠ [] → (nativeText (broken ++ [0])).head? = some '\uFFFD')

/-! ## 1. Passing on -/

/-- A text without a zero character can be passed. -/
theorem passes_of_zeroFree {t : Text} (h : '\x00' ∉ t) : Passes t := by
  intro symbol args position pool f hat hlater
  have hfree : 0 ∉ Utf8.encode t := mt Utf8.zero_mem_encode_iff.1 h
  have hfresh : f.Fresh := hlater.fresh (Frame.start_fresh pool)
  refine ⟨f.pool.issued, f.push (Utf8.encode t ++ [0]), ?_, ?_, fun g hg => ?_⟩
  · rw [extract, argString, argAt_of_getElem? hat]
    rfl
  · rw [lower, downString, Frame.allocate_of_nulFree hfree]
    rfl
  · have hbytes := Arena.bytes?_of_prefix hg.buffers
      (hfresh.bytes?_push (Utf8.encode t ++ [0]))
    refine ⟨hbytes, fun code s => ?_⟩
    rw [upString, Option.map_some, NativeCode.read, hbytes, Option.getD_some,
      nativeText_encode hfree]

/-! ## 2. Both ways -/

theorem zero_not_mem_nativeContent (bytes : Bytes) : 0 ∉ nativeContent bytes := by
  intro h
  simpa using List.mem_takeWhile_imp h

/-- Whatever bytes stand at an address, a text is read there. It has no zero character, so native
code can be given it, to read it again; and native code gets the very bytes that were read if they
are valid. Bytes that are not valid are kept up to where they go wrong. -/
theorem upString_stable (read : Handle → Bytes) (h : Handle) :
    ∃ t, upString read (some h) = some t ∧ ReadBack (nativeContent (read h)) t := by
  refine ⟨Utf8.decode (nativeContent (read h)), rfl, ?_⟩
  have hfree := zero_not_mem_nativeContent (read h)
  generalize nativeContent (read h) = content at hfree
  have hzero : '\x00' ∉ Utf8.decode content := mt Utf8.zero_mem_of_mem_decode hfree
  refine ⟨hzero, passes_of_zeroFree hzero, fun u hu => ?_, fun b₁ b₂ u hcontent hu => ?_, ?_⟩
  · obtain rfl := Utf8.valid?_eq_some_iff.1 hu
    rw [Utf8.decode_encode]
    exact ⟨rfl, rfl⟩
  · obtain rfl := Utf8.valid?_eq_some_iff.1 hu
    rw [hcontent, List.mem_append, not_or] at hfree
    rw [hcontent, Utf8.decode_encode_append, nativeText_encode hfree.1,
      nativeText_of_zeroFree hfree.2]
  · obtain ⟨kept, broken, rfl, hbroken⟩ := Utf8.exists_longest content
    rw [List.mem_append, not_or] at hfree
    refine ⟨kept, broken, rfl, fun u => Utf8.encode_prefix_iff hbroken, ?_, ?_⟩
    · rw [Utf8.decode_encode_append, nativeText_of_zeroFree hfree.2]
    · intro hne
      rw [nativeText_of_zeroFree hfree.2]
      exact Utf8.head?_decode_of_broken hbroken hne

/-- A byte that begins no character, between two that do. -/
example : nativeText [0x6F, 0x6B, 0xFF, 0x6F, 0x6B, 0] = "ok\uFFFDok" := by cbv

end ForeignCall
