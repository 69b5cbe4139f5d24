import ForeignCall.Native
import ForeignCall.Proofs.Call.Arguments
import ForeignCall.Proofs.Text.Utf8
import ForeignCall.Sample.Code

/-!
# Values that come back

A native function that returns its argument gives the caller the value it was called with.

* `Frame.Later`: what may happen to the arena of a call. Buffers stay as they are (`Later.buffers`)
  and new ones never take the number of an old one (`Later.fresh`).
* `raise_of_lowered`: a lowered value is raised from every register that holds it.
* `Value.roundTrip`: extracting, lowering and raising give the value, in every state of the arena
  and whatever is lowered after it.
-/

namespace ForeignCall

/-! ## 1. Arenas in the course of a call -/

/-- An argument is lowered without the arena, or into one new buffer. -/
theorem lower_frame (a : ManagedArg) (f : Frame) :
    (lower a f).2 = f ∨ ∃ bytes, (lower a f).2 = f.push bytes := by
  rcases lower_cases a f with ⟨_, _, -, -, hl⟩ | ⟨_, _, -, -, hl⟩ | ⟨_, -, hl⟩
  · exact .inl (congrArg Prod.snd hl)
  · exact .inr ⟨_, congrArg Prod.snd hl⟩
  · exact .inl (congrArg Prod.snd hl)

/-- What a frame may become: arguments are lowered into its arena, with any outcome, while other
arenas take buffers from the pool and give theirs back. -/
inductive Frame.Later (f : Frame) : Frame → Prop
  | refl : Later f f
  | argument {g : Frame} (a : ManagedArg) : Later f g → Later f (lower a g).2
  | elsewhere {g : Frame} (pool : Pool) :
      Later f g → g.pool.issued ≤ pool.issued → Later f ⟨g.arena, pool⟩

namespace Frame.Later

variable {f g : Frame}

/-- No buffer is moved, changed or given up. -/
theorem buffers (h : f.Later g) : f.arena.buffers <+: g.arena.buffers := by
  induction h with
  | refl => exact List.prefix_rfl
  | @argument g a _ ih =>
    rcases lower_frame a g with he | ⟨bytes, he⟩
    · rwa [he]
    · rw [he]
      exact ih.trans (List.prefix_append _ _)
  | elsewhere pool _ _ ih => exact ih

theorem fresh (h : f.Later g) (hf : f.Fresh) : g.Fresh := by
  induction h with
  | refl => exact hf
  | @argument g a _ ih =>
    rcases lower_frame a g with he | ⟨bytes, he⟩
    · rwa [he]
    · rw [he]
      exact ih.push bytes
  | elsewhere pool _ hissued ih => exact fun b hb => Nat.lt_of_lt_of_le (ih b hb) hissued

end Frame.Later

/-! ## 2. Registers -/

/-- The register holds the value: a 32-bit number in its low half, whatever the upper half is, and
anything else as a whole. -/
def Register.Holds (r : Register) : NativeValue → Prop
  | .int32 v => r.word.toUInt32 = v.toUInt32
  | .int64 v => r.word = v.toUInt64
  | .pointer p => r.pointer = p

/-! ## 3. Raising -/

/-- A native text ends at its zero byte. -/
theorem nativeText_of_zeroFree {content : Bytes} (h : 0 ∉ content) (after : Bytes) :
    nativeText (content ++ 0 :: after) = Utf8.decode content := by
  have hne : ∀ b ∈ content, (b != 0) = true := fun b hb => bne_iff_ne.2 fun he => h (he ▸ hb)
  rw [nativeText, List.takeWhile_append_of_pos hne, List.takeWhile_cons_of_neg (by simp),
    List.append_nil]

/-- A text is read from a buffer that holds it up to a zero byte. -/
theorem nativeText_encode {t : Text} (h : 0 ∉ Utf8.encode t) (rest : Bytes) :
    nativeText (Utf8.encode t ++ 0 :: rest) = t := by
  rw [nativeText_of_zeroFree h, Utf8.decode_encode]

/-- A lowered value is raised from every register that holds it. -/
theorem raise_of_lowered {σ : Type} {code : NativeCode σ} {arena : Arena} {s : σ}
    {type : SemanticType} {v : Value} {n : NativeValue} {register : Register} (symbol : Text)
    (hfits : v.fits type = true) (hfree : ∀ t, v = .string t → 0 ∉ Utf8.encode t)
    (hl : Lowered arena v n) (hholds : register.Holds n) :
    raise symbol type (.ofRegister type.layout register) (code.read arena s) = .ok v := by
  -- Each value fits one type only, except null, which is a text or a handle.
  cases hl with
  | int32 v =>
    cases type with
    | int32 =>
      have hv : register.int32 = v := by rw [Register.int32, hholds, Int32.toInt32_toUInt32]
      exact congrArg (fun v => Except.ok (Value.int32 v)) hv
    | _ => cases hfits
  | int64 v =>
    cases type with
    | int64 =>
      have hv : register.int64 = v := by rw [Register.int64, hholds, Int64.toInt64_toUInt64]
      exact congrArg (fun v => Except.ok (Value.int64 v)) hv
    | _ => cases hfits
  | null =>
    have hp : register.pointer = none := hholds
    cases type with
    | string => simp only [RawReturn.ofRegister, SemanticType.layout, raise, hp]; rfl
    | handle => simp only [RawReturn.ofRegister, SemanticType.layout, raise, hp]; rfl
    | _ => cases hfits
  | handle h =>
    have hp : register.pointer = some h := hholds
    cases type with
    | handle => simp only [RawReturn.ofRegister, SemanticType.layout, raise, hp]; rfl
    | _ => cases hfits
  | @string t serial hbytes =>
    have hp : register.pointer = some (.buffer serial) := hholds
    have hread : code.read arena s (.buffer serial) = Utf8.encode t ++ [0] := by
      rw [NativeCode.read, hbytes]
      rfl
    cases type with
    | string =>
      simp only [RawReturn.ofRegister, SemanticType.layout, raise, hp, upString, Option.map_some,
        hread, nativeText_encode (hfree t rfl)]
      rfl
    | _ => cases hfits

/-- A register that holds a lowered text is read as this text. -/
theorem raise_of_lowered_text {σ : Type} {code : NativeCode σ} {s : σ} {frame : Frame}
    {args : List Value} {natives : List NativeValue} {register : Register} {i : Nat} {t : Text}
    {n : NativeValue} (symbol : Text) (hfree : NulFree args)
    (hlowered : List.Forall₂ (Lowered frame.arena) args natives)
    (harg : args[i]? = some (.string t)) (hnative : natives[i]? = some n)
    (hholds : register.Holds n) :
    raise symbol .string (.ofRegister .pointer register) (code.read frame.arena s) =
      .ok (.string t) := by
  obtain ⟨ha, hat⟩ := List.getElem?_eq_some_iff.1 harg
  obtain ⟨hn, hnt⟩ := List.getElem?_eq_some_iff.1 hnative
  have hl : Lowered frame.arena (.string t) n := by
    rw [← hat, ← hnt]
    exact hlowered.get ha hn
  refine raise_of_lowered symbol rfl (fun t' ht' => ?_) hl hholds
  cases ht'
  exact hfree t (List.mem_of_getElem? harg)

/-- A value that fits a type comes back, at every position of the arguments and in every state of
the arena: it is extracted and lowered, and from a register that holds what it was lowered to, read
by the layout of the type, it is raised again, whatever was lowered or released in the meantime and
whatever native code did to its state. -/
theorem Value.roundTrip {σ : Type} (code : NativeCode σ) (symbol : Text) {args : List Value}
    {position : Nat} {type : SemanticType} {v : Value} {pool : Pool} {f : Frame}
    (hat : args[position]? = some v) (hfits : v.fits type = true)
    (hfree : ∀ t, v = .string t → 0 ∉ Utf8.encode t) (hf : (Frame.start pool).Later f) :
    ∃ a n f', extract symbol args position type = .ok a ∧ lower a f = (.ok n, f') ∧
      ∀ g register s, f'.Later g → register.Holds n →
        raise symbol type (.ofRegister type.layout register) (code.read g.arena s) = .ok v := by
  obtain ⟨a, ha, hvalue, _⟩ := extract_of_fits symbol hat hfits
  have hfresh : f.Fresh := hf.fresh (Frame.start_fresh pool)
  obtain ⟨n, f', hl, hlowered, _⟩ := lower_of_nulFree hfresh (hvalue.symm ▸ hfree)
  refine ⟨a, n, f', ha, hl, fun g register s hg hholds => ?_⟩
  rw [hvalue] at hlowered
  exact raise_of_lowered symbol hfits hfree (hlowered.of_prefix hg.buffers) hholds

theorem Value.roundTrip_second :
    ([.null, .string "é"] : List Value)[1]? = some (.string "é") ∧
    (Value.string "é").fits .string = true ∧ 0 ∉ Utf8.encode "é" ∧
    ∃ a n f', extract "f" [.null, .string "é"] 1 .string = .ok a ∧
      lower a (lower (.string (some "x")) (.start ⟨7, 2⟩)).2 = (.ok n, f') ∧
      ∀ g register s, f'.Later g → register.Holds n →
        raise "f" .string (.ofRegister .pointer register) (Sample.code.read g.arena s) =
          .ok (.string "é") := by
  have hfree : 0 ∉ Utf8.encode "é" := by decide
  have hfree' : ∀ t, Value.string "é" = .string t → 0 ∉ Utf8.encode t := fun t ht => by
    cases ht
    exact hfree
  exact ⟨rfl, rfl, hfree, Value.roundTrip Sample.code "f" rfl rfl hfree' (.argument _ .refl)⟩

end ForeignCall
