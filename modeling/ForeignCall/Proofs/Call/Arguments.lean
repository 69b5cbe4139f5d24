import ForeignCall.Conversion
import ForeignCall.Proofs.Fallible
import Mathlib.Data.List.Forall2

/-!
# Arguments of a call

What checking and lowering do to a whole list of arguments. A checked argument is a value that fits
a type, and carries both.

* `extractAll_of_fits`, `extractAll_of_firstMisfit`: checking succeeds if every value fits its type,
  and else fails at the first that does not.
* `lower_cases`: what can become of one argument that is lowered.
* `lowerAll_of_nulFree`, `lowerAll_of_firstNul`: lowering succeeds if no text has a zero byte, and
  else fails at the first zero byte of the first text that has one. Lowered texts lie in buffers of
  the arena.
-/

namespace ForeignCall

/-! ## 1. Which arguments are accepted -/

/-- The values fit the types, one by one. -/
abbrev Fits (types : List SemanticType) (values : List Value) : Prop :=
  List.Forall₂ (fun type value => value.fits type = true) types values

/-- The value at `position` does not fit its type, and all values before it fit theirs. -/
structure FirstMisfit (types : List SemanticType) (values : List Value) (position : Nat)
    (type : SemanticType) (value : Value) : Prop where
  type_at : types[position]? = some type
  value_at : values[position]? = some value
  misfit : value.fits type = false
  first : ∀ i < position, ∀ t v, types[i]? = some t → values[i]? = some v → v.fits t = true

/-- The byte at `offset` is zero, and no byte before it is. -/
structure FirstZero (bytes : Bytes) (offset : Nat) : Prop where
  zero_at : bytes[offset]? = some 0
  first : ∀ i < offset, bytes[i]? ≠ some 0

/-- No text among the values has a zero byte. -/
def NulFree (values : List Value) : Prop := ∀ t, .string t ∈ values → 0 ∉ Utf8.encode t

/-- The text `t` has its first zero byte at `offset`, and no text before it has one. -/
structure FirstNul (values : List Value) (t : Text) (offset : Nat) : Prop where
  text_at : ∃ before after, values = before ++ .string t :: after ∧ NulFree before
  zero : FirstZero (Utf8.encode t) offset

theorem fits_or_firstMisfit {types : List SemanticType} {values : List Value}
    (h : values.length = types.length) :
    Fits types values ∨ ∃ position type value, FirstMisfit types values position type value := by
  induction types generalizing values with
  | nil =>
    rw [List.length_nil, List.length_eq_zero_iff] at h
    exact .inl (h ▸ .nil)
  | cons t types ih =>
    cases values with
    | nil => simp at h
    | cons v values =>
      cases hv : v.fits t with
      | false => exact .inr ⟨0, t, v, rfl, rfl, hv, fun i hi => absurd hi (Nat.not_lt_zero i)⟩
      | true =>
        rcases ih (by simpa using h) with hfits | ⟨position, type, value, hmisfit⟩
        · exact .inl (.cons hv hfits)
        · refine .inr ⟨position + 1, type, value, hmisfit.type_at, hmisfit.value_at,
            hmisfit.misfit, fun i hi t' v' ht hv' => ?_⟩
          cases i with
          | zero =>
            cases ht
            cases hv'
            exact hv
          | succ i => exact hmisfit.first i (Nat.lt_of_succ_lt_succ hi) t' v' ht hv'

theorem FirstMisfit.tail {types : List SemanticType} {values : List Value} {position : Nat}
    {type t : SemanticType} {value v : Value}
    (h : FirstMisfit (t :: types) (v :: values) (position + 1) type value) :
    v.fits t = true ∧ FirstMisfit types values position type value := by
  refine ⟨h.first 0 (Nat.succ_pos position) t v rfl rfl, h.type_at, h.value_at, h.misfit, ?_⟩
  intro i hi
  exact h.first (i + 1) (Nat.succ_lt_succ hi)

theorem findIdx?_zero_eq_some_iff {bytes : Bytes} {offset : Nat} :
    bytes.findIdx? (· == 0) = some offset ↔ FirstZero bytes offset := by
  rw [List.findIdx?_eq_some_iff_getElem]
  constructor
  · rintro ⟨h, hzero, hfirst⟩
    refine ⟨by simpa [List.getElem?_eq_getElem h] using hzero, fun i hi => ?_⟩
    simpa [List.getElem?_eq_getElem (Nat.lt_trans hi h)] using hfirst i hi
  · intro h
    obtain ⟨hlt, hzero⟩ := List.getElem?_eq_some_iff.1 h.zero_at
    refine ⟨hlt, by simp [hzero], fun i hi => ?_⟩
    simpa [List.getElem?_eq_getElem (Nat.lt_trans hi hlt)] using h.first i hi

theorem findIdx?_zero_eq_none_iff {bytes : Bytes} :
    bytes.findIdx? (· == 0) = none ↔ 0 ∉ bytes := by
  rw [List.findIdx?_eq_none_iff]
  constructor
  · intro h hmem
    simpa using h 0 hmem
  · intro h b hb
    rw [beq_eq_false_iff_ne]
    rintro rfl
    exact h hb

theorem nulFree_or_firstNul (values : List Value) :
    NulFree values ∨ ∃ t offset, FirstNul values t offset := by
  induction values with
  | nil => exact .inl fun t h => absurd h List.not_mem_nil
  | cons v values ih =>
    by_cases hv : NulFree [v]
    · rcases ih with hfree | ⟨t, offset, ⟨before, after, hvalues, hbefore⟩, hzero⟩
      · refine .inl fun t ht => ?_
        rcases List.mem_cons.1 ht with rfl | ht
        · exact hv t List.mem_cons_self
        · exact hfree t ht
      · refine .inr ⟨t, offset, ⟨v :: before, after, by rw [hvalues]; rfl, fun t' ht' => ?_⟩, hzero⟩
        rcases List.mem_cons.1 ht' with rfl | ht'
        · exact hv t' List.mem_cons_self
        · exact hbefore t' ht'
    · simp only [NulFree, List.mem_singleton, not_forall, not_not] at hv
      obtain ⟨t, rfl, hzero⟩ := hv
      cases hf : (Utf8.encode t).findIdx? (· == 0) with
      | none => exact absurd hzero (findIdx?_zero_eq_none_iff.1 hf)
      | some offset =>
        exact .inr ⟨t, offset, ⟨[], values, rfl, fun t h => absurd h List.not_mem_nil⟩,
          findIdx?_zero_eq_some_iff.1 hf⟩

/-! ## 2. Checking -/

namespace ManagedArg

def type : ManagedArg → SemanticType
  | int32 _ => .int32
  | int64 _ => .int64
  | string _ => .string
  | handle _ => .handle

def value : ManagedArg → Value
  | int32 v => .int32 v
  | int64 v => .int64 v
  | string t => .ofString? t
  | handle h => .ofHandle? h

end ManagedArg

variable {symbol : Text} {args : List Value} {position : Nat} {type : SemanticType}

theorem argAt_of_getElem? {v : Value} (h : args[position]? = some v) :
    argAt symbol args position = .ok v := by
  rw [argAt, h, orError]

/-- A value that fits the type is taken as it is. -/
theorem extract_of_fits (symbol : Text) {v : Value} (h : args[position]? = some v)
    (hfits : v.fits type = true) :
    ∃ a, extract symbol args position type = .ok a ∧ a.value = v ∧ a.type = type := by
  cases type with
  | void => cases v <;> cases hfits
  | int32 =>
    rw [extract, argInt32, argAt_of_getElem? h]
    cases v with
    | int32 v => exact ⟨.int32 v, rfl, rfl, rfl⟩
    | _ => cases hfits
  | int64 =>
    rw [extract, argInt64, argAt_of_getElem? h]
    cases v with
    | int64 v => exact ⟨.int64 v, rfl, rfl, rfl⟩
    | _ => cases hfits
  | string =>
    rw [extract, argString, argAt_of_getElem? h]
    cases v with
    | null => exact ⟨.string none, rfl, rfl, rfl⟩
    | string t => exact ⟨.string (some t), rfl, rfl, rfl⟩
    | _ => cases hfits
  | handle =>
    rw [extract, argHandle, argAt_of_getElem? h]
    cases v with
    | null => exact ⟨.handle none, rfl, rfl, rfl⟩
    | handle v => exact ⟨.handle (some v), rfl, rfl, rfl⟩
    | _ => cases hfits

/-- A value that does not fit the type is refused by its kind. -/
theorem extract_of_misfit {v : Value} (h : args[position]? = some v)
    (hmisfit : v.fits type = false) :
    extract symbol args position type =
      .error (.argumentMismatch symbol position type v.kind) := by
  cases type with
  | void =>
    rw [extract, argAt_of_getElem? h]
    rfl
  | int32 =>
    rw [extract, argInt32, argAt_of_getElem? h]
    cases v with
    | int32 v => cases hmisfit
    | _ => rfl
  | int64 =>
    rw [extract, argInt64, argAt_of_getElem? h]
    cases v with
    | int64 v => cases hmisfit
    | _ => rfl
  | string =>
    rw [extract, argString, argAt_of_getElem? h]
    cases v with
    | null => cases hmisfit
    | string t => cases hmisfit
    | _ => rfl
  | handle =>
    rw [extract, argHandle, argAt_of_getElem? h]
    cases v with
    | null => cases hmisfit
    | handle v => cases hmisfit
    | _ => rfl

theorem extractAll_cons_of_ok {a : ManagedArg} (h : extract symbol args position type = .ok a)
    (types : List SemanticType) :
    extractAll symbol args position (type :: types) =
      (extractAll symbol args (position + 1) types).map (a :: ·) := by
  rw [extractAll, h]
  cases hr : extractAll symbol args (position + 1) types <;>
    simp [bind, Except.bind, pure, Except.pure, Except.map]

theorem extractAll_cons_of_error {e : BindError} (h : extract symbol args position type = .error e)
    (types : List SemanticType) :
    extractAll symbol args position (type :: types) = .error e := by
  rw [extractAll, h]
  rfl

/-- Values that fit are all taken, in order. -/
theorem extractAll_of_fits {types : List SemanticType} {values : List Value}
    (symbol : Text) (earlier : List Value) (h : Fits types values) :
    ∃ managed, extractAll symbol (earlier ++ values) earlier.length types = .ok managed ∧
      managed.map ManagedArg.value = values ∧ managed.map ManagedArg.type = types := by
  induction h generalizing earlier with
  | nil => exact ⟨[], rfl, rfl, rfl⟩
  | @cons t v types values hv _ ih =>
    have hat : (earlier ++ v :: values)[earlier.length]? = some v := by simp
    obtain ⟨a, ha, hvalue, htype⟩ := extract_of_fits symbol hat hv
    obtain ⟨managed, hm, hvalues, htypes⟩ := ih (earlier ++ [v])
    refine ⟨a :: managed, ?_, by rw [List.map_cons, hvalue, hvalues],
      by rw [List.map_cons, htype, htypes]⟩
    rw [extractAll_cons_of_ok ha]
    rw [List.append_assoc, List.singleton_append, List.length_append] at hm
    simp only [List.length_singleton] at hm
    rw [hm]
    rfl

/-- The first value that does not fit is refused. -/
theorem extractAll_of_firstMisfit {types : List SemanticType} {values : List Value}
    {value : Value} (symbol : Text) (earlier : List Value)
    (h : FirstMisfit types values position type value) :
    extractAll symbol (earlier ++ values) earlier.length types =
      .error (.argumentMismatch symbol (earlier.length + position) type value.kind) := by
  induction position generalizing types values earlier with
  | zero =>
    obtain ⟨ht, hv, hmisfit, _⟩ := h
    cases types with
    | nil => simp at ht
    | cons t types =>
      cases ht
      refine extractAll_cons_of_error (extract_of_misfit ?_ hmisfit) types
      rw [List.getElem?_append_right (Nat.le_refl _), Nat.sub_self, hv]
  | succ position ih =>
    cases types with
    | nil => simpa using h.type_at
    | cons t types =>
      cases values with
      | nil => simpa using h.value_at
      | cons v values =>
        obtain ⟨hv, htail⟩ := h.tail
        have hat : (earlier ++ v :: values)[earlier.length]? = some v := by simp
        obtain ⟨a, ha, _⟩ := extract_of_fits symbol hat hv
        have hrest := ih (earlier ++ [v]) htail
        rw [List.append_assoc, List.singleton_append, List.length_append] at hrest
        simp only [List.length_singleton] at hrest
        rw [extractAll_cons_of_ok ha, hrest, Nat.add_right_comm, Nat.add_assoc]
        rfl

/-! ## 3. Lowering -/

/-- A value as native code gets it: a number as it is, null as the null pointer, a handle as its
address, and a text as a buffer of the arena with its bytes and a zero byte. -/
inductive Lowered (arena : Arena) : Value → NativeValue → Prop
  | int32 (v : Int32) : Lowered arena (.int32 v) (.int32 v)
  | int64 (v : Int64) : Lowered arena (.int64 v) (.int64 v)
  | null : Lowered arena .null (.pointer none)
  | handle (h : Handle) : Lowered arena (.handle h) (.pointer (some h))
  | string {t : Text} {serial : Nat} :
      arena.bytes? serial = some (Utf8.encode t ++ [0]) →
      Lowered arena (.string t) (.pointer (some (.buffer serial)))

/-- Buffers are numbered below the next number of the pool. -/
def Frame.Fresh (f : Frame) : Prop := ∀ b ∈ f.arena.buffers, b.serial < f.pool.issued

theorem Frame.start_fresh (pool : Pool) : (start pool).Fresh :=
  fun _ h => absurd h List.not_mem_nil

/-- Buffers stay what they are when more are added. -/
theorem Arena.bytes?_of_prefix {a a' : Arena} (h : a.buffers <+: a'.buffers) {serial : Nat}
    {bytes : Bytes} (hbytes : a.bytes? serial = some bytes) : a'.bytes? serial = some bytes := by
  obtain ⟨more, hmore⟩ := h
  unfold Arena.bytes? at hbytes ⊢
  obtain ⟨b, hb, hbytes⟩ := Option.map_eq_some_iff.1 hbytes
  rw [← hmore, List.find?_append, hb, Option.some_or, Option.map_some, hbytes]

theorem Lowered.of_prefix {a a' : Arena} (h : a.buffers <+: a'.buffers) {v : Value}
    {n : NativeValue} (hl : Lowered a v n) : Lowered a' v n := by
  cases hl with
  | int32 v => exact .int32 v
  | int64 v => exact .int64 v
  | null => exact .null
  | handle h => exact .handle h
  | string hbytes => exact .string (Arena.bytes?_of_prefix h hbytes)

/-- A text with a zero byte is refused with the offset of the first one. -/
theorem Frame.allocate_of_firstZero {t : Text} {offset : Nat}
    (h : FirstZero (Utf8.encode t) offset) (f : Frame) :
    f.allocate t = (.error (.interiorNul offset), f) := by
  simp only [Frame.allocate, findIdx?_zero_eq_some_iff.2 h]

/-- The frame with one more buffer, which has the next number of the pool. -/
def Frame.push (f : Frame) (bytes : Bytes) : Frame where
  arena := ⟨f.arena.buffers ++ [⟨f.pool.issued, bytes⟩]⟩
  pool := ⟨f.pool.issued + 1, f.pool.live + 1⟩

/-- A text without a zero byte gets a new buffer. -/
theorem Frame.allocate_of_nulFree {t : Text} (h : 0 ∉ Utf8.encode t) (f : Frame) :
    f.allocate t =
      (.ok (some (.buffer f.pool.issued)), f.push (Utf8.encode t ++ [0])) := by
  simp only [Frame.allocate, findIdx?_zero_eq_none_iff.2 h, Frame.push]

theorem Frame.Fresh.push {f : Frame} (hf : f.Fresh) (bytes : Bytes) : (f.push bytes).Fresh := by
  intro b hb
  rcases List.mem_append.1 hb with hb | hb
  · exact Nat.lt_succ_of_lt (hf b hb)
  · rw [List.mem_singleton.1 hb]
    exact Nat.lt_succ_self _

/-- In a fresh frame the new buffer is the one with its number. -/
theorem Frame.Fresh.bytes?_push {f : Frame} (hf : f.Fresh) (bytes : Bytes) :
    (f.push bytes).arena.bytes? f.pool.issued = some bytes := by
  have hnone : f.arena.buffers.find? (·.serial = f.pool.issued) = none := by
    rw [List.find?_eq_none]
    intro b hb
    simpa using Nat.ne_of_lt (hf b hb)
  simp only [Frame.push, Arena.bytes?, List.find?_append, hnone]
  simp

/-- An argument without a zero byte is lowered. -/
theorem lower_of_nulFree {a : ManagedArg} {f : Frame} (hf : f.Fresh)
    (h : ∀ t, a.value = .string t → 0 ∉ Utf8.encode t) :
    ∃ n f', lower a f = (.ok n, f') ∧ Lowered f'.arena a.value n ∧
      f.arena.buffers <+: f'.arena.buffers ∧ f'.Fresh := by
  cases a with
  | int32 v => exact ⟨.int32 v, f, rfl, .int32 v, List.prefix_rfl, hf⟩
  | int64 v => exact ⟨.int64 v, f, rfl, .int64 v, List.prefix_rfl, hf⟩
  | handle v =>
    refine ⟨.pointer v, f, rfl, ?_, List.prefix_rfl, hf⟩
    cases v with
    | none => exact .null
    | some v => exact .handle v
  | string t =>
    cases t with
    | none => exact ⟨.pointer none, f, rfl, .null, List.prefix_rfl, hf⟩
    | some t =>
      refine ⟨.pointer (some (.buffer f.pool.issued)), f.push (Utf8.encode t ++ [0]), ?_,
        .string (hf.bytes?_push _), List.prefix_append _ _, hf.push _⟩
      rw [lower, downString, Frame.allocate_of_nulFree (h t rfl)]
      rfl

theorem lower_of_firstZero {t : Text} {offset : Nat} (h : FirstZero (Utf8.encode t) offset)
    (f : Frame) : lower (.string (some t)) f = (.error (.interiorNul offset), f) := by
  rw [lower, downString, Frame.allocate_of_firstZero h]
  rfl

/-- A text with a zero byte is refused, another text gets a new buffer, and anything else needs
none. -/
theorem lower_cases (a : ManagedArg) (f : Frame) :
    (∃ t offset, a.value = .string t ∧ FirstZero (Utf8.encode t) offset ∧
      lower a f = (.error (.interiorNul offset), f)) ∨
    (∃ t n, a.value = .string t ∧ 0 ∉ Utf8.encode t ∧
      lower a f = (.ok n, f.push (Utf8.encode t ++ [0]))) ∨
    ∃ n, a.value.string? = none ∧ lower a f = (.ok n, f) := by
  cases a with
  | int32 v => exact .inr (.inr ⟨_, rfl, rfl⟩)
  | int64 v => exact .inr (.inr ⟨_, rfl, rfl⟩)
  | handle h => exact .inr (.inr ⟨_, by cases h <;> rfl, rfl⟩)
  | string t =>
    cases t with
    | none => exact .inr (.inr ⟨_, rfl, rfl⟩)
    | some t =>
      cases hzero : (Utf8.encode t).findIdx? (· == 0) with
      | some offset =>
        have hfirst := findIdx?_zero_eq_some_iff.1 hzero
        exact .inl ⟨t, offset, rfl, hfirst, lower_of_firstZero hfirst f⟩
      | none =>
        have hfree := findIdx?_zero_eq_none_iff.1 hzero
        refine .inr (.inl ⟨t, .pointer (some (.buffer f.pool.issued)), rfl, hfree, ?_⟩)
        rw [lower, downString, Frame.allocate_of_nulFree hfree]
        rfl

theorem lowerAll_cons_eq_ok_iff {a : ManagedArg} {managed : List ManagedArg} {f frame : Frame}
    {natives : List NativeValue} :
    lowerAll (a :: managed) f = (.ok natives, frame) ↔
    ∃ n f₁ rest, lower a f = (.ok n, f₁) ∧ lowerAll managed f₁ = (.ok rest, frame) ∧
      natives = n :: rest := by
  rw [lowerAll]
  rcases lower a f with ⟨e | n, f₁⟩
  · simp
  · rcases hr : lowerAll managed f₁ with ⟨e | rest, f₂⟩
    · simp [hr, map_eq_ok_iff]
    · simp [hr, map_eq_ok_iff, eq_comm (b := natives), and_comm]

/-- Arguments without zero bytes are all lowered, in order, into one arena. -/
theorem lowerAll_of_nulFree {managed : List ManagedArg} {f : Frame} (hf : f.Fresh)
    (h : NulFree (managed.map ManagedArg.value)) :
    ∃ natives f', lowerAll managed f = (.ok natives, f') ∧
      List.Forall₂ (Lowered f'.arena) (managed.map ManagedArg.value) natives ∧
      f.arena.buffers <+: f'.arena.buffers := by
  induction managed generalizing f with
  | nil => exact ⟨[], f, rfl, .nil, List.prefix_rfl⟩
  | cons a managed ih =>
    obtain ⟨n, f₁, hn, hlowered, hgrows, hfresh⟩ :=
      lower_of_nulFree hf fun t ht => h t (ht ▸ List.mem_cons_self)
    obtain ⟨natives, f₂, hns, hall, hgrows'⟩ :=
      ih hfresh fun t ht => h t (List.mem_cons_of_mem _ ht)
    -- Later buffers are added behind, so the first argument stays lowered.
    refine ⟨n :: natives, f₂, ?_, .cons (hlowered.of_prefix hgrows') hall,
      hgrows.trans hgrows'⟩
    simp only [lowerAll, hn, hns, Except.map]

/-- Lowering stops at the first zero byte of the first text that has one. -/
theorem lowerAll_of_firstNul {managed : List ManagedArg} {t : Text} {offset : Nat} {f : Frame}
    (hf : f.Fresh) (h : FirstNul (managed.map ManagedArg.value) t offset) :
    (lowerAll managed f).1 = .error (.interiorNul offset) := by
  obtain ⟨⟨before, after, hvalues, hfree⟩, hzero⟩ := h
  induction before generalizing managed f with
  | nil =>
    obtain ⟨a, managed, rfl, ha, _⟩ := List.map_eq_cons_iff.1 hvalues
    cases a with
    | string t' =>
      cases t' with
      | none => cases ha
      | some t' =>
        cases ha
        rw [lowerAll, lower_of_firstZero hzero]
    | int32 v => cases ha
    | int64 v => cases ha
    | handle v => cases v <;> cases ha
  | cons v before ih =>
    obtain ⟨a, managed, rfl, rfl, hrest⟩ := List.map_eq_cons_iff.1 hvalues
    obtain ⟨n, f₁, hn, _, _, hfresh⟩ :=
      lower_of_nulFree hf fun t ht => hfree t (ht ▸ List.mem_cons_self)
    have hr := ih hfresh hrest fun t ht => hfree t (List.mem_cons_of_mem _ ht)
    simp only [lowerAll, hn, hr, Except.map]

end ForeignCall
