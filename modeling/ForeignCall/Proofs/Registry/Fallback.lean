import ForeignCall.Proofs.Registry.Resolution

/-!
# Fallback among candidates

Candidates are tried in the order in which they are listed. This holds of a registry in any state,
as long as no key has two slots: whatever was resolved before, by whatever loader, and also if a
slot was left empty.

* `openOnce_of_unrecorded`: what one open does to the libraries that are recorded.
* `resolve_fallback`: a resolution gives the first candidate that is recorded or opens, asks for
  those before it that are not recorded, and leaves every other record alone; if no candidate opens,
  the failure of the first is told.
-/

namespace ForeignCall
namespace Registry

variable {L : Type} {loader : Loader L} {r : Registry L} {key name : Text} {library : L}

/-! ## 1. Records -/

/-- The library in the slot of a key. -/
def recorded? (r : Registry L) (key : Text) : Option L := (slot? r.slots key).join

theorem recorded?_eq_some_iff :
    r.recorded? key = some library ↔ slot? r.slots key = some (some library) := by
  rw [recorded?, Option.join_eq_some_iff]

section Slots

variable {slots : List (Text × Option L)}

theorem slot?_cons (s : Text × Option L) (slots : List (Text × Option L)) (key : Text) :
    slot? (s :: slots) key = if s.1 = key then some s.2 else slot? slots key := by
  by_cases h : s.1 = key <;> simp [slot?, h]

theorem slot?_ensureSlot (slots : List (Text × Option L)) (key other : Text) :
    slot? (ensureSlot slots key) other =
      if other = key then some (slot? slots key).join else slot? slots other := by
  cases hslot : slot? slots key with
  | some o =>
    rw [ensureSlot_of_some hslot]
    by_cases h : other = key
    · rw [if_pos h, h, hslot]
      rfl
    · rw [if_neg h]
  | none =>
    have hnew := slot?_eq_none_iff.1 hslot
    rw [ensureSlot_of_new hnew]
    by_cases h : other = key
    · rw [if_pos h, h, slot?_append_new hnew]
      rfl
    · have hne : key ≠ other := fun he => h he.symm
      rw [if_neg h, slot?, slot?, List.find?_append]
      simp [hne]

theorem slot?_fillSlot (slots : List (Text × Option L)) (key : Text) (library : L) (other : Text) :
    slot? (fillSlot slots key library) other =
      if other = key then (slot? slots key).map fun _ => some library else slot? slots other := by
  induction slots with
  | nil => simp [fillSlot, slot?]
  | cons s rest ih =>
    rw [fillSlot] at ih
    rw [fillSlot, List.map_cons, slot?_cons, slot?_cons, slot?_cons, ih]
    by_cases hs : s.1 = key
    · by_cases ho : other = key
      · simp [hs, ho]
      · have hne : key ≠ other := fun he => ho he.symm
        simp [hs, ho, hne]
    · by_cases ho : other = key
      · simp [hs, ho]
      · simp [hs, ho]

/-- If no key has two slots, dropping an empty one leaves none behind it. -/
theorem slot?_dropEmpty (nodup : (keys slots).Nodup) (hempty : slot? slots key = some none)
    (other : Text) :
    slot? (dropEmpty slots key) other = if other = key then none else slot? slots other := by
  by_cases ho : other = key
  · rw [if_pos ho, ho, slot?_eq_none_iff]
    intro hmem
    obtain ⟨⟨k, o⟩, hs, rfl⟩ := List.mem_map.1 hmem
    obtain ⟨hs, hkept⟩ := List.mem_filter.1 hs
    rw [← slot?_eq_some_iff nodup, hempty, Option.some.injEq] at hs
    simp [← hs] at hkept
  · rw [if_neg ho, slot?, slot?, dropEmpty, List.find?_filter]
    congr 2
    funext s
    by_cases hs : s.1 = other
    · simp [hs, ho]
    · simp [hs]

theorem nodup_ensureSlot (nodup : (keys slots).Nodup) (key : Text) :
    (keys (ensureSlot slots key)).Nodup := by
  cases hslot : slot? slots key with
  | some o => rwa [ensureSlot_of_some hslot]
  | none =>
    have hnew := slot?_eq_none_iff.1 hslot
    rw [ensureSlot_of_new hnew, keys, List.map_append]
    exact List.nodup_append.2 ⟨nodup, by simp, by rintro a ha b hb rfl; simp_all [keys]⟩

theorem keys_fillSlot (slots : List (Text × Option L)) (key : Text) (library : L) :
    keys (fillSlot slots key library) = keys slots := by
  rw [keys, fillSlot, List.map_map, keys]
  refine List.map_congr_left fun s _ => ?_
  by_cases hs : s.1 = key <;> simp [hs]

theorem nodup_dropEmpty (nodup : (keys slots).Nodup) (key : Text) :
    (keys (dropEmpty slots key)).Nodup :=
  nodup.sublist (List.filter_sublist.map _)

end Slots

/-! ## 2. One open -/

/-- A library that is not recorded is asked for. If the loader has it, it is recorded, and in any
case nothing else changes. -/
theorem openOnce_of_unrecorded (loader : Loader L) (nodup : (keys r.slots).Nodup)
    (h : r.recorded? key = none) (request : Request) :
    ∃ slots, (keys slots).Nodup ∧
      r.openOnce loader key request =
        (loader r.requests request, ⟨slots, r.requests ++ [request]⟩) ∧
      ∀ other, (slot? slots other).join =
        if other = key then (loader r.requests request).toOption else r.recorded? other := by
  have hensured : ∀ other, slot? (ensureSlot r.slots key) other =
      if other = key then some none else slot? r.slots other := by
    intro other
    rw [slot?_ensureSlot]
    exact congrArg (fun o => if other = key then some o else slot? r.slots other) h
  have hempty := hensured key
  rw [if_pos rfl] at hempty
  have hnodup := nodup_ensureSlot nodup key
  cases ha : loader r.requests request with
  | ok library =>
    refine ⟨fillSlot (ensureSlot r.slots key) key library, ?_, ?_, fun other => ?_⟩
    · rwa [keys_fillSlot]
    · simp only [openOnce, hempty, ha]
    · rw [slot?_fillSlot, hempty, hensured]
      by_cases ho : other = key
      · simp [ho, Except.toOption]
      · simp [ho, recorded?]
  | error reason =>
    refine ⟨dropEmpty (ensureSlot r.slots key) key, nodup_dropEmpty hnodup key, ?_, fun other => ?_⟩
    · simp only [openOnce, hempty, ha]
    · rw [slot?_dropEmpty hnodup hempty, hensured]
      by_cases ho : other = key
      · simp [ho, Except.toOption]
      · simp [ho, recorded?]

/-! ## 3. Candidates in order -/

/-- None of the candidates is recorded, and the loader refuses each when it is asked for it. -/
structure Unavailable (loader : Loader L) (r : Registry L) (names : List Text) : Prop where
  unrecorded : ∀ name ∈ names, r.recorded? name = none
  refused : Refused loader r.requests (names.map .library)

/-- `r'` is the registry once these candidates were asked for, and has the records of `r`. -/
structure Asked (r : Registry L) (names : List Text) (r' : Registry L) : Prop where
  requests : r'.requests = r.requests ++ names.map .library
  recorded : ∀ key, r'.recorded? key = r.recorded? key
  nodup : (keys r'.slots).Nodup

/-- What comes of trying candidates in order. -/
inductive Fallback (loader : Loader L) (r : Registry L) (names : List Text) :
    Except BindError L → Registry L → Prop
  /-- The first that is available is recorded. It is not asked for. -/
  | recorded {before after : List Text} {name : Text} {library : L} {r' : Registry L} :
      names = before ++ name :: after → Unavailable loader r before →
      r.recorded? name = some library → Asked r before r' →
      Fallback loader r names (.ok library) r'
  /-- The first that is available opens when it is asked for, and is recorded. -/
  | opened {before after : List Text} {name : Text} {library : L} {r' : Registry L} :
      names = before ++ name :: after → Unavailable loader r before →
      r.recorded? name = none →
      loader (r.requests ++ before.map .library) (.library name) = .ok library →
      r'.requests = r.requests ++ (before ++ [name]).map .library →
      (∀ key, r'.recorded? key = if key = name then some library else r.recorded? key) →
      (keys r'.slots).Nodup →
      Fallback loader r names (.ok library) r'
  /-- There are candidates, and none is available. -/
  | failed {first reason : Text} {rest : List Text} {r' : Registry L} :
      names = first :: rest → Unavailable loader r names →
      loader r.requests (.library first) = .error reason → Asked r names r' →
      Fallback loader r names (.error (.libraryNotFound first reason)) r'
  /-- There are no candidates. -/
  | empty :
      names = [] →
      Fallback loader r names
        (.error (.libraryNotFound "[]" "no candidate libraries given")) r

/-- What is told of the candidates if none is available: the first, and why it is refused. -/
def firstFailure? (loader : Loader L) (r : Registry L) : List Text → Option (Text × Text)
  | [] => none
  | first :: _ =>
    match loader r.requests (.library first) with
    | .ok _ => none
    | .error reason => some (first, reason)

/-- A candidate that is not available is asked for, and nothing else happens. -/
theorem openOnce_of_unavailable (nodup : (keys r.slots).Nodup) {rest : List Text}
    (h : Unavailable loader r (name :: rest)) :
    ∃ reason r₁, loader r.requests (.library name) = .error reason ∧
      r.openOnce loader name (.library name) = (.error reason, r₁) ∧ Asked r [name] r₁ ∧
      Unavailable loader r₁ rest := by
  obtain ⟨hname, hrest⟩ := List.forall_mem_cons.1 h.unrecorded
  obtain ⟨⟨reason, herror⟩, hrefused⟩ := h.refused
  obtain ⟨slots, hnodup, hopen, hslots⟩ :=
    openOnce_of_unrecorded loader nodup hname (.library name)
  rw [herror] at hopen hslots
  have hrecorded : ∀ key,
      (⟨slots, r.requests ++ [.library name]⟩ : Registry L).recorded? key = r.recorded? key := by
    intro key
    rw [recorded?, hslots]
    by_cases hkey : key = name
    · rw [if_pos hkey, hkey, hname]
      rfl
    · rw [if_neg hkey]
  exact ⟨reason, _, herror, hopen, ⟨rfl, hrecorded, hnodup⟩,
    fun other hother => (hrecorded other).trans (hrest other hother), hrefused⟩

/-- Candidates that are not available are asked for and passed over. -/
theorem openFirst_append_of_unavailable (nodup : (keys r.slots).Nodup) {before : List Text}
    (h : Unavailable loader r before) :
    ∃ r', Asked r before r' ∧ ∀ failure after,
      openFirst loader failure (before ++ after) r =
        openFirst loader (failure.or (firstFailure? loader r before)) after r' := by
  induction before generalizing r with
  | nil => exact ⟨r, ⟨by simp, fun _ => rfl, nodup⟩, by simp [firstFailure?]⟩
  | cons name rest ih =>
    obtain ⟨reason, r₁, herror, hopen, hasked, hrest⟩ := openOnce_of_unavailable nodup h
    obtain ⟨r', hmore, hfirst⟩ := ih hasked.nodup hrest
    refine ⟨r', ⟨?_, fun key => ?_, hmore.nodup⟩, fun failure after => ?_⟩
    · rw [hmore.requests, hasked.requests]
      simp
    · rw [hmore.recorded, hasked.recorded]
    · rw [List.cons_append, openFirst, hopen]
      simp only [hfirst, firstFailure?, herror, Option.or_assoc, Option.some_or]

/-- The candidate is recorded, or opens when it is asked for after those before it. -/
def Available (loader : Loader L) (r : Registry L) (before : List Text) (name : Text) : Prop :=
  (∃ library, r.recorded? name = some library) ∨
    r.recorded? name = none ∧
      ∃ library, loader (r.requests ++ before.map .library) (.library name) = .ok library

/-- Either no candidate is available, or there is a first one. -/
theorem unavailable_or_exists_first (loader : Loader L) (r : Registry L) (names : List Text) :
    Unavailable loader r names ∨
      ∃ before name after, names = before ++ name :: after ∧ Unavailable loader r before ∧
        Available loader r before name := by
  induction names generalizing r with
  | nil => exact .inl ⟨by simp, trivial⟩
  | cons name rest ih =>
    have hnone : Unavailable loader r [] := ⟨by simp, trivial⟩
    cases hrecorded : r.recorded? name with
    | some library => exact .inr ⟨[], name, rest, rfl, hnone, .inl ⟨library, hrecorded⟩⟩
    | none =>
      cases ha : loader r.requests (.library name) with
      | ok library =>
        exact .inr ⟨[], name, rest, rfl, hnone, .inr ⟨hrecorded, library, by simpa using ha⟩⟩
      | error reason =>
        -- The candidates that follow are asked for with one more request in the history.
        have hcons : ∀ {names}, Unavailable loader ⟨r.slots, r.requests ++ [.library name]⟩ names →
            Unavailable loader r (name :: names) := fun h =>
          ⟨List.forall_mem_cons.2 ⟨hrecorded, h.unrecorded⟩, ⟨reason, ha⟩, h.refused⟩
        rcases ih ⟨r.slots, r.requests ++ [.library name]⟩ with
          hall | ⟨before, found, after, rfl, hbefore, havailable⟩
        · exact .inl (hcons hall)
        · refine .inr ⟨name :: before, found, after, rfl, hcons hbefore, ?_⟩
          simpa [Available, recorded?] using havailable

/-- Whatever state a registry is in, as long as no key has two slots, a resolution gives the library
of the first candidate that is recorded or that the loader opens when it is asked. The loader is
asked, in order, for the candidates up to that one that are not recorded, and no other record is
touched. If no candidate is available, the error has the name and the reason of the first, and the
records are as they were. -/
theorem resolve_fallback (nodup : (keys r.slots).Nodup) (loader : Loader L) (names : List Text) :
    Fallback loader r names (r.resolve loader (.candidates names)).1
      (r.resolve loader (.candidates names)).2 := by
  rcases unavailable_or_exists_first loader r names with
    hall | ⟨before, name, after, rfl, hbefore, havailable⟩
  · obtain ⟨r', hasked, hfirst⟩ := openFirst_append_of_unavailable nodup hall
    have hresult := hfirst none []
    rw [List.append_nil, Option.none_or, openFirst] at hresult
    cases names with
    | nil => exact .empty rfl
    | cons first rest =>
      obtain ⟨reason, herror⟩ := hall.refused.1
      simp only [firstFailure?, herror] at hresult
      rw [resolve, hresult]
      exact .failed rfl hall herror hasked
  · obtain ⟨r₁, hasked, hfirst⟩ := openFirst_append_of_unavailable nodup hbefore
    rw [resolve, hfirst, openFirst]
    rcases havailable with ⟨library, hrecorded⟩ | ⟨hrecorded, library, hok⟩
    · have hslot := recorded?_eq_some_iff.1 ((hasked.recorded name).trans hrecorded)
      rw [openOnce_of_recorded loader (.library name) hslot]
      exact .recorded rfl hbefore hrecorded hasked
    · obtain ⟨slots, hnodup, hopen, hslots⟩ := openOnce_of_unrecorded loader
        hasked.nodup ((hasked.recorded name).trans hrecorded) (.library name)
      rw [hasked.requests, hok] at hopen
      rw [hasked.requests, hok] at hslots
      rw [hopen]
      refine .opened rfl hbefore hrecorded hok (by simp) (fun key => ?_) hnodup
      rw [recorded?, hslots, hasked.recorded]
      rfl

/-- A library is open, and a slot was left empty. -/
def halfOpen : Registry Nat := ⟨[("libb.so", some 7), ("liba.so", none)], []⟩

def refusing : Loader Nat := fun _ _ => .error "no such library"

theorem resolve_fallback_repeated :
    (keys halfOpen.slots).Nodup ∧
    Fallback refusing halfOpen ["liba.so", "liba.so", "libb.so", "libc.so"] (.ok 7)
      ⟨[("libb.so", some 7)], [.library "liba.so", .library "liba.so"]⟩ := by
  have nodup : (keys halfOpen.slots).Nodup := by decide
  exact ⟨nodup, resolve_fallback nodup refusing ["liba.so", "liba.so", "libb.so", "libc.so"]⟩

end Registry
end ForeignCall
