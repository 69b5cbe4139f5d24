import ForeignCall.Proofs.Plan.Search
import ForeignCall.Registry

/-!
# What a registry remembers

The state of a registry is decided by the requests it made: the open libraries are those of the
requests that succeeded. A request is made only for a key that was not opened before.

* `Consistent` is the agreement of slots and history: one full slot for each key that was opened,
  and no request for a key after that.
* `Consistent.open_cases`: an open finds the library, or adds it, or leaves everything as it was but
  for the request made.
* `Consistent.openOnce`: an open keeps slots and history in agreement.
-/

namespace ForeignCall

/-! ## 1. Histories -/

/-- The key under which the library of a request is kept. -/
def Request.key : Request → Text
  | .process => processKey
  | .library name => name

section History

variable {L : Type} {loader : Loader L} {requests : List Request} {key : Text} {library : L}

/-- Among the requests is one for `key` that the loader answered with `library`. -/
def Opens (loader : Loader L) (requests : List Request) (key : Text) (library : L) : Prop :=
  ∃ earlier request later, requests = earlier ++ request :: later ∧ request.key = key ∧
    loader earlier request = .ok library

/-- A list with one more item at its end splits at that item or before it. -/
theorem append_singleton_eq_iff {α : Type} {items earlier later : List α} {last a : α} :
    items ++ [last] = earlier ++ a :: later ↔
    (items = earlier ∧ last = a ∧ later = []) ∨
      ∃ later', items = earlier ++ a :: later' ∧ later = later' ++ [last] := by
  rcases List.eq_nil_or_concat later with rfl | ⟨later', b, rfl⟩
  · constructor
    · intro h
      obtain ⟨hinit, hlast⟩ := List.append_inj' h rfl
      exact .inl ⟨hinit, List.singleton_inj.1 hlast, rfl⟩
    · rintro (⟨rfl, rfl, _⟩ | ⟨later', _, hnil⟩)
      · rfl
      · simp at hnil
  · rw [List.concat_eq_append]
    constructor
    · intro h
      rw [← List.cons_append, ← List.append_assoc] at h
      obtain ⟨hinit, hlast⟩ := List.append_inj' h rfl
      exact .inr ⟨later', hinit, by rw [List.singleton_inj.1 hlast]⟩
    · rintro (⟨_, _, hnil⟩ | ⟨later'', rfl, hlast⟩)
      · simp at hnil
      · rw [hlast]
        simp

/-- One more request opens what it is answered with. -/
theorem opens_append_iff {request : Request} :
    Opens loader (requests ++ [request]) key library ↔
    Opens loader requests key library ∨
      request.key = key ∧ loader requests request = .ok library := by
  constructor
  · rintro ⟨earlier, asked, later, h, hkey, hok⟩
    rcases append_singleton_eq_iff.1 h with ⟨rfl, rfl, _⟩ | ⟨later', rfl, _⟩
    · exact .inr ⟨hkey, hok⟩
    · exact .inl ⟨earlier, asked, later', rfl, hkey, hok⟩
  · rintro (⟨earlier, asked, later, rfl, hkey, hok⟩ | ⟨hkey, hok⟩)
    · exact ⟨earlier, asked, later ++ [request], by simp, hkey, hok⟩
    · exact ⟨requests, request, [], rfl, hkey, hok⟩

theorem Opens.of_prefix {requests' : List Request} (h : Opens loader requests key library)
    (hgrows : requests <+: requests') : Opens loader requests' key library := by
  obtain ⟨earlier, request, later, rfl, hkey, hok⟩ := h
  obtain ⟨more, rfl⟩ := hgrows
  exact ⟨earlier, request, later ++ more, by simp, hkey, hok⟩

theorem not_opens_nil : ¬ Opens loader [] key library := by
  rintro ⟨earlier, request, later, h, _⟩
  simp at h

end History

namespace Registry

variable {L : Type}

/-! ## 2. Slots -/

section Slots

variable {slots : List (Text × Option L)} {key : Text}

def keys (slots : List (Text × Option L)) : List Text := slots.map (·.1)

theorem slot?_eq_none_iff : slot? slots key = none ↔ key ∉ keys slots := by
  rw [slot?, Option.map_eq_none_iff, find?_key_eq_none_iff, keys]

theorem slot?_eq_some_iff (nodup : (keys slots).Nodup) {o : Option L} :
    slot? slots key = some o ↔ (key, o) ∈ slots := by
  rw [slot?, Option.map_eq_some_iff]
  constructor
  · rintro ⟨s, hs, rfl⟩
    obtain ⟨hmem, rfl⟩ := (find?_key_eq_some_iff nodup).1 hs
    exact hmem
  · intro h
    exact ⟨(key, o), (find?_key_eq_some_iff nodup).2 ⟨h, rfl⟩, rfl⟩

theorem ensureSlot_of_some {o : Option L} (h : slot? slots key = some o) :
    ensureSlot slots key = slots := by
  rw [ensureSlot, h, Option.isSome_some, if_pos rfl]

theorem ensureSlot_of_new (h : key ∉ keys slots) :
    ensureSlot slots key = slots ++ [(key, none)] := by
  rw [ensureSlot, slot?_eq_none_iff.2 h, Option.isSome_none, if_neg Bool.false_ne_true]

theorem slot?_append_new (h : key ∉ keys slots) (o : Option L) :
    slot? (slots ++ [(key, o)]) key = some o := by
  rw [slot?, List.find?_append, find?_key_eq_none_iff.2 h]
  simp

theorem fillSlot_append_new (h : key ∉ keys slots) (library : L) :
    fillSlot (slots ++ [(key, none)]) key library = slots ++ [(key, some library)] := by
  have hmap : ∀ s ∈ slots, (if s.1 = key then (key, some library) else s) = s := by
    intro s hs
    have hne : s.1 ≠ key := fun he => h (he ▸ List.mem_map_of_mem hs)
    rw [if_neg hne]
  rw [fillSlot, List.map_append, List.map_congr_left hmap]
  simp

theorem dropEmpty_append_new (h : key ∉ keys slots) :
    dropEmpty (slots ++ [(key, none)]) key = slots := by
  have hkeep : ∀ s ∈ slots, (!(s.1 = key && s.2.isNone)) = true := by
    intro s hs
    have hne : s.1 ≠ key := fun he => h (he ▸ List.mem_map_of_mem hs)
    simp [hne]
  rw [dropEmpty, List.filter_append, List.filter_eq_self.2 hkeep]
  simp

end Slots

/-! ## 3. One open -/

variable {loader : Loader L} {r : Registry L} {key : Text} {request : Request} {library : L}

theorem openOnce_of_recorded (loader : Loader L) (request : Request)
    (h : slot? r.slots key = some (some library)) :
    r.openOnce loader key request = (.ok library, r) := by
  simp only [openOnce, ensureSlot_of_some h, h]

theorem openOnce_of_ok (hnew : key ∉ keys r.slots) (h : loader r.requests request = .ok library) :
    r.openOnce loader key request =
      (.ok library, ⟨r.slots ++ [(key, some library)], r.requests ++ [request]⟩) := by
  simp only [openOnce, ensureSlot_of_new hnew, slot?_append_new hnew, h, fillSlot_append_new hnew]

theorem openOnce_of_error {reason : Text} (hnew : key ∉ keys r.slots)
    (h : loader r.requests request = .error reason) :
    r.openOnce loader key request = (.error reason, ⟨r.slots, r.requests ++ [request]⟩) := by
  simp only [openOnce, ensureSlot_of_new hnew, slot?_append_new hnew, h, dropEmpty_append_new hnew]

/-- Slots and history of a registry agree. -/
structure Consistent (loader : Loader L) (r : Registry L) : Prop where
  /-- Each key has one slot. -/
  nodup : (keys r.slots).Nodup
  /-- No slot is empty. -/
  full : ∀ s ∈ r.slots, s.2.isSome = true
  /-- The slots hold what was opened. -/
  mem_iff : ∀ key library, (key, some library) ∈ r.slots ↔ Opens loader r.requests key library
  /-- No key was asked for after it was opened. -/
  once : ∀ earlier request later, r.requests = earlier ++ request :: later →
    ∀ library, ¬ Opens loader earlier request.key library

namespace Consistent

theorem slot?_iff (h : Consistent loader r) :
    slot? r.slots key = some (some library) ↔ Opens loader r.requests key library := by
  rw [slot?_eq_some_iff h.nodup, h.mem_iff]

/-- Every key with a slot was opened. -/
theorem mem_keys_iff (h : Consistent loader r) :
    key ∈ keys r.slots ↔ ∃ library, Opens loader r.requests key library := by
  constructor
  · intro hmem
    obtain ⟨⟨k, o⟩, hs, rfl⟩ := List.mem_map.1 hmem
    obtain ⟨library, rfl⟩ := Option.isSome_iff_exists.1 (h.full _ hs)
    exact ⟨library, (h.mem_iff _ _).1 hs⟩
  · rintro ⟨library, hopens⟩
    exact List.mem_map_of_mem ((h.mem_iff _ _).2 hopens)

/-- An open finds the library, or adds it, or leaves the slots as they are. -/
theorem open_cases (h : Consistent loader r) (request : Request) :
    (∃ library, Opens loader r.requests request.key library ∧
      r.openOnce loader request.key request = (.ok library, r)) ∨
    (∃ library, loader r.requests request = .ok library ∧ request.key ∉ keys r.slots ∧
      r.openOnce loader request.key request =
        (.ok library, ⟨r.slots ++ [(request.key, some library)], r.requests ++ [request]⟩)) ∨
    (∃ reason, loader r.requests request = .error reason ∧ request.key ∉ keys r.slots ∧
      r.openOnce loader request.key request =
        (.error reason, ⟨r.slots, r.requests ++ [request]⟩)) := by
  by_cases hmem : request.key ∈ keys r.slots
  · obtain ⟨library, hopens⟩ := h.mem_keys_iff.1 hmem
    exact .inl ⟨library, hopens, openOnce_of_recorded loader request (h.slot?_iff.2 hopens)⟩
  · cases ha : loader r.requests request with
    | ok library => exact .inr (.inl ⟨library, rfl, hmem, openOnce_of_ok hmem ha⟩)
    | error reason => exact .inr (.inr ⟨reason, rfl, hmem, openOnce_of_error hmem ha⟩)

/-- A request for a new key is made after no opening of it. -/
theorem once_append (h : Consistent loader r) (hnew : request.key ∉ keys r.slots)
    (earlier : List Request) (asked : Request) (later : List Request)
    (hsplit : r.requests ++ [request] = earlier ++ asked :: later) (library : L) :
    ¬ Opens loader earlier asked.key library := by
  rcases append_singleton_eq_iff.1 hsplit with ⟨rfl, rfl, _⟩ | ⟨later', hrequests, _⟩
  · exact fun hopens => hnew (h.mem_keys_iff.2 ⟨library, hopens⟩)
  · exact h.once earlier asked later' hrequests library

/-- An open keeps slots and history in agreement. -/
theorem openOnce (h : Consistent loader r) (request : Request) :
    Consistent loader (r.openOnce loader request.key request).2 := by
  rcases h.open_cases request with ⟨library, _, heq⟩ | ⟨library, hok, hnew, heq⟩ |
    ⟨reason, herror, hnew, heq⟩
  case inl =>
    rw [heq]
    exact h
  case inr.inl =>
    rw [heq]
    refine ⟨?_, ?_, ?_, h.once_append hnew⟩
    · rw [keys, List.map_append, List.map_singleton, List.nodup_append]
      refine ⟨h.nodup, by simp, fun a ha b hb he => ?_⟩
      rw [List.mem_singleton] at hb
      rw [he, hb] at ha
      exact hnew ha
    · simpa [or_imp, forall_and] using h.full
    · intro key library'
      rw [opens_append_iff, ← h.mem_iff, List.mem_append, List.mem_singleton, Prod.mk.injEq,
        Option.some.injEq, hok, Except.ok.injEq]
      constructor
      · exact Or.imp_right fun hnew => ⟨hnew.1.symm, hnew.2.symm⟩
      · exact Or.imp_right fun hnew => ⟨hnew.1.symm, hnew.2.symm⟩
  case inr.inr =>
    rw [heq]
    refine ⟨h.nodup, h.full, fun key library => ?_, h.once_append hnew⟩
    rw [opens_append_iff, ← h.mem_iff, herror]
    simp

end Consistent

theorem empty_consistent (loader : Loader L) : Consistent loader (empty : Registry L) where
  nodup := List.nodup_nil
  full := by simp [empty]
  mem_iff := by simp [empty, not_opens_nil]
  once := by simp [empty]

end Registry
end ForeignCall
