import ForeignCall.Proofs.Registry.History

/-!
# Runs of resolutions

A resolution opens on its candidates in turn. What it gives and what it leaves depends only on the
libraries that are open and on the answers of the loader.

* `Consistent.resolution`: a resolution fails on all its requests, or finds a library that is open,
  or opens one; what failed before leaves no trace but the requests.
* `run_consistent`: after every run of resolutions slots and history agree.
* `run_remembers`: a library once opened is given to every later resolution through its key, and
  what failed is asked for again.
-/

namespace ForeignCall
namespace Registry

variable {L : Type} {loader : Loader L} {r : Registry L}

/-! ## 1. One resolution -/

def openAny (loader : Loader L) : List Request → Registry L → Option L × Registry L
  | [], r => (none, r)
  | request :: rest, r =>
    match r.openOnce loader request.key request with
    | (.ok library, r) => (some library, r)
    | (.error _, r) => openAny loader rest r

theorem openFirst_eq (loader : Loader L) (failure : Option (Text × Text)) (names : List Text)
    (r : Registry L) :
    openAny loader (names.map .library) r =
      ((openFirst loader failure names r).1.toOption, (openFirst loader failure names r).2) := by
  induction names generalizing failure r with
  | nil => rfl
  | cons name rest ih =>
    rw [List.map_cons, openAny, openFirst, Request.key]
    rcases r.openOnce loader name (.library name) with ⟨reason | library, r'⟩
    · exact ih _ r'
    · rfl

end Registry

/-- The requests a specification stands for, in order. -/
def LibrarySpec.requests : LibrarySpec → List Request
  | .currentProcess => [.process]
  | .candidates names => names.map .library

namespace Registry

variable {L : Type} {loader : Loader L} {r : Registry L}

/-- A resolution opens on its requests in turn. -/
theorem openAny_requests (loader : Loader L) (r : Registry L) (spec : LibrarySpec) :
    openAny loader spec.requests r =
      ((r.resolve loader spec).1.toOption, (r.resolve loader spec).2) := by
  cases spec with
  | currentProcess =>
    simp only [LibrarySpec.requests, openAny, resolve, Request.key]
    rcases r.openOnce loader processKey .process with ⟨reason | library, r'⟩ <;> rfl
  | candidates names =>
    rw [LibrarySpec.requests, openFirst_eq loader none, resolve]
    rcases openFirst loader none names r with ⟨(_ | failure) | library, r'⟩ <;> rfl

theorem resolve_of_openAny_some {spec : LibrarySpec} {library : L} {r' : Registry L}
    (h : openAny loader spec.requests r = (some library, r')) :
    r.resolve loader spec = (.ok library, r') := by
  rw [openAny_requests] at h
  rcases hresolve : r.resolve loader spec with ⟨e | found, r₁⟩
  · simp [hresolve, Except.toOption] at h
  · rw [hresolve] at h
    cases h
    rfl

/-- The loader refuses the requests one after another. -/
def Refused (loader : Loader L) (requests : List Request) : List Request → Prop
  | [] => True
  | request :: rest =>
    (∃ reason, loader requests request = .error reason) ∧
      Refused loader (requests ++ [request]) rest

/-- No request in the list is for an open library, and the loader refuses them all in turn. -/
structure AllFail (loader : Loader L) (r : Registry L) (requests : List Request) : Prop where
  new : ∀ request ∈ requests, request.key ∉ keys r.slots
  refused : Refused loader r.requests requests

theorem AllFail.cons {request : Request} {rest : List Request} {reason : Text}
    (hnew : request.key ∉ keys r.slots) (herror : loader r.requests request = .error reason)
    (h : AllFail loader ⟨r.slots, r.requests ++ [request]⟩ rest) :
    AllFail loader r (request :: rest) :=
  ⟨List.forall_mem_cons.2 ⟨hnew, h.new⟩, ⟨reason, herror⟩, h.refused⟩

theorem requests_prefix_openOnce (loader : Loader L) (r : Registry L) (key : Text)
    (request : Request) : r.requests <+: (r.openOnce loader key request).2.requests := by
  unfold openOnce
  dsimp only
  split
  · exact List.prefix_rfl
  · cases loader r.requests request <;> exact List.prefix_append _ _

/-- Opening makes requests and takes none back. -/
theorem requests_prefix_openAny (loader : Loader L) (requests : List Request) (r : Registry L) :
    r.requests <+: (openAny loader requests r).2.requests := by
  induction requests generalizing r with
  | nil => exact List.prefix_rfl
  | cons request rest ih =>
    have hopen := requests_prefix_openOnce loader r request.key request
    rw [openAny]
    rcases hr : r.openOnce loader request.key request with ⟨reason | library, r'⟩
    · rw [hr] at hopen
      exact hopen.trans (ih r')
    · rw [hr] at hopen
      exact hopen

theorem requests_prefix_resolve (loader : Loader L) (r : Registry L) (spec : LibrarySpec) :
    r.requests <+: (r.resolve loader spec).2.requests := by
  have hgrows := requests_prefix_openAny loader spec.requests r
  rwa [openAny_requests] at hgrows

/-- Requests that fail leave only themselves. -/
theorem openAny_append_of_allFail {before : List Request} (h : AllFail loader r before)
    (after : List Request) :
    openAny loader (before ++ after) r =
      openAny loader after ⟨r.slots, r.requests ++ before⟩ := by
  induction before generalizing r with
  | nil => simp
  | cons request rest ih =>
    obtain ⟨hnew, hnews⟩ := List.forall_mem_cons.1 h.new
    obtain ⟨⟨reason, herror⟩, hrefused⟩ := h.refused
    have hrest : AllFail loader ⟨r.slots, r.requests ++ [request]⟩ rest := ⟨hnews, hrefused⟩
    rw [List.cons_append, openAny, openOnce_of_error hnew herror]
    simp only [ih hrest, List.append_assoc, List.singleton_append]

/-- What opening on requests in turn can do: give a library or none, and change the registry. -/
inductive Resolution (loader : Loader L) (r : Registry L) (requests : List Request) :
    Option L → Registry L → Prop
  /-- All requests fail. -/
  | failed :
      AllFail loader r requests →
      Resolution loader r requests none ⟨r.slots, r.requests ++ requests⟩
  /-- The requests before one whose library is open fail. -/
  | found {before after : List Request} {request : Request} {library : L} :
      requests = before ++ request :: after → AllFail loader r before →
      Opens loader r.requests request.key library →
      Resolution loader r requests (some library) ⟨r.slots, r.requests ++ before⟩
  /-- The requests before one that the loader answers fail. -/
  | opened {before after : List Request} {request : Request} {library : L} :
      requests = before ++ request :: after → AllFail loader r before →
      request.key ∉ keys r.slots → loader (r.requests ++ before) request = .ok library →
      Resolution loader r requests (some library)
        ⟨r.slots ++ [(request.key, some library)], r.requests ++ before ++ [request]⟩

/-- A request that fails comes before what the others do. -/
theorem Resolution.cons {request : Request} {rest : List Request} {reason : Text}
    {result : Option L} {r' : Registry L} (h : Consistent loader r)
    (hnew : request.key ∉ keys r.slots) (herror : loader r.requests request = .error reason)
    (hrest : Resolution loader ⟨r.slots, r.requests ++ [request]⟩ rest result r') :
    Resolution loader r (request :: rest) result r' := by
  have hnext : Consistent loader ⟨r.slots, r.requests ++ [request]⟩ := by
    have hopen := h.openOnce request
    rwa [openOnce_of_error hnew herror] at hopen
  cases hrest with
  | failed hall =>
    have hfailed := Resolution.failed (hall.cons hnew herror)
    simpa using hfailed
  | @found before after found library hsplit hall hopens =>
    have hsplit' : request :: rest = (request :: before) ++ found :: after := by
      rw [hsplit, List.cons_append]
    -- The slots are the same before and after the failure, so the library was open before it.
    rw [← hnext.mem_iff, h.mem_iff] at hopens
    have hfound := Resolution.found hsplit' (hall.cons hnew herror) hopens
    simpa using hfound
  | @opened before after found library hsplit hall hfresh hok =>
    have hsplit' : request :: rest = (request :: before) ++ found :: after := by
      rw [hsplit, List.cons_append]
    have hopened := Resolution.opened hsplit' (hall.cons hnew herror) hfresh (by simpa using hok)
    simpa using hopened

namespace Consistent

theorem openAny (h : Consistent loader r) (requests : List Request) :
    Consistent loader (openAny loader requests r).2 := by
  induction requests generalizing r with
  | nil => exact h
  | cons request rest ih =>
    have hopen := h.openOnce request
    rw [Registry.openAny]
    rcases hr : r.openOnce loader request.key request with ⟨reason | library, r'⟩
    · rw [hr] at hopen
      exact ih hopen
    · rw [hr] at hopen
      exact hopen

theorem resolve (h : Consistent loader r) (spec : LibrarySpec) :
    Consistent loader (r.resolve loader spec).2 := by
  have hopen := h.openAny spec.requests
  rwa [openAny_requests] at hopen

/-- Opening on requests in turn does one of the things it can do. The induction goes over the
requests: each opens, and ends it, or fails and leaves the slots to the others. -/
theorem openAny_resolution (h : Consistent loader r) (requests : List Request) :
    Resolution loader r requests (Registry.openAny loader requests r).1
      (Registry.openAny loader requests r).2 := by
  have hnone : AllFail loader r [] := ⟨by simp, trivial⟩
  induction requests generalizing r with
  | nil =>
    have hfailed := Resolution.failed hnone
    simpa [Registry.openAny] using hfailed
  | cons request rest ih =>
    have hnext := h.openOnce request
    have hsplit : request :: rest = [] ++ request :: rest := rfl
    rw [Registry.openAny]
    rcases h.open_cases request with ⟨library, hopens, heq⟩ | ⟨library, hok, hnew, heq⟩ |
      ⟨reason, herror, hnew, heq⟩
    case inl =>
      have hfound := Resolution.found hsplit hnone hopens
      simpa [heq] using hfound
    case inr.inl =>
      have hopened := Resolution.opened hsplit hnone hnew (by simpa using hok)
      simpa [heq] using hopened
    case inr.inr =>
      rw [heq] at hnext ⊢
      exact (ih hnext ⟨by simp, trivial⟩).cons h hnew herror

/-- Every resolution does one of the things a resolution can do. -/
theorem resolution (h : Consistent loader r) (spec : LibrarySpec) :
    Resolution loader r spec.requests (r.resolve loader spec).1.toOption
      (r.resolve loader spec).2 := by
  have hopen := h.openAny_resolution spec.requests
  rwa [openAny_requests] at hopen

end Consistent

/-- A library that is open is given to a resolution whose earlier requests fail. -/
theorem Consistent.resolve_of_opens (h : Consistent loader r) {spec : LibrarySpec}
    {before after : List Request} {request : Request} {library : L}
    (hsplit : spec.requests = before ++ request :: after) (hall : AllFail loader r before)
    (hopens : Opens loader r.requests request.key library) :
    r.resolve loader spec = (.ok library, ⟨r.slots, r.requests ++ before⟩) := by
  have hopen := openOnce_of_recorded loader request (r := ⟨r.slots, r.requests ++ before⟩)
    (h.slot?_iff.2 hopens)
  refine resolve_of_openAny_some ?_
  rw [hsplit, openAny_append_of_allFail hall, Registry.openAny, hopen]

/-- A library that is not open is asked for by a resolution whose earlier requests fail. -/
theorem requests_resolve_of_new {spec : LibrarySpec} {before after : List Request}
    {request : Request} (hsplit : spec.requests = before ++ request :: after)
    (hall : AllFail loader r before) (hnew : request.key ∉ keys r.slots) :
    r.requests ++ before ++ [request] <+: (r.resolve loader spec).2.requests := by
  have hresolve := congrArg Prod.snd (openAny_requests loader r spec)
  rw [hsplit, openAny_append_of_allFail hall, openAny] at hresolve
  rw [← hresolve]
  cases ha : loader (r.requests ++ before) request with
  | ok library =>
    have hopen := openOnce_of_ok (r := ⟨r.slots, r.requests ++ before⟩) hnew ha
    simp [hopen]
  | error reason =>
    have hopen := openOnce_of_error (r := ⟨r.slots, r.requests ++ before⟩) hnew ha
    rw [hopen]
    exact requests_prefix_openAny loader after ⟨r.slots, r.requests ++ before ++ [request]⟩

/-! ## 2. Runs -/

/-- Resolves specifications one after another. -/
def runFrom (loader : Loader L) (r : Registry L) : List LibrarySpec → Registry L
  | [] => r
  | spec :: rest => runFrom loader (r.resolve loader spec).2 rest

/-- Resolves specifications one after another with a new registry. -/
def run (loader : Loader L) (specs : List LibrarySpec) : Registry L := runFrom loader empty specs

theorem runFrom_append (loader : Loader L) (r : Registry L) (specs more : List LibrarySpec) :
    runFrom loader r (specs ++ more) = runFrom loader (runFrom loader r specs) more := by
  induction specs generalizing r with
  | nil => rfl
  | cons spec rest ih => exact ih (r.resolve loader spec).2

theorem requests_prefix_runFrom (loader : Loader L) (r : Registry L) (specs : List LibrarySpec) :
    r.requests <+: (runFrom loader r specs).requests := by
  induction specs generalizing r with
  | nil => exact List.prefix_rfl
  | cons spec rest ih =>
    exact (requests_prefix_resolve loader r spec).trans (ih (r.resolve loader spec).2)

namespace Consistent

theorem runFrom (h : Consistent loader r) (specs : List LibrarySpec) :
    Consistent loader (runFrom loader r specs) := by
  induction specs generalizing r with
  | nil => exact h
  | cons spec rest ih => exact ih (h.resolve spec)

/-- The list of open libraries has the keys of the slots. -/
theorem opened_perm (h : Consistent loader r) : r.opened.Perm (keys r.slots) := by
  rw [opened, List.filter_eq_self.2 h.full, keys]
  exact List.mergeSort_perm _ _

/-- The list of open libraries is in strict order. -/
theorem opened_before (h : Consistent loader r) : r.opened.Pairwise Text.Before := by
  refine Text.pairwise_before ?_ (h.opened_perm.nodup_iff.2 h.nodup)
  exact List.pairwise_mergeSort Text.le_trans Text.le_total _

/-- The list of open libraries has the keys that were opened. -/
theorem mem_opened_iff (h : Consistent loader r) {key : Text} :
    key ∈ r.opened ↔ ∃ library, Opens loader r.requests key library := by
  rw [h.opened_perm.mem_iff, h.mem_keys_iff]

end Consistent

theorem run_consistent (loader : Loader L) (specs : List LibrarySpec) :
    Consistent loader (run loader specs) :=
  (empty_consistent loader).runFrom specs

/-- What a registry remembers of its history, and what its next resolution does. -/
structure Remembers (loader : Loader L) (r : Registry L) : Prop where
  /-- A request is made only for a key that was not opened before. -/
  once : ∀ earlier request later, r.requests = earlier ++ request :: later →
    ∀ library, ¬ Opens loader earlier request.key library
  /-- No slot is empty. -/
  full : ∀ s ∈ r.slots, s.2.isSome = true
  /-- The slots are those of the open libraries. -/
  opened_perm : r.opened.Perm (keys r.slots)
  /-- The open libraries are listed in strict order. -/
  opened_before : r.opened.Pairwise Text.Before
  /-- The open libraries are those of the requests that succeeded. -/
  mem_opened_iff : ∀ key, key ∈ r.opened ↔ ∃ library, Opens loader r.requests key library
  /-- A resolution changes the slots at most by a library it opened. -/
  resolution : ∀ spec : LibrarySpec, Resolution loader r spec.requests
    (r.resolve loader spec).1.toOption (r.resolve loader spec).2
  /-- A library that is not open is asked for when its turn comes. -/
  asks : ∀ (spec : LibrarySpec) (before : List Request) (request : Request)
    (after : List Request), spec.requests = before ++ request :: after →
    AllFail loader r before → request.key ∉ r.opened →
    r.requests ++ before ++ [request] <+: (r.resolve loader spec).2.requests

theorem Consistent.remembers (h : Consistent loader r) : Remembers loader r where
  once := h.once
  full := h.full
  opened_perm := h.opened_perm
  opened_before := h.opened_before
  mem_opened_iff _ := h.mem_opened_iff
  resolution := h.resolution
  asks _ _ _ _ hsplit hall hnew :=
    requests_resolve_of_new hsplit hall (mt h.opened_perm.mem_iff.2 hnew)

/-- After every run of resolutions the registry remembers what was opened and nothing else. What is
open stays open, and every later resolution whose turn comes to its key is given the library that
was opened, which is not asked for again. -/
theorem run_remembers (loader : Loader L) (specs more : List LibrarySpec) :
    Remembers loader (run loader specs) ∧
    (∀ key ∈ (run loader specs).opened, key ∈ (run loader (specs ++ more)).opened) ∧
    ∀ key library, Opens loader (run loader specs).requests key library →
      ∀ (spec : LibrarySpec) (before : List Request) (request : Request) (after : List Request),
        spec.requests = before ++ request :: after → request.key = key →
        AllFail loader (run loader (specs ++ more)) before →
        (run loader (specs ++ more)).resolve loader spec =
          (.ok library, { run loader (specs ++ more) with
            requests := (run loader (specs ++ more)).requests ++ before }) := by
  have hgrows : (run loader specs).requests <+: (run loader (specs ++ more)).requests := by
    rw [run, run, runFrom_append]
    exact requests_prefix_runFrom loader _ more
  have hlater := run_consistent loader (specs ++ more)
  refine ⟨(run_consistent loader specs).remembers, ?_, ?_⟩
  · intro key hkey
    obtain ⟨library, hopens⟩ := (run_consistent loader specs).mem_opened_iff.1 hkey
    exact hlater.mem_opened_iff.2 ⟨library, hopens.of_prefix hgrows⟩
  · rintro key library hopens spec before request after hsplit rfl hall
    exact hlater.resolve_of_opens hsplit hall (hopens.of_prefix hgrows)

end Registry
end ForeignCall
