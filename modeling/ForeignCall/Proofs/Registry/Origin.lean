import ForeignCall.Proofs.Registry.Resolution

/-!
# Where a library comes from

The process and the named libraries share their slots. A library is kept under the key of its
request, and a candidate may be spelled like the key of the process: then the two requests share one
slot, and whichever is made first decides what both are given.

* `Consistent.resolve_given`: a resolution gives what the loader gave for the key of one of its own
  requests.
* `run_keepsOrigin_iff`: runs in which a library never comes from another kind of request are those
  that do not ask for the process and for a candidate spelled like its key.
* `candidate_given_process`: such a candidate is given the process, even if the loader refuses it.
-/

namespace ForeignCall

variable {request asked : Request} {spec : LibrarySpec}

/-! ## 1. Requests and keys -/

/-- Two requests share a key only if one is for the process and the other spelled like it. -/
theorem Request.key_eq_iff :
    asked.key = request.key ↔ asked = request ∨
      (asked = .process ∧ request = .library processKey) ∨
      (asked = .library processKey ∧ request = .process) := by
  cases asked <;> cases request <;> simp [Request.key, eq_comm]

theorem LibrarySpec.process_mem_requests_iff :
    Request.process ∈ spec.requests ↔ spec = .currentProcess := by
  cases spec <;> simp [LibrarySpec.requests]

theorem LibrarySpec.library_mem_requests_iff {name : Text} :
    Request.library name ∈ spec.requests ↔ ∃ names, spec = .candidates names ∧ name ∈ names := by
  cases spec <;> simp [LibrarySpec.requests]

namespace Registry

variable {L : Type} {loader : Loader L} {r : Registry L} {library : L}

/-! ## 2. One resolution -/

/-- The loader gave the library for one of these requests. -/
def Given (loader : Loader L) (history requests : List Request) (library : L) : Prop :=
  ∃ earlier request later, history = earlier ++ request :: later ∧ request ∈ requests ∧
    loader earlier request = .ok library

/-- A resolution gives what the loader gave for the key of one of its own requests. -/
theorem Consistent.resolve_given (h : Consistent loader r)
    (hok : (r.resolve loader spec).1 = .ok library) :
    ∃ request ∈ spec.requests,
      Opens loader (r.resolve loader spec).2.requests request.key library := by
  have hresolution := h.resolution spec
  rw [hok] at hresolution
  generalize (r.resolve loader spec).2 = after at hresolution
  cases hresolution with
  | @found before _ request _ hsplit _ hopens =>
    exact ⟨request, by simp [hsplit], hopens.of_prefix (List.prefix_append _ _)⟩
  | @opened before _ request _ hsplit _ _ hanswer =>
    exact ⟨request, by simp [hsplit], opens_append_iff.2 (.inr ⟨rfl, hanswer⟩)⟩

/-- A resolution makes the first of its own requests. -/
theorem Resolution.requests_eq {requests : List Request} {result : Option L} {r' : Registry L}
    (h : Resolution loader r requests result r') :
    ∃ made, made <+: requests ∧ r'.requests = r.requests ++ made := by
  cases h with
  | failed => exact ⟨requests, List.prefix_rfl, rfl⟩
  | @found before after request _ hsplit => exact ⟨before, ⟨request :: after, hsplit.symm⟩, rfl⟩
  | @opened before after request _ hsplit =>
    exact ⟨before ++ [request], ⟨after, by simp [hsplit]⟩, List.append_assoc _ _ _⟩

theorem Consistent.mem_requests_resolve (h : Consistent loader r)
    (hmem : request ∈ (r.resolve loader spec).2.requests) :
    request ∈ r.requests ∨ request ∈ spec.requests := by
  obtain ⟨made, hmade, hrequests⟩ := (h.resolution spec).requests_eq
  rw [hrequests, List.mem_append] at hmem
  exact hmem.imp_right fun hmem => hmade.subset hmem

/-- One library is open under a key. -/
theorem Consistent.opens_unique (h : Consistent loader r) {key : Text} {library' : L}
    (hopens : Opens loader r.requests key library)
    (hopens' : Opens loader r.requests key library') : library = library' := by
  have heq := h.slot?_iff.2 hopens
  rw [h.slot?_iff.2 hopens'] at heq
  simpa using heq.symm

/-! ## 3. Runs -/

/-- Every request of a run is one of a specification of the run. -/
theorem Consistent.mem_requests_runFrom (h : Consistent loader r) {specs : List LibrarySpec}
    (hmem : request ∈ (Registry.runFrom loader r specs).requests) :
    request ∈ r.requests ∨ ∃ spec ∈ specs, request ∈ spec.requests := by
  induction specs generalizing r with
  | nil => exact .inl hmem
  | cons spec rest ih =>
    rcases ih (h.resolve spec) hmem with hmem | ⟨other, hother, hmem⟩
    · exact (h.mem_requests_resolve hmem).imp_right fun hmem => ⟨spec, List.mem_cons_self, hmem⟩
    · exact .inr ⟨other, List.mem_cons_of_mem spec hother, hmem⟩

theorem mem_requests_run {specs : List LibrarySpec} (hmem : request ∈ (run loader specs).requests) :
    ∃ spec ∈ specs, request ∈ spec.requests := by
  rcases (empty_consistent loader).mem_requests_runFrom hmem with hmem | hmem
  · cases hmem
  · exact hmem

/-- Each resolution of the run that succeeds gives a library that the loader gave for one of the
requests its specification stands for. -/
def KeepsOrigin (loader : Loader L) (specs : List LibrarySpec) : Prop :=
  ∀ before spec after, specs = before ++ spec :: after → ∀ library,
    ((run loader before).resolve loader spec).1 = .ok library →
    Given loader ((run loader before).resolve loader spec).2.requests spec.requests library

/-- The run up to and with a resolution. -/
theorem run_append_singleton (loader : Loader L) (specs : List LibrarySpec) (spec : LibrarySpec) :
    run loader (specs ++ [spec]) = ((run loader specs).resolve loader spec).2 := by
  rw [run, runFrom_append]
  rfl

/-- Without a candidate spelled like the process no two requests of a run share a key, so what is
kept for a key was given for the request. -/
theorem keepsOrigin_of_not_mixed {specs : List LibrarySpec}
    (h : ¬ (.currentProcess ∈ specs ∧ ∃ names, .candidates names ∈ specs ∧ processKey ∈ names))
    (loader : Loader L) : KeepsOrigin loader specs := by
  rintro before spec after rfl library hok
  obtain ⟨request, hrequest, earlier, asked, later, hsplit, hkey, hanswer⟩ :=
    (run_consistent loader before).resolve_given hok
  have hasked : asked ∈ (run loader (before ++ [spec])).requests := by
    rw [run_append_singleton, hsplit]
    simp
  obtain ⟨other, hother, haskedBy⟩ := mem_requests_run hasked
  have hother : other ∈ before ++ spec :: after := by
    rw [List.mem_append, List.mem_singleton] at hother
    simpa using hother.imp_right .inl
  have hspec : spec ∈ before ++ spec :: after := by simp
  rcases Request.key_eq_iff.1 hkey with rfl | ⟨rfl, rfl⟩ | ⟨rfl, rfl⟩
  · exact ⟨earlier, asked, later, hsplit, hrequest, hanswer⟩
  · obtain ⟨names, rfl, hname⟩ := LibrarySpec.library_mem_requests_iff.1 hrequest
    exact absurd ⟨LibrarySpec.process_mem_requests_iff.1 haskedBy ▸ hother, names, hspec, hname⟩ h
  · obtain ⟨names, rfl, hname⟩ := LibrarySpec.library_mem_requests_iff.1 haskedBy
    exact absurd ⟨LibrarySpec.process_mem_requests_iff.1 hrequest ▸ hspec, names, hother, hname⟩ h

/-! ## 4. A shared key -/

/-- Opens what has the key of the process, and gives the request itself as the library. -/
def likeProcess : Loader Request := fun _ request =>
  if request.key = processKey then .ok request else .error "no such library"

theorem likeProcess_eq_ok_iff {earlier : List Request} {found : Request} :
    likeProcess earlier request = .ok found ↔ request.key = processKey ∧ found = request := by
  by_cases h : request.key = processKey <;> simp [likeProcess, h, eq_comm]

theorem not_refused_likeProcess {history requests : List Request} (hmem : request ∈ requests)
    (hkey : request.key = processKey) : ¬ Refused likeProcess history requests := by
  induction requests generalizing history with
  | nil => cases hmem
  | cons first rest ih =>
    rintro ⟨⟨reason, herror⟩, hrest⟩
    rcases List.mem_cons.1 hmem with rfl | hmem
    · rw [likeProcess_eq_ok_iff.2 ⟨hkey, rfl⟩] at herror
      cases herror
    · exact ih hmem hrest

/-- A specification with a request for the key of the process is resolved. If what it is given was
given for one of its own requests, then it is that request. -/
theorem opens_of_keepsOrigin {specs : List LibrarySpec} (h : KeepsOrigin likeProcess specs)
    (hspec : spec ∈ specs) (hmem : request ∈ spec.requests) (hkey : request.key = processKey) :
    Opens likeProcess (run likeProcess specs).requests processKey request := by
  obtain ⟨before, after, rfl⟩ := List.append_of_mem hspec
  have hresolution := (run_consistent likeProcess before).resolution spec
  cases hresult : ((run likeProcess before).resolve likeProcess spec).1 with
  | error e =>
    rw [hresult] at hresolution
    generalize ((run likeProcess before).resolve likeProcess spec).2 = r' at hresolution
    cases hresolution with
    | failed hall => exact absurd hall.refused (not_refused_likeProcess hmem hkey)
  | ok library =>
    obtain ⟨earlier, asked, later, hsplit, hasked, hanswer⟩ :=
      h before spec after rfl library hresult
    obtain ⟨haskedKey, rfl⟩ := likeProcess_eq_ok_iff.1 hanswer
    -- A specification has no two requests for one key.
    have hsame : library = request := by
      rcases Request.key_eq_iff.1 (haskedKey.trans hkey.symm) with rfl | ⟨rfl, rfl⟩ | ⟨rfl, rfl⟩
      · rfl
      · rw [LibrarySpec.process_mem_requests_iff.1 hasked] at hmem
        cases hmem with
        | tail _ hmem => cases hmem
      · rw [LibrarySpec.process_mem_requests_iff.1 hmem] at hasked
        cases hasked with
        | tail _ hasked => cases hasked
    have hopens : Opens likeProcess (run likeProcess (before ++ [spec])).requests processKey
        request := by
      rw [run_append_singleton, ← hsame]
      exact ⟨earlier, library, later, hsplit, haskedKey, hanswer⟩
    refine hopens.of_prefix ?_
    have hgrows := requests_prefix_runFrom likeProcess (run likeProcess (before ++ [spec])) after
    rwa [run, ← runFrom_append, ← List.append_cons] at hgrows

/-- The runs that give, whatever the loader, no library of another kind are those that do not ask
both for the process and for a candidate spelled like its key. -/
theorem run_keepsOrigin_iff (specs : List LibrarySpec) :
    (∀ (L : Type) (loader : Loader L), KeepsOrigin loader specs) ↔
      ¬ (.currentProcess ∈ specs ∧ ∃ names, .candidates names ∈ specs ∧ processKey ∈ names) := by
  constructor
  · rintro h ⟨hprocess, names, hcandidates, hname⟩
    have hopens := opens_of_keepsOrigin (h Request likeProcess) hprocess
      (LibrarySpec.process_mem_requests_iff.2 rfl) rfl
    have hopens' := opens_of_keepsOrigin (h Request likeProcess) hcandidates
      (LibrarySpec.library_mem_requests_iff.2 ⟨names, rfl, hname⟩) rfl
    cases (run_consistent likeProcess specs).opens_unique hopens hopens'
  · intro h L loader
    exact keepsOrigin_of_not_mixed h loader

/-- Opens the process and nothing else. -/
def onlyProcess : Loader Request := fun _ request =>
  if request = .process then .ok request else .error "no such library"

/-- A candidate spelled like the process is given the process, once that is open, though the loader
was not asked for it and would refuse it. -/
theorem candidate_given_process :
    ((run onlyProcess [.currentProcess]).resolve onlyProcess (.candidates [processKey])).1 =
        .ok .process ∧
      ¬ KeepsOrigin onlyProcess [.currentProcess, .candidates [processKey]] := by
  have hgiven : ((run onlyProcess [.currentProcess]).resolve onlyProcess
      (.candidates [processKey])).1 = .ok .process := rfl
  refine ⟨hgiven, fun h => ?_⟩
  obtain ⟨earlier, request, later, _, hmem, hanswer⟩ :=
    h [.currentProcess] (.candidates [processKey]) [] rfl .process hgiven
  rw [List.mem_singleton.1 hmem] at hanswer
  cases hanswer

end Registry
end ForeignCall
